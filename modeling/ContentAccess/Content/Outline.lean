import ContentAccess.Content.Node

/-!
# Outlines

A content tree that is given by nesting alone.  Paths and names are whatever the
nodes say, and a property may be present without a value.
-/

namespace ContentAccess

/-- What an outline says of a property. -/
inductive OutlineValue where
  | text (text : String)
  | texts (texts : List String)
  | absent
  deriving DecidableEq, Repr

/-- A node of an outline with everything below it. -/
structure Outline where
  path : String
  name : String
  typeMarker : Option String
  properties : List (String × OutlineValue)
  children : List Outline
  deriving Inhabited

namespace Outline

/-- A node of an outline, with the nodes above it from the nearest on. -/
structure Place where
  here : Outline
  above : List Outline

namespace Place

/-- What the outline says of a property of a node. -/
def property? (place : Place) (name : String) : Option OutlineValue :=
  place.here.properties.lookup name

/-- The node above. -/
def parent? (place : Place) : Option Place :=
  match place.above with
  | [] => none
  | parent :: above => some ⟨parent, above⟩

/-- The nodes below. -/
def children (place : Place) : List Place :=
  place.here.children.map fun child => ⟨child, place.here :: place.above⟩

/-- A parent has fewer nodes above it. -/
theorem length_lt_of_parent? {place above : Place} (found : place.parent? = some above) :
    above.above.length < place.above.length := by
  unfold parent? at found
  split at found
  · cases found
  · rename_i equal
    cases found
    simp [equal]

end Place

instance : ContentNode Place where
  path place := place.here.path
  name place := place.here.name
  typeMarker? place := place.here.typeMarker
  parent? := Place.parent?
  child? place name := place.children.find? fun child => child.here.name == name
  children := Place.children
  hasProperty place name := (place.property? name).isSome
  hasSeveral place name :=
    match place.property? name with
    | some (.texts _) => true
    | _ => false
  value? place name :=
    match place.property? name with
    | some (.text text) => some text
    | _ => none
  values place name :=
    match place.property? name with
    | some (.texts texts) => texts
    | _ => []
  parents_end :=
    Subrelation.wf Place.length_lt_of_parent? (measure fun place : Place => place.above.length).wf

mutual

/-- A node and all nodes below it, each before the nodes below it. -/
def placesFrom (above : List Outline) : Outline → List Place
  | ⟨path, name, typeMarker, properties, children⟩ =>
      let here : Outline := ⟨path, name, typeMarker, properties, children⟩
      ⟨here, above⟩ :: placesFromAll (here :: above) children

/-- The nodes of several outlines, one after another. -/
def placesFromAll (above : List Outline) : List Outline → List Place
  | [] => []
  | outline :: rest => placesFrom above outline ++ placesFromAll above rest

end

/-- All nodes, each before the nodes below it. -/
def places (outline : Outline) : List Place :=
  placesFrom [] outline

end Outline
end ContentAccess
