import ContentAccess.Content.Snapshot
import ContentAccess.Error
import ContentAccess.Json.Reader

/-!
# Snapshots as JSON

A node is a record with a name, a type marker, properties and children.  What a
node does not have is left out when it is written.
-/

namespace ContentAccess

/-- A property value as a string or an array of strings. -/
def PropertyValue.toJson : PropertyValue → Json
  | single text => .string text
  | multiple texts => .array (texts.map .string)

/-- Reads a property value from a string or an array of strings. -/
def PropertyValue.ofJson? : Json → Option PropertyValue
  | .string text => some (single text)
  | json => json.texts?.map multiple

/-- The properties as an object. -/
def Properties.toJson (properties : Properties) : Json :=
  .object (properties.entries.map fun entry => (entry.1, entry.2.toJson))

/-- Reads properties from an object; of two members of one name the later counts. -/
def Properties.ofJson? : Json → Option Properties
  | .object members =>
      (members.mapM fun member => (PropertyValue.ofJson? member.2).map (member.1, ·)).map ofList
  | _ => none

namespace Snapshot

/-- Reads a type marker, where null stands for none. -/
def typeOfJson? : Option Json → Option (Option String)
  | none | some .null => some none
  | some json => json.text?.map some

mutual

/-- The snapshot as a record. -/
def toJson : Snapshot → Json
  | ⟨name, typeMarker, properties, children⟩ =>
      .object ([("name", .string name)] ++
        (typeMarker.map fun typeMarker => ("type", Json.string typeMarker)).toList ++
        (if properties.isEmpty then [] else [("properties", properties.toJson)]) ++
        (if children.isEmpty then [] else [("children", .array (listToJson children))]))

/-- The snapshots as records. -/
def listToJson : List Snapshot → List Json
  | [] => []
  | snapshot :: rest => toJson snapshot :: listToJson rest

end

mutual

/-- Reads a snapshot from a record; missing fields are empty. -/
def ofJson? (json : Json) : Option Snapshot :=
  match _fields : json.fields? fieldNames with
  | some [name, typeMarker, properties, children] => do
      let name ← name.elim (some "") Json.text?
      let typeMarker ← typeOfJson? typeMarker
      let properties ← properties.elim (some .empty) Properties.ofJson?
      let children ← match _listed : children with
        | none => some []
        | some (.array items) => listOfJson? items
        | some _ => none
      return { name, typeMarker, properties, children }
  | _ => none
termination_by sizeOf json
decreasing_by
  have smaller : sizeOf (Json.array items) < sizeOf json :=
    Json.sizeOf_lt_of_fields? _fields (by simp [_listed])
  simp only [Json.array.sizeOf_spec] at smaller
  omega

/-- Reads a list of snapshots from records. -/
def listOfJson? : List Json → Option (List Snapshot)
  | [] => some []
  | json :: rest => do return (← ofJson? json) :: (← listOfJson? rest)
termination_by items => sizeOf items

end

/-- Reads a snapshot from JSON text. -/
def readJson (text : String) : Except AccessError Snapshot :=
  match (Json.parse? text).bind ofJson? with
  | some snapshot => .ok snapshot
  | none => .error .unreadableJson

end Snapshot
end ContentAccess
