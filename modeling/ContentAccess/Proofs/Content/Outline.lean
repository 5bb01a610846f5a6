import ContentAccess.Content.Outline
import ContentAccess.Proofs.Content.Capture
import ContentAccess.Proofs.Content.Simulation

/-!
# Stores as outlines

A store can be told by nesting alone, with its path written at every node.  The nodes of the
outline answer like those of the store, but they give no first value of a property with
several values, and no list for a property with one.
-/

namespace ContentAccess

open ContentNode

/-- The value as an outline has it. -/
def PropertyValue.outlined : PropertyValue → OutlineValue
  | .single text => .text text
  | .multiple texts => .texts texts

namespace Snapshot

mutual

/-- The node at a path, with everything below it, as an outline. -/
def outlined (path : String) : Snapshot → Outline
  | ⟨name, typeMarker, properties, children⟩ =>
      ⟨path, name, typeMarker, properties.entries.map fun entry => (entry.1, entry.2.outlined),
        outlinedBelow path children⟩

/-- The nodes below a path as outlines. -/
def outlinedBelow (path : String) : List Snapshot → List Outline
  | [] => []
  | child :: rest => child.outlined (Path.child path child.name) :: outlinedBelow path rest

end

theorem outlinedBelow_eq
    (path : String)
    (children : List Snapshot) :
    outlinedBelow path children =
      children.map fun child => child.outlined (Path.child path child.name) := by
  induction children with
  | nil => rfl
  | cons child rest step => rw [outlinedBelow, List.map_cons, step]

end Snapshot

namespace Store

variable {store : Store}

/-- The node with everything below it as an outline. -/
def outlineOf (place : store.Place) : Outline :=
  (store.snapshotAt place.index).outlined (path place)

/-- The node as a node of the outline of its store. -/
def outlined (place : store.Place) : Outline.Place where
  here := outlineOf place
  above := (lineage place).tail.map outlineOf

/-- The node of the outline stands for the node of the store. -/
def IsOutlined (place : store.Place) (shown : Outline.Place) : Prop :=
  shown = outlined place

theorem isOutlined
    (place : store.Place) :
    IsOutlined place (outlined place) :=
  rfl

theorem parent?_outlined
    (place : store.Place) :
    (outlined place).parent? = (parent? place).map outlined := by
  unfold outlined
  cases isAbove : parent? place with
  | none => simp [Outline.Place.parent?, lineage_of_root isAbove]
  | some above =>
      rw [lineage_of_parent isAbove, List.tail_cons, lineage_eq_cons above]
      rfl

theorem lookup_outlined
    (entries : List (String × PropertyValue))
    (name : String) :
    (entries.map fun entry => (entry.1, entry.2.outlined)).lookup name =
      (entries.lookup name).map PropertyValue.outlined := by
  induction entries with
  | nil => rfl
  | cons entry rest step =>
      rw [List.map_cons, List.lookup_cons, List.lookup_cons, step]
      cases name == entry.1 <;> rfl

namespace WellLinked

/-- An outline of a node repeats what the node answers. -/
theorem outlineOf_eq
    (linked : store.WellLinked)
    (place : store.Place) :
    outlineOf place =
      ⟨path place, ContentNode.name place, typeMarker? place,
        place.entry.properties.entries.map fun entry => (entry.1, entry.2.outlined),
        (children place).map outlineOf⟩ := by
  have below : ((children place).map fun child => store.snapshotAt child.index).map
        (fun child => child.outlined (Path.child (path place) child.name)) =
      (children place).map outlineOf := by
    rw [List.map_map]
    refine List.map_congr_left fun child member => ?_
    have isAbove := linked.parent?_eq_some_iff.mp (linked.mem_children_iff.mp member)
    obtain ⟨_, _, _, extended⟩ := linked.below_parentAt? child.index.isLt isAbove
    change (store.snapshotAt child.index).outlined _ = outlineOf child
    rw [linked.name_snapshotAt child.index.isLt, path_eq_pathAt, ← extended, ← path_eq_pathAt]
    rfl
  have childNumbers : (store.childrenAt place.index).map store.snapshotAt =
      (children place).map fun child => store.snapshotAt child.index := by
    rw [← linked.map_children place, List.map_map]
    rfl
  rw [outlineOf, linked.snapshotAt_eq place.index.isLt, Snapshot.outlined,
    Snapshot.outlinedBelow_eq, childNumbers, below, ← name_eq_nameAt, typeMarkerAt,
    place.elim_entry, propertiesAt, place.elim_entry]
  rfl

theorem children_outlined
    (linked : store.WellLinked)
    (place : store.Place) :
    (outlined place).children = (children place).map outlined := by
  have nested : (outlined place).here.children = (children place).map outlineOf :=
    congrArg Outline.children (linked.outlineOf_eq place)
  rw [Outline.Place.children, nested, List.map_map]
  refine List.map_congr_left fun child member => ?_
  have isAbove := linked.mem_children_iff.mp member
  change _ = Outline.Place.mk (outlineOf child) ((lineage child).tail.map outlineOf)
  rw [lineage_of_parent isAbove, List.tail_cons, lineage_eq_cons place]
  rfl

/-- A child is the node below that has its name. -/
theorem child?_eq_find?
    (linked : store.WellLinked)
    (place : store.Place)
    (name : String) :
    child? place name = (children place).find? fun child => ContentNode.name child == name := by
  cases search : (children place).find? fun child => ContentNode.name child == name with
  | some child =>
      have isAbove := linked.mem_children_iff.mp (List.mem_of_find?_eq_some search)
      have named := List.find?_some search
      exact linked.child?_eq_some_iff.mpr ⟨isAbove, beq_iff_eq.mp named⟩
  | none =>
      rw [Option.eq_none_iff_forall_ne_some]
      intro child isChild
      obtain ⟨isAbove, named⟩ := linked.child?_eq_some_iff.mp isChild
      have unnamed := List.find?_eq_none.mp search child (linked.mem_children_iff.mpr isAbove)
      exact unnamed (beq_iff_eq.mpr named)

theorem property?_outlined
    (linked : store.WellLinked)
    (place : store.Place)
    (name : String) :
    (outlined place).property? name =
      (place.entry.properties.get? name).map PropertyValue.outlined := by
  have listed := congrArg Outline.properties (linked.outlineOf_eq place)
  rw [Outline.Place.property?, outlined, listed]
  exact lookup_outlined place.entry.properties.entries name

theorem hasProperty_outlined
    (linked : store.WellLinked)
    (place : store.Place)
    (name : String) :
    hasProperty (outlined place) name = hasProperty place name := by
  simp only [ContentNode.hasProperty, linked.property?_outlined, Option.isSome_map]

theorem hasSeveral_outlined
    (linked : store.WellLinked)
    (place : store.Place)
    (name : String) :
    hasSeveral (outlined place) name = hasSeveral place name := by
  simp only [ContentNode.hasSeveral, linked.property?_outlined]
  rcases place.entry.properties.get? name with _ | text | texts <;> rfl

/-- An outline has no first value of a list. -/
theorem value?_outlined
    (linked : store.WellLinked)
    (place : store.Place)
    (name : String) :
    value? (outlined place) name = if hasSeveral place name then none else value? place name := by
  simp only [ContentNode.value?, ContentNode.hasSeveral, linked.property?_outlined]
  rcases place.entry.properties.get? name with _ | text | texts <;> rfl

/-- An outline has no list for a value that stands alone. -/
theorem values_outlined
    (linked : store.WellLinked)
    (place : store.Place)
    (name : String) :
    values (outlined place) name = if hasSeveral place name then values place name else [] := by
  simp only [ContentNode.values, ContentNode.hasSeveral, linked.property?_outlined]
  rcases place.entry.properties.get? name with _ | text | texts <;> rfl

theorem child?_outlined
    (linked : store.WellLinked)
    (place : store.Place)
    (name : String) :
    child? (outlined place) name = (child? place name).map outlined := by
  change ((outlined place).children.find? fun child => child.here.name == name) = _
  have sameName (child : store.Place) : (outlined child).here.name = ContentNode.name child :=
    congrArg Outline.name (linked.outlineOf_eq child)
  rw [linked.children_outlined, List.find?_map, linked.child?_eq_find?]
  simp only [Function.comp_def, sameName]

/-- The nodes of a store and the nodes of its outline answer alike. -/
theorem simulation_outlined
    (linked : store.WellLinked) :
    Simulation (@IsOutlined store) where
  path := by
    rintro place _ rfl
    exact (congrArg Outline.path (linked.outlineOf_eq place)).symm
  name := by
    rintro place _ rfl
    exact (congrArg Outline.name (linked.outlineOf_eq place)).symm
  typeMarker := by
    rintro place _ rfl
    exact (congrArg Outline.typeMarker (linked.outlineOf_eq place)).symm
  hasProperty := by
    rintro place _ rfl name
    exact (linked.hasProperty_outlined place name).symm
  hasSeveral := by
    rintro place _ rfl name
    exact (linked.hasSeveral_outlined place name).symm
  value := by
    rintro place _ rfl name _ single
    rw [linked.value?_outlined, single, if_neg Bool.false_ne_true]
  values := by
    rintro place _ rfl name several
    rw [linked.values_outlined, if_pos several]
  parent := by
    rintro place _ rfl
    change Option.Rel _ (parent? place) (outlined place).parent?
    rw [parent?_outlined]
    exact rel_map_self fun above _ => isOutlined above
  child := by
    rintro place _ rfl name
    rw [linked.child?_outlined]
    exact rel_map_self fun child _ => isOutlined child
  children := by
    rintro place _ rfl
    change List.Forall₂ _ (children place) (outlined place).children
    rw [linked.children_outlined, List.forall₂_map_right_iff, List.forall₂_same]
    exact fun child _ => isOutlined child

end WellLinked
end Store
end ContentAccess
