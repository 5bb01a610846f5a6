import ContentAccess.Content.Property

/-!
# Snapshots

A tree as nested nodes, the form in which trees are stored and sent.
-/

namespace ContentAccess

/-- A node with everything below it. -/
structure Snapshot where
  /-- The last segment of the path; that of the outermost node does not matter. -/
  name : String
  typeMarker : Option String
  properties : Properties
  children : List Snapshot

namespace Snapshot

mutual

/-- Equality of snapshots is decidable. -/
def decEq : (first second : Snapshot) → Decidable (first = second)
  | ⟨name, typeMarker, properties, children⟩, ⟨name', typeMarker', properties', children'⟩ =>
      if nameEqual : name = name' then
        if typeEqual : typeMarker = typeMarker' then
          if propertiesEqual : properties = properties' then
            match decEqList children children' with
            | isTrue childrenEqual =>
                isTrue (by rw [nameEqual, typeEqual, propertiesEqual, childrenEqual])
            | isFalse different =>
                isFalse fun equal => different (congrArg Snapshot.children equal)
          else
            isFalse fun equal => propertiesEqual (congrArg Snapshot.properties equal)
        else
          isFalse fun equal => typeEqual (congrArg Snapshot.typeMarker equal)
      else
        isFalse fun equal => nameEqual (congrArg Snapshot.name equal)

/-- Equality of lists of snapshots is decidable. -/
def decEqList : (first second : List Snapshot) → Decidable (first = second)
  | [], [] => isTrue rfl
  | [], _ :: _ => isFalse fun equal => by cases equal
  | _ :: _, [] => isFalse fun equal => by cases equal
  | first :: rest, first' :: rest' =>
      match decEq first first', decEqList rest rest' with
      | isTrue firstEqual, isTrue restEqual => isTrue (by rw [firstEqual, restEqual])
      | isFalse different, _ => isFalse fun equal => different (List.cons.inj equal).1
      | _, isFalse different => isFalse fun equal => different (List.cons.inj equal).2

end

instance : DecidableEq Snapshot := decEq

instance : Inhabited Snapshot := ⟨"", none, .empty, []⟩

/-- The names of the fields in written snapshots, in order. -/
def fieldNames : List String :=
  ["name", "type", "properties", "children"]

end Snapshot
end ContentAccess
