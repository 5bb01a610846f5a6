import ContentAccess.Content.Node
import ContentAccess.Content.Snapshot
import ContentAccess.Error
import ContentAccess.Path

/-!
# Stores

A content tree that is built up path by path.  The entries are numbered in the
order in which they were added; the root has number zero.  Every entry knows the
numbers of its parent and of its children, and its path.
-/

namespace ContentAccess

/-- One node of a store. -/
structure Entry where
  name : String
  path : String
  /-- The number of the node above. -/
  parent : Option Nat
  typeMarker : Option String
  properties : Properties
  /-- The numbers of the nodes below, in the order they were added. -/
  children : List Nat
  deriving DecidableEq

/-- A new node with nothing but a name. -/
def Entry.new (name path : String) (parent : Option Nat) : Entry where
  name := name
  path := path
  parent := parent
  typeMarker := none
  properties := .empty
  children := []

/-- A content tree; there is always a root. -/
structure Store where
  entries : Array Entry
  nonempty : 0 < entries.size
  deriving DecidableEq

namespace Store

/-- The tree that is only a root. -/
def empty : Store where
  entries := #[Entry.new "" "/" none]
  nonempty := by simp

instance : Inhabited Store := ⟨empty⟩

/-- The number of nodes. -/
def size (store : Store) : Nat :=
  store.entries.size

/-- The tree is only a root. -/
def isOnlyRoot (store : Store) : Bool :=
  store.size ≤ 1

/-- Changes one node. -/
def modify (store : Store) (index : Nat) (change : Entry → Entry) : Store where
  entries := store.entries.modify index change
  nonempty := by simpa using store.nonempty

/-- The number of the child of this name. -/
def childNumber? (store : Store) (parent : Nat) (name : String) : Option Nat :=
  (store.entries[parent]?).bind fun entry =>
    entry.children.find? fun child =>
      (store.entries[child]?).any fun childEntry => childEntry.name == name

/-- The path of a node. -/
def pathAt (store : Store) (index : Nat) : String :=
  (store.entries[index]?).elim "/" Entry.path

/-- Adds a child at the end, and gives its number. -/
def addChild (store : Store) (parent : Nat) (name : String) : Store × Nat :=
  let index := store.size
  let added : Store := {
    entries := store.entries.push (Entry.new name (Path.child (store.pathAt parent) name) parent)
    nonempty := by simp }
  (added.modify parent fun entry => { entry with children := entry.children ++ [index] }, index)

/-- The child of this name, added if it is missing. -/
def reachChild (store : Store) (parent : Nat) (name : String) : Store × Nat :=
  match store.childNumber? parent name with
  | some index => (store, index)
  | none => store.addChild parent name

/-- The node that segments lead to, with all missing nodes on the way added. -/
def reachFrom (store : Store) (index : Nat) : List String → Store × Nat
  | [] => (store, index)
  | segment :: rest =>
      let (store, index) := store.reachChild index segment
      store.reachFrom index rest

/-- The node at a path, with all missing nodes on the way added. -/
def reach (store : Store) (path : String) : Store × Nat :=
  store.reachFrom 0 (Path.segments path)

/-- Adds the nodes along a path. -/
def insert (store : Store) (path : String) : Store :=
  (store.reach path).1

/-- Sets the type marker of the node at a path. -/
def setTypeMarker (store : Store) (path typeMarker : String) : Store :=
  let (store, index) := store.reach path
  store.modify index fun entry => { entry with typeMarker := some typeMarker }

/-- Sets a property of the node at a path. -/
def insertProperty (store : Store) (path name : String) (value : PropertyValue) : Store :=
  let (store, index) := store.reach path
  store.modify index fun entry => { entry with properties := entry.properties.insert name value }

/-- The number of the node that segments lead to. -/
def follow? (store : Store) (index : Nat) : List String → Option Nat
  | [] => some index
  | segment :: rest => (store.childNumber? index segment).bind fun child => store.follow? child rest

/-- The number of the node at a path. -/
def index? (store : Store) (path : String) : Option Nat :=
  store.follow? 0 (Path.segments path)

/-- A node of a store. -/
structure Place (store : Store) where
  index : Fin store.entries.size
  deriving DecidableEq

/-- The node of this number. -/
def place? (store : Store) (index : Nat) : Option store.Place :=
  if bound : index < store.entries.size then some ⟨⟨index, bound⟩⟩ else none

/-- The root. -/
def root (store : Store) : store.Place :=
  ⟨⟨0, store.nonempty⟩⟩

/-- The node at a path. -/
def node? (store : Store) (path : String) : Option store.Place :=
  (store.index? path).bind store.place?

namespace Place

variable {store : Store}

/-- What the store holds of a node. -/
def entry (place : store.Place) : Entry :=
  store.entries[place.index]

/-- The node above; it was added earlier. -/
def parent? (place : store.Place) : Option store.Place :=
  match place.entry.parent with
  | some parent =>
      if earlier : parent < place.index then some ⟨⟨parent, Nat.lt_trans earlier place.index.isLt⟩⟩
      else none
  | none => none

/-- A parent has a smaller number. -/
theorem index_lt_of_parent? {place above : store.Place} (found : place.parent? = some above) :
    above.index.val < place.index.val := by
  unfold parent? at found
  split at found
  · split at found
    · rename_i earlier
      cases found
      exact earlier
    · cases found
  · cases found

/-- The node is the root of its tree. -/
def isRoot (place : store.Place) : Bool :=
  place.parent?.isNone

end Place

instance (store : Store) : ContentNode store.Place where
  path place := place.entry.path
  name place := place.entry.name
  typeMarker? place := place.entry.typeMarker
  parent? := Place.parent?
  child? place name := (store.childNumber? place.index name).bind store.place?
  children place := place.entry.children.filterMap store.place?
  hasProperty place name := (place.entry.properties.get? name).isSome
  hasSeveral place name := (place.entry.properties.get? name).any PropertyValue.isMultiple
  value? place name := (place.entry.properties.get? name).bind PropertyValue.first?
  values place name := (place.entry.properties.get? name).elim [] PropertyValue.texts
  parents_end :=
    Subrelation.wf Place.index_lt_of_parent? (measure fun place : store.Place => place.index.val).wf

/-- The part of a tree from a node down.  Children come after their parent. -/
def snapshotAt (store : Store) (index : Nat) : Snapshot :=
  match store.entries[index]? with
  | none => default
  | some entry => {
      name := entry.name
      typeMarker := entry.typeMarker
      properties := entry.properties
      children := entry.children.filterMap fun child =>
        if _later : index < child ∧ child < store.size then some (store.snapshotAt child)
        else none }
termination_by store.size - index
decreasing_by omega

/-- The whole tree. -/
def snapshot (store : Store) : Snapshot :=
  store.snapshotAt 0

/-- A name that a path can spell. -/
def isSegment (name : String) : Bool :=
  !name.isEmpty && !name.toList.contains '/'

mutual

/-- Adds a snapshot below a node.  A child of that name is extended: the type
marker and the properties of the snapshot come in place of those it has. -/
def graft (store : Store) (parent : Nat) : Snapshot → Except AccessError Store
  | ⟨name, typeMarker, properties, children⟩ =>
      if isSegment name then
        let (store, index) := store.reachChild parent name
        let store := store.modify index fun entry => { entry with
          typeMarker := typeMarker.or entry.typeMarker
          properties := entry.properties.insertAll properties.entries }
        store.graftAll index children
      else
        .error (.invalidName name (store.pathAt parent))

/-- Adds snapshots below a node, one after another. -/
def graftAll (store : Store) (parent : Nat) : List Snapshot → Except AccessError Store
  | [] => .ok store
  | snapshot :: rest => do (← store.graft parent snapshot).graftAll parent rest

end

/-- The tree that a snapshot describes. -/
def ofSnapshot (snapshot : Snapshot) : Except AccessError Store :=
  let store := empty.modify 0 fun entry => { entry with
    typeMarker := snapshot.typeMarker
    properties := snapshot.properties }
  store.graftAll 0 snapshot.children

end Store
end ContentAccess
