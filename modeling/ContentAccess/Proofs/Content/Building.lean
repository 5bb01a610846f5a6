import ContentAccess.Proofs.Content.Links

/-!
# Stores that are built

A store starts as a root or is read from a snapshot, and then changes path by path.
Each of these steps keeps it linked, whatever the paths and names are.
-/

namespace ContentAccess
namespace Store

/-! ## Changes -/

/-- A change of a store. -/
inductive Change where
  /-- Adds the nodes along a path. -/
  | insert (path : String)
  /-- Sets the type marker of the node at a path. -/
  | setTypeMarker (path typeMarker : String)
  /-- Sets a property of the node at a path. -/
  | insertProperty (path name : String) (value : PropertyValue)
  deriving DecidableEq, Repr

/-- The store after a change. -/
def Change.apply (store : Store) : Change → Store
  | .insert path => store.insert path
  | .setTypeMarker path typeMarker => store.setTypeMarker path typeMarker
  | .insertProperty path name value => store.insertProperty path name value

/-- Stores that are a root or read from a snapshot, after any number of changes. -/
inductive Built : Store → Prop where
  | empty : Built .empty
  | read
      {snapshot : Snapshot}
      {store : Store}
      (reads : ofSnapshot snapshot = .ok store) :
      Built store
  | changed
      {store : Store}
      (built : Built store)
      (change : Change) :
      Built (change.apply store)

/-! ## Reaching a node -/

section Reaching

variable {store : Store} {index parent : Nat} {name : String}

theorem isSegment_eq_true_iff : isSegment name = true ↔ Path.IsSegment name := by
  simp [isSegment, Path.IsSegment]

/-- A node of a linked store that has grown from another. -/
structure Reached (former : Store) (found : Store × Nat) : Prop where
  linked : found.1.WellLinked
  inside : found.2 < found.1.size
  grown : former.size ≤ found.1.size

/-- A child is reached whether it was there or not. -/
theorem WellLinked.reachChild
    (linked : store.WellLinked)
    (inside : parent < store.size)
    (segment : Path.IsSegment name) :
    Reached store (store.reachChild parent name) := by
  cases found : store.childNumber? parent name with
  | some child =>
      have childInside := (linked.childNumber?_eq_some_iff.mp found).1
      simp only [Store.reachChild, found]
      exact ⟨linked, childInside, Nat.le_refl _⟩
  | none =>
      have grown : store.size < (store.addChild parent name).1.size := by
        rw [size_addChild]
        exact Nat.lt_succ_self _
      simp only [Store.reachChild, found]
      exact ⟨linked.addChild inside segment found, grown, Nat.le_of_lt grown⟩

/-- A node is reached by segments that a path can spell. -/
theorem WellLinked.reachFrom
    (linked : store.WellLinked)
    (inside : index < store.size)
    {segments : List String}
    (spelled : ∀ segment ∈ segments, Path.IsSegment segment) :
    Reached store (store.reachFrom index segments) := by
  induction segments generalizing store index with
  | nil => exact ⟨linked, inside, Nat.le_refl _⟩
  | cons segment rest further =>
      have next := linked.reachChild inside (spelled segment List.mem_cons_self)
      have last := further next.linked next.inside fun later member =>
        spelled later (List.mem_cons_of_mem _ member)
      exact ⟨last.linked, last.inside, Nat.le_trans next.grown last.grown⟩

/-- Every path leads to a node. -/
theorem WellLinked.reach
    (linked : store.WellLinked)
    (path : String) :
    Reached store (store.reach path) :=
  linked.reachFrom store.nonempty fun _ member => Path.isSegment_of_mem_segments member

end Reaching

/-! ## Every step keeps a store linked -/

variable {store result : Store} {parent : Nat}

/-- A change keeps a store linked. -/
theorem WellLinked.apply
    (linked : store.WellLinked)
    (change : Change) :
    (change.apply store).WellLinked := by
  cases change with
  | insert path => exact (linked.reach path).linked
  | setTypeMarker path typeMarker =>
      exact (linked.reach path).linked.modify _
        ⟨fun _ => rfl, fun _ => rfl, fun _ => rfl, fun _ => rfl⟩
  | insertProperty path name value =>
      exact (linked.reach path).linked.modify _
        ⟨fun _ => rfl, fun _ => rfl, fun _ => rfl, fun _ => rfl⟩

mutual

/-- A snapshot that is added below a node keeps a store linked. -/
theorem WellLinked.graft
    {store result : Store}
    {parent : Nat}
    (linked : store.WellLinked)
    (inside : parent < store.size) :
    (snapshot : Snapshot) →
    store.graft parent snapshot = .ok result →
    result.WellLinked ∧ store.size ≤ result.size
  | ⟨name, typeMarker, properties, children⟩, added => by
      rw [Store.graft] at added
      split at added
      case isFalse => contradiction
      case isTrue segment =>
        have reached := linked.reachChild inside (isSegment_eq_true_iff.mp segment)
        have keeps : Entry.KeepsLinks fun entry => { entry with
            typeMarker := typeMarker.or entry.typeMarker
            properties := entry.properties.insertAll properties.entries } :=
          ⟨fun _ => rfl, fun _ => rfl, fun _ => rfl, fun _ => rfl⟩
        have changed := reached.linked.modify (store.reachChild parent name).2 keeps
        have childInside := reached.inside
        rw [← size_modify] at childInside
        obtain ⟨resultLinked, resultGrown⟩ := changed.graftAll childInside children added
        rw [size_modify] at resultGrown
        exact ⟨resultLinked, Nat.le_trans reached.grown resultGrown⟩

/-- Snapshots that are added below a node keep a store linked. -/
theorem WellLinked.graftAll
    {store result : Store}
    {parent : Nat}
    (linked : store.WellLinked)
    (inside : parent < store.size) :
    (snapshots : List Snapshot) →
    store.graftAll parent snapshots = .ok result →
    result.WellLinked ∧ store.size ≤ result.size
  | [], added => by
      rw [Store.graftAll] at added
      cases added
      exact ⟨linked, Nat.le_refl _⟩
  | snapshot :: rest, added => by
      rw [Store.graftAll, bind_eq_ok_iff] at added
      obtain ⟨next, firstAdded, restAdded⟩ := added
      obtain ⟨nextLinked, nextGrown⟩ := linked.graft inside snapshot firstAdded
      obtain ⟨resultLinked, resultGrown⟩ :=
        nextLinked.graftAll (Nat.lt_of_lt_of_le inside nextGrown) rest restAdded
      exact ⟨resultLinked, Nat.le_trans nextGrown resultGrown⟩

end

/-- A store that is read from a snapshot is linked. -/
theorem wellLinked_of_ofSnapshot
    {snapshot : Snapshot}
    (reads : ofSnapshot snapshot = .ok store) :
    store.WellLinked := by
  have keeps : Entry.KeepsLinks fun entry => { entry with
      typeMarker := snapshot.typeMarker
      properties := snapshot.properties } :=
    ⟨fun _ => rfl, fun _ => rfl, fun _ => rfl, fun _ => rfl⟩
  have start := WellLinked.empty.modify 0 keeps
  exact (start.graftAll (Store.nonempty _) snapshot.children reads).1

/-- Every store that is built is linked. -/
theorem Built.linked (built : store.Built) : store.WellLinked := by
  induction built with
  | empty => exact .empty
  | read reads => exact wellLinked_of_ofSnapshot reads
  | changed _ change linked => exact linked.apply change

end Store
end ContentAccess
