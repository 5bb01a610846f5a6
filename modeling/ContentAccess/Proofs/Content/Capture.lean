import ContentAccess.Proofs.Content.Agreement
import ContentAccess.Proofs.Content.Snapshot

/-!
# Snapshots of stores

The snapshot of a linked store has a node for every node of the store: what it holds at a
route is what the store holds there.  So its names can be spelled and do not repeat, and
it has as many nodes as the store.
-/

namespace ContentAccess
namespace Store
namespace WellLinked

variable {store : Store} {index : Nat}

/-- The snapshot of a node repeats what the store holds of it. -/
theorem snapshotAt_eq
    (linked : store.WellLinked)
    (inside : index < store.size) :
    store.snapshotAt index =
      ⟨store.nameAt index, store.typeMarkerAt index, store.propertiesAt index,
        (store.childrenAt index).map store.snapshotAt⟩ := by
  have noneLost : ((store.childrenAt index).filterMap fun child =>
      if _later : index < child ∧ child < store.size then some (store.snapshotAt child)
      else none) = (store.childrenAt index).map store.snapshotAt := by
    rw [← List.filterMap_eq_map]
    refine List.filterMap_congr fun child member => ?_
    obtain ⟨childInside, isAbove⟩ := linked.listed index child member
    obtain ⟨_, later, _⟩ := linked.below_parentAt? childInside isAbove
    rw [dif_pos ⟨later, childInside⟩]
    rfl
  have entry : store.entries[index]? = some store.entries[index] :=
    Array.getElem?_eq_getElem inside
  rw [← noneLost, nameAt, typeMarkerAt, propertiesAt, childrenAt, snapshotAt, entry]
  rfl

theorem children_snapshotAt
    (linked : store.WellLinked)
    (inside : index < store.size) :
    (store.snapshotAt index).children = (store.childrenAt index).map store.snapshotAt := by
  rw [linked.snapshotAt_eq inside]

theorem name_snapshotAt
    (linked : store.WellLinked)
    (inside : index < store.size) :
    (store.snapshotAt index).name = store.nameAt index := by
  rw [linked.snapshotAt_eq inside]

theorem contents_snapshotAt
    (linked : store.WellLinked)
    (inside : index < store.size) :
    (store.snapshotAt index).contents = store.contentsAt index := by
  have childNames : ((store.childrenAt index).map store.snapshotAt).map Snapshot.name =
      (store.childrenAt index).map store.nameAt := by
    rw [List.map_map]
    refine List.map_congr_left fun child member => ?_
    exact linked.name_snapshotAt (linked.listed index child member).1
  rw [linked.snapshotAt_eq inside, Snapshot.contents, childNames]
  rfl

/-- No two children of a node have the same name. -/
theorem nodup_names_children
    (linked : store.WellLinked)
    (inside : index < store.size) :
    ((store.snapshotAt index).children.map Snapshot.name).Nodup := by
  have childNames := congrArg Contents.childNames (linked.contents_snapshotAt inside)
  change (store.snapshotAt index).contents.childNames.Nodup
  rw [childNames]
  exact linked.nodup_childNames index

/-- The children of one name are the child of this name, or none. -/
theorem filter_name_children
    (linked : store.WellLinked)
    (inside : index < store.size)
    (name : String) :
    ((store.snapshotAt index).children.filter fun child => child.name = name) =
      ((store.childNumber? index name).map store.snapshotAt).toList := by
  have isListed {child : Nat} : child ∈ store.childrenAt index →
      store.snapshotAt child ∈ (store.snapshotAt index).children := by
    rw [linked.children_snapshotAt inside]
    exact List.mem_map_of_mem
  cases found : store.childNumber? index name with
  | some child =>
      obtain ⟨childInside, isAbove, named⟩ := linked.childNumber?_eq_some_iff.mp found
      have member := isListed (linked.mem_childrenAt_iff.mpr ⟨childInside, isAbove⟩)
      have alone := Snapshot.filter_name_eq (linked.nodup_names_children inside) member
      rwa [linked.name_snapshotAt childInside, named] at alone
  | none =>
      rw [Option.map_none, Option.toList_none, List.filter_eq_nil_iff,
        linked.children_snapshotAt inside]
      intro other member sameName
      obtain ⟨child, isChild, rfl⟩ := List.mem_map.mp member
      obtain ⟨childInside, isAbove⟩ := linked.listed index child isChild
      have named := of_decide_eq_true sameName
      rw [linked.name_snapshotAt childInside] at named
      rw [linked.childNumber?_eq_some_iff.mpr ⟨childInside, isAbove, named⟩] at found
      contradiction

/-- The nodes of a snapshot at a route are the node of the store at this route, or none. -/
theorem nodesAt_snapshotAt
    (linked : store.WellLinked)
    (inside : index < store.size)
    (asked : List String) :
    Snapshot.nodesAt asked (store.snapshotAt index) =
      ((store.follow? index asked).map store.snapshotAt).toList := by
  induction asked generalizing index with
  | nil => rfl
  | cons segment rest step =>
      rw [Snapshot.nodesAt, linked.filter_name_children inside, follow?]
      cases found : store.childNumber? index segment with
      | none => rfl
      | some child =>
          have childInside := (linked.childNumber?_eq_some_iff.mp found).1
          simp only [Option.map_some, Option.toList_some, List.flatMap_singleton,
            Option.bind_some, step childInside]

/-- A node of the snapshot is the snapshot of a node at its route. -/
theorem exists_of_mem_nodes
    (linked : store.WellLinked)
    {node : List String × Snapshot}
    (member : node ∈ store.snapshot.nodes) :
    ∃ index < store.size, store.routeAt index = node.1 ∧ store.snapshotAt index = node.2 := by
  have isAt : node.2 ∈ Snapshot.nodesAt node.1 store.snapshot := Snapshot.mem_nodes_iff.mp member
  rw [snapshot, linked.nodesAt_snapshotAt store.nonempty, Option.mem_toList,
    Option.map_eq_some_iff] at isAt
  obtain ⟨index, followed, captured⟩ := isAt
  obtain ⟨inside, isRoute⟩ := linked.follow?_eq_some_iff.mp followed
  exact ⟨index, inside, isRoute, captured⟩

/-- A snapshot holds at every route what the store holds there. -/
theorem map_contents_snapshot
    (linked : store.WellLinked)
    (asked : List String) :
    (Snapshot.nodesAt asked store.snapshot).map Snapshot.contents =
      (store.contents? asked).toList := by
  rw [snapshot, linked.nodesAt_snapshotAt store.nonempty, contents?]
  cases followed : store.follow? 0 asked with
  | none => rfl
  | some index =>
      have inside := (linked.follow?_eq_some_iff.mp followed).1
      simp only [Option.map_some, Option.toList_some, List.map_singleton,
        linked.contents_snapshotAt inside]

/-- The outermost node of a snapshot has no name. -/
theorem name_snapshot
    (linked : store.WellLinked) :
    store.snapshot.name = "" := by
  rw [snapshot, linked.name_snapshotAt store.nonempty, linked.root.2.1]

theorem unrepeated_snapshot
    (linked : store.WellLinked) :
    store.snapshot.Unrepeated := by
  intro node member
  obtain ⟨index, inside, _, captured⟩ := linked.exists_of_mem_nodes member
  rw [← captured]
  exact linked.nodup_names_children inside

theorem spellable_snapshot
    (linked : store.WellLinked) :
    store.snapshot.Spellable := by
  intro node member
  obtain ⟨index, inside, isRoute, captured⟩ :=
    linked.exists_of_mem_nodes (List.mem_of_mem_tail member)
  rw [← captured, linked.name_snapshotAt inside]
  refine linked.named index inside ?_
  rintro rfl
  rw [linked.routeAt_root] at isRoute
  -- No node below the outermost one is listed with an empty route.
  rw [Snapshot.nodes_eq, List.tail_cons, Snapshot.nodesBelow_eq, List.mem_flatMap] at member
  obtain ⟨child, _, member⟩ := member
  obtain ⟨inner, _, rfl⟩ := List.mem_map.mp member
  contradiction

/-- A snapshot has as many nodes as the store. -/
theorem length_nodes_snapshot
    (linked : store.WellLinked) :
    store.snapshot.nodes.length = store.size := by
  have complete (route : List String) :
      route ∈ store.snapshot.nodes.map Prod.fst ↔ (store.contents? route).isSome := by
    rw [Snapshot.mem_routes_iff, ne_eq, ← List.map_eq_nil_iff, linked.map_contents_snapshot,
      Option.toList_eq_nil_iff, Option.isSome_iff_ne_none]
  have counted := linked.size_eq_length linked.unrepeated_snapshot.nodup_routes complete
  rw [counted, List.length_map]

end WellLinked
end Store
end ContentAccess
