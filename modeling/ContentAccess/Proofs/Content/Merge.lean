import ContentAccess.Proofs.Content.Capture
import ContentAccess.Proofs.Content.Replay

/-!
# Nodes of one route

A snapshot may have several nodes at one route, because names may repeat.  In the store
that is read from it they are one node: of the type markers and of the values of a
property the last counts, and the children of all of them are listed, each name once.  So
reading a snapshot and taking one gives it back exactly when no names repeat.
-/

namespace ContentAccess
namespace Snapshot

/-! ## What several nodes say together -/

/-- What nodes hold when they are made one. -/
def merged (nodes : List Snapshot) : Contents where
  typeMarker := (nodes.filterMap typeMarker).getLast?
  properties := .ofList (nodes.flatMap fun node => node.properties.entries)
  childNames := (nodes.flatMap fun node => node.children.map name).eraseDups

/-- One node holds what it has, if its children have different names. -/
theorem merged_singleton
    {node : Snapshot}
    (distinct : (node.children.map name).Nodup) :
    merged [node] = node.contents := by
  refine Contents.ext ?_ ?_ ?_
  · cases isMarked : node.typeMarker <;> simp [merged, contents, isMarked]
  · simp [merged, contents, Properties.ofList_entries]
  · simp [merged, contents, eraseDups_eq_self distinct]

theorem get?_merged
    (nodes : List Snapshot)
    (name : String) :
    (merged nodes).properties.get? name =
      (nodes.filterMap fun node => node.properties.get? name).getLast? := by
  have values : (nodes.flatMap fun node => node.properties.entries.filterMap fun entry =>
        if entry.1 = name then some entry.2 else none) =
      nodes.flatMap fun node => (node.properties.get? name).toList :=
    List.flatMap_congr fun node _ => node.properties.valuesOf_entries name
  rw [merged, Properties.get?_ofList, Properties.valuesOf, List.filterMap_flatMap, values,
    List.filterMap_eq_flatMap_toList]

/-! ## What the changes of a snapshot say -/

namespace Spellable

variable {snapshot : Snapshot}

/-- The changes of a node are made at its route. -/
theorem route_of_mem_changesAt
    (spellable : snapshot.Spellable)
    {node : List String × Snapshot}
    (member : node ∈ snapshot.nodes)
    {change : Store.Change}
    (isOwn : change ∈ node.2.changesAt (Path.ofSegments node.1)) :
    change.route = node.1 := by
  rw [Store.Change.route, path_of_mem_changesAt isOwn,
    Path.segments_ofSegments (spellable.isSegment_of_mem member)]

/-- The changes mention the routes that lead to nodes. -/
theorem mentioned_changes_iff
    (spellable : snapshot.Spellable)
    {asked : List String} :
    Store.Mentioned snapshot.changes asked ↔ nodesAt asked snapshot ≠ [] := by
  constructor
  · rintro (rfl | ⟨change, member, begins⟩)
    · exact List.cons_ne_nil _ _
    · obtain ⟨node, isNode, isOwn⟩ := List.mem_flatMap.mp member
      rw [spellable.route_of_mem_changesAt isNode isOwn] at begins
      obtain ⟨back, whole⟩ := begins
      have isAt := mem_nodes_iff.mp isNode
      rw [← whole, nodesAt_append] at isAt
      intro noNode
      rw [noNode] at isAt
      contradiction
  · intro nonempty
    obtain ⟨node, isAt⟩ := List.exists_mem_of_ne_nil _ nonempty
    have isNode := mem_nodes_iff.mpr isAt
    have isOwn : .insert (Path.ofSegments asked) ∈ node.changesAt (Path.ofSegments asked) :=
      List.mem_cons_self
    refine .inr ⟨_, List.mem_flatMap.mpr ⟨(asked, node), isNode, isOwn⟩, ?_⟩
    rw [spellable.route_of_mem_changesAt isNode isOwn]

/-- What the changes of a node say at its own route, all changes say node by node. -/
theorem filterMap_changes
    (spellable : snapshot.Spellable)
    {said : Store.Change → Option β}
    {asked : List String}
    {collect : Snapshot → List β}
    (part : ∀ path node, (changesAt path node).filterMap said =
      if Path.segments path = asked then collect node else []) :
    snapshot.changes.filterMap said = (nodesAt asked snapshot).flatMap collect := by
  rw [← flatMap_nodes_eq_flatMap_nodesAt, changes, List.filterMap_flatMap]
  refine List.flatMap_congr fun node member => ?_
  rw [part, Path.segments_ofSegments (spellable.isSegment_of_mem member)]

/-- The changes of a node mention the child that is next on the way to it. -/
theorem eraseDups_childAt?_changesAt
    (spellable : snapshot.Spellable)
    {node : List String × Snapshot}
    (member : node ∈ snapshot.nodes)
    (asked : List String) :
    ((node.2.changesAt (Path.ofSegments node.1)).filterMap fun change =>
      change.childAt? asked).eraseDups = (Path.nextAfter? asked node.1).toList.eraseDups := by
  have sameChild : (node.2.changesAt (Path.ofSegments node.1)).filterMap
        (fun change => change.childAt? asked) =
      (node.2.changesAt (Path.ofSegments node.1)).filterMap
        fun _ => Path.nextAfter? asked node.1 := by
    refine List.filterMap_congr fun change isOwn => ?_
    rw [Store.Change.childAt?, spellable.route_of_mem_changesAt member isOwn]
  have nonempty : node.2.changesAt (Path.ofSegments node.1) ≠ [] := List.cons_ne_nil _ _
  rw [sameChild]
  cases Path.nextAfter? asked node.1 with
  | none => simp
  | some name =>
      rw [List.filterMap_eq_map', eraseDups_map_const nonempty]
      rfl

/-- The changes say of a route what its nodes say together. -/
theorem recounted_changes
    (spellable : snapshot.Spellable)
    (asked : List String) :
    Store.recounted snapshot.changes asked = merged (nodesAt asked snapshot) := by
  refine Contents.ext ?_ ?_ ?_
  · simp only [Store.recounted, merged, List.filterMap_eq_flatMap_toList typeMarker,
      spellable.filterMap_changes (filterMap_typeMarkerAt?_changesAt asked)]
  · simp only [Store.recounted, merged,
      spellable.filterMap_changes (filterMap_entryAt?_changesAt asked)]
  · simp only [Store.recounted, merged]
    rw [← eraseDups_nextAfter?_nodes, changes, List.filterMap_flatMap,
      List.filterMap_eq_flatMap_toList]
    exact eraseDups_flatMap_congr fun node member =>
      spellable.eraseDups_childAt?_changesAt member asked

theorem contents?_replayed
    (spellable : snapshot.Spellable)
    (asked : List String) :
    (Store.replayed snapshot.changes).contents? asked =
      if nodesAt asked snapshot ≠ [] then some (merged (nodesAt asked snapshot)) else none := by
  rw [Store.contents?_replayed, spellable.recounted_changes]
  simp only [spellable.mentioned_changes_iff]

theorem isSome_contents?_replayed
    (spellable : snapshot.Spellable)
    {asked : List String} :
    ((Store.replayed snapshot.changes).contents? asked).isSome ↔
      nodesAt asked snapshot ≠ [] := by
  rw [Store.isSome_contents?_replayed, spellable.mentioned_changes_iff]

end Spellable

end Snapshot

namespace Store

open ContentNode Snapshot

/-! ## Nodes that become one -/

/-- A store has one node for all nodes of a snapshot that have the same route. -/
structure Merges (store : Store) (snapshot : Snapshot) : Prop where
  found : ∀ path, (store.node? path).isSome ↔ nodesAt (Path.segments path) snapshot ≠ []
  size : store.size = (snapshot.nodes.map Prod.fst).eraseDups.length
  /-- The last type marker counts. -/
  typeMarker : ∀ path place, store.node? path = some place →
    typeMarker? place =
      ((nodesAt (Path.segments path) snapshot).filterMap Snapshot.typeMarker).getLast?
  /-- The last value of a property counts. -/
  properties : ∀ path place, store.node? path = some place → ∀ name,
    place.entry.properties.get? name =
      ((nodesAt (Path.segments path) snapshot).filterMap fun node =>
        node.properties.get? name).getLast?
  /-- Children are listed once, as they are first met. -/
  children : ∀ path place, store.node? path = some place →
    (children place).map ContentNode.name =
      ((nodesAt (Path.segments path) snapshot).flatMap fun node =>
        node.children.map Snapshot.name).eraseDups

section Reading

variable {snapshot : Snapshot}

theorem merges_replayed
    (spellable : snapshot.Spellable) :
    (replayed snapshot.changes).Merges snapshot := by
  have linked := (built_replayed snapshot.changes).linked
  have holds {path : String} {place : (replayed snapshot.changes).Place}
      (found : (replayed snapshot.changes).node? path = some place) :
      merged (nodesAt (Path.segments path) snapshot) =
        ⟨typeMarker? place, place.entry.properties, (children place).map ContentNode.name⟩ :=
    linked.eq_of_contents? found (spellable.contents?_replayed (Path.segments path))
  constructor
  case found =>
    intro path
    rw [linked.isSome_node?_iff, spellable.isSome_contents?_replayed]
  case size =>
    refine linked.size_eq_length (nodup_eraseDups _) fun route => ?_
    rw [spellable.isSome_contents?_replayed, List.mem_eraseDups, Snapshot.mem_routes_iff]
  case typeMarker =>
    intro path place found
    exact (congrArg Contents.typeMarker (holds found)).symm
  case properties =>
    intro path place found name
    rw [← get?_merged, holds found]
  case children =>
    intro path place found
    exact (congrArg Contents.childNames (holds found)).symm

/-- Where no names repeat, there is nothing to merge. -/
theorem map_contents_nodesAt
    (spellable : snapshot.Spellable)
    (unrepeated : snapshot.Unrepeated)
    (asked : List String) :
    (nodesAt asked snapshot).map contents =
      ((replayed snapshot.changes).contents? asked).toList := by
  have few := unrepeated.length_nodesAt_le_one asked
  rw [spellable.contents?_replayed]
  cases found : nodesAt asked snapshot with
  | nil => rfl
  | cons node others =>
      rw [found, List.length_cons] at few
      have alone : others = [] := List.eq_nil_of_length_eq_zero (by omega)
      subst alone
      have isAt : node ∈ nodesAt asked snapshot := by
        rw [found]
        exact List.mem_singleton.mpr rfl
      rw [merged_singleton (unrepeated (asked, node) (mem_nodes_iff.mpr isAt))]
      rfl

/-- A snapshot is given back when no names repeat. -/
theorem snapshot_replayed_eq_iff
    (spellable : snapshot.Spellable) :
    (replayed snapshot.changes).snapshot = { snapshot with name := "" } ↔
      snapshot.Unrepeated := by
  have linked := (built_replayed snapshot.changes).linked
  constructor
  · intro same
    have unrepeated := linked.unrepeated_snapshot
    rw [same] at unrepeated
    -- The name of the outermost node is nowhere among the names of children.
    intro node member
    rw [Snapshot.nodes_eq] at member
    rcases List.mem_cons.mp member with rfl | isBelow
    · exact unrepeated.names
    · refine unrepeated node ?_
      rw [Snapshot.nodes_eq]
      exact List.mem_cons_of_mem _ isBelow
  · intro unrepeated
    rw [← linked.name_snapshot]
    refine (eq_of_contents_eq unrepeated linked.unrepeated_snapshot fun asked => ?_).symm
    rw [linked.map_contents_snapshot, map_contents_nodesAt spellable unrepeated]

end Reading

/-- Reading a snapshot is making its changes at their paths: it fails at the first name
that a path cannot spell, it merges the nodes of one route, and it loses nothing when no
names repeat. -/
theorem read_as_replayed
    (snapshot : Snapshot) :
    (ofSnapshot snapshot =
      match snapshot.nodes.tail.find? fun node => !isSegment node.2.name with
      | none => .ok (replayed snapshot.changes)
      | some node => .error (.invalidName node.2.name (Path.ofSegments node.1.dropLast))) ∧
    ((∃ store, ofSnapshot snapshot = .ok store) ↔ snapshot.Spellable) ∧
    ∀ store, ofSnapshot snapshot = .ok store →
      store.Merges snapshot ∧
        (store.snapshot = { snapshot with name := "" } ↔ snapshot.Unrepeated) := by
  refine ⟨ofSnapshot_eq snapshot, ?_, ?_⟩
  · simp only [ofSnapshot_eq_ok_iff, exists_and_left, exists_eq, and_true]
  · intro store read
    obtain ⟨spellable, rfl⟩ := ofSnapshot_eq_ok_iff.mp read
    exact ⟨merges_replayed spellable, snapshot_replayed_eq_iff spellable⟩

/-- Two children of one name become one node, and what is below a child is read before the
next child. -/
theorem read_as_replayed_for_repeated_names :
    let titled (title : String) : Properties := .ofList [("title", .single title)]
    let bare (name : String) : Snapshot := ⟨name, none, .empty, []⟩
    let snapshot : Snapshot := ⟨"x/y", none, .empty, [
      ⟨"a", some "page", titled "first", [bare "b"]⟩,
      ⟨"a", none, titled "second", [bare "c", bare "b"]⟩]⟩
    let misnamed : Snapshot := ⟨"", none, .empty, [
      ⟨"a", none, .empty, [bare "b", bare "c/d"]⟩, bare ""]⟩
    (∃ store, ofSnapshot snapshot = .ok store ∧ store.size = 4 ∧
      store.snapshot ≠ { snapshot with name := "" } ∧
      ∃ place, store.node? "/a" = some place ∧ typeMarker? place = some "page" ∧
        place.entry.properties.get? "title" = some (.single "second") ∧
        (children place).map ContentNode.name = ["b", "c"]) ∧
    ofSnapshot misnamed = .error (.invalidName "c/d" "/a") := by
  intro titled bare snapshot misnamed
  have spellable : snapshot.Spellable := by
    intro node member
    rw [← isSegment_eq_true_iff]
    revert node
    decide +kernel
  obtain ⟨_, succeeds, onSuccess⟩ := read_as_replayed snapshot
  obtain ⟨store, read⟩ := succeeds.mpr spellable
  obtain ⟨merges, givenBack⟩ := onSuccess store read
  refine ⟨⟨store, read, ?_, ?_, ?_⟩, ?_⟩
  · rw [merges.size]
    decide +kernel
  · rw [ne_eq, givenBack]
    intro unrepeated
    exact absurd unrepeated.names (by decide +kernel)
  · have there : (store.node? "/a").isSome := (merges.found "/a").mpr (by decide +kernel)
    obtain ⟨place, found⟩ := Option.isSome_iff_exists.mp there
    refine ⟨place, found, ?_, ?_, ?_⟩
    · rw [merges.typeMarker _ place found]
      decide +kernel
    · rw [merges.properties _ place found]
      decide +kernel
    · rw [merges.children _ place found]
      decide +kernel
  · rw [(read_as_replayed misnamed).1]
    decide +kernel

end Store
end ContentAccess
