import ContentAccess.Proofs.Content.Log
import ContentAccess.Proofs.Content.Snapshot

/-!
# Reading a snapshot as a replay

A snapshot can be read node by node, each before those below it: for every node the
store is changed at its path, where nothing but paths is used.  The reader goes down by
numbers instead.  It leaves behind the same store, with the same numbers, and it stops at
the first node with a name that a path cannot spell.
-/

namespace ContentAccess

/-! ## The changes of a snapshot -/

namespace Snapshot

/-- The changes that make one node: it is added, and then all it has is set. -/
def changesAt (path : String) (snapshot : Snapshot) : List Store.Change :=
  .insert path :: (snapshot.typeMarker.toList.map (.setTypeMarker path) ++
    snapshot.properties.entries.map fun entry => .insertProperty path entry.1 entry.2)

/-- The changes that make all nodes, each before those below it. -/
def changes (snapshot : Snapshot) : List Store.Change :=
  snapshot.nodes.flatMap fun node => node.2.changesAt (Path.ofSegments node.1)

section OneNode

variable {path : String} {snapshot : Snapshot}

theorem path_of_mem_changesAt
    {change : Store.Change}
    (member : change ∈ snapshot.changesAt path) :
    change.path = path := by
  simp only [changesAt, List.mem_cons, List.mem_append, List.mem_map] at member
  rcases member with rfl | ⟨_, _, rfl⟩ | ⟨_, _, rfl⟩ <;> rfl

/-- The type marker is set at the path of the node alone. -/
theorem filterMap_typeMarkerAt?_changesAt
    (asked : List String)
    (path : String)
    (snapshot : Snapshot) :
    (snapshot.changesAt path).filterMap (fun change => change.typeMarkerAt? asked) =
      if Path.segments path = asked then snapshot.typeMarker.toList else [] := by
  cases isMarked : snapshot.typeMarker <;> by_cases own : Path.segments path = asked <;>
    simp [changesAt, isMarked, Store.Change.typeMarkerAt?, own, List.filterMap_map]

/-- The properties are set at the path of the node alone. -/
theorem filterMap_entryAt?_changesAt
    (asked : List String)
    (path : String)
    (snapshot : Snapshot) :
    (snapshot.changesAt path).filterMap (fun change => change.entryAt? asked) =
      if Path.segments path = asked then snapshot.properties.entries else [] := by
  by_cases own : Path.segments path = asked <;>
    simp [changesAt, Store.Change.entryAt?, own, List.filterMap_map]

end OneNode

end Snapshot

namespace Store

/-! ## Changes at one route -/

section AtOneRoute

variable {store : Store} {index : Nat} {route : List String}

/-- Changes at the route of a node change this node at once. -/
theorem WellLinked.foldl_apply
    (linked : store.WellLinked)
    (found : store.follow? 0 route = some index)
    {changes : List Change}
    (own : ∀ change ∈ changes, change.route = route) :
    changes.foldl Change.apply store =
      store.modify index (Entry.amended
        (changes.filterMap fun change => change.typeMarkerAt? route).getLast?
        (changes.filterMap fun change => change.entryAt? route)) := by
  induction changes using List.reverseRecOn with
  | nil => exact (modify_amended_none store index).symm
  | append_singleton changes change step =>
      have isRoute : Path.segments change.path = route := own change (by simp)
      have earlier := step fun other member => own other (List.mem_append_left _ member)
      rw [List.foldl_append, earlier, List.foldl_cons, List.foldl_nil, Change.apply_eq,
        Store.reach, Change.route, isRoute,
        reachFrom_of_follow? (by rw [linked.follow?_modify_amended, found]),
        modify_amended_amended, filterMap_concat, filterMap_concat, List.getLast?_append]
      cases change.typeMarkerAt? route <;> rfl

/-- The changes of a node open its route and set what the node has. -/
theorem WellLinked.foldl_changesAt
    (linked : store.WellLinked)
    (spelled : ∀ segment ∈ route, Path.IsSegment segment)
    (snapshot : Snapshot) :
    (snapshot.changesAt (Path.ofSegments route)).foldl Change.apply store =
      (store.reachFrom 0 route).1.modify (store.reachFrom 0 route).2
        (Entry.amended snapshot.typeMarker snapshot.properties.entries) := by
  have isRoute := Path.segments_ofSegments spelled
  have opened := linked.opened_reachFrom spelled
  have first : store.insert (Path.ofSegments route) = (store.reachFrom 0 route).1 := by
    rw [insert, Store.reach, isRoute]
  have again : (store.reachFrom 0 route).1.insert (Path.ofSegments route) =
      (store.reachFrom 0 route).1 := by
    rw [insert, Store.reach, isRoute, reachFrom_of_follow? opened.follow?_eq]
  have own (change : Change) (member : change ∈ snapshot.changesAt (Path.ofSegments route)) :
      change.route = route := by
    rw [Change.route, Snapshot.path_of_mem_changesAt member, isRoute]
  calc (snapshot.changesAt (Path.ofSegments route)).foldl Change.apply store
    _ = (snapshot.changesAt (Path.ofSegments route)).foldl Change.apply
          (store.reachFrom 0 route).1 := by
        -- Once the route is open, adding the node again changes nothing.
        simp only [Snapshot.changesAt, List.foldl_cons, Change.apply, first, again]
    _ = (store.reachFrom 0 route).1.modify (store.reachFrom 0 route).2
          (Entry.amended snapshot.typeMarker.toList.getLast? snapshot.properties.entries) := by
        rw [opened.linked.foldl_apply opened.follow?_eq own,
          Snapshot.filterMap_typeMarkerAt?_changesAt, Snapshot.filterMap_entryAt?_changesAt,
          if_pos isRoute, if_pos isRoute]
    _ = _ := by
        cases snapshot.typeMarker <;> rfl

end AtOneRoute

/-! ## Stores that grow -/

/-- A linked store in which the nodes of another have kept their numbers. -/
structure Continues (former later : Store) : Prop where
  linked : later.WellLinked
  grown : former.size ≤ later.size
  kept : ∀ index < former.size, later.routeAt index = former.routeAt index

section Continuing

variable {former middle later store : Store} {parent : Nat} {name : String}

theorem WellLinked.continues
    (linked : store.WellLinked) :
    Continues store store :=
  ⟨linked, Nat.le_refl _, fun _ _ => rfl⟩

theorem Continues.trans
    (first : Continues former middle)
    (second : Continues middle later) :
    Continues former later where
  linked := second.linked
  grown := Nat.le_trans first.grown second.grown
  kept index inside := by
    rw [second.kept index (Nat.lt_of_lt_of_le inside first.grown), first.kept index inside]

theorem routeAt_modify
    {change : Entry → Entry}
    (keeps : Entry.KeepsLinks change)
    (index asked : Nat) :
    (store.modify index change).routeAt asked = store.routeAt asked :=
  congrArg Path.segments (elim_modify "/" keeps.path)

theorem Continues.modify
    {change : Entry → Entry}
    (continues : Continues former later)
    (index : Nat)
    (keeps : Entry.KeepsLinks change) :
    Continues former (later.modify index change) where
  linked := continues.linked.modify index keeps
  grown := by
    rw [size_modify]
    exact continues.grown
  kept asked inside := by
    rw [routeAt_modify keeps, continues.kept asked inside]

theorem WellLinked.continues_reachChild
    (linked : store.WellLinked)
    (inside : parent < store.size)
    (segment : Path.IsSegment name) :
    Continues store (store.reachChild parent name).1 := by
  have reached := linked.reachChild inside segment
  refine ⟨reached.linked, reached.grown, fun index old => ?_⟩
  cases found : store.childNumber? parent name with
  | some child => simp only [Store.reachChild, found]
  | none =>
      simp only [Store.reachChild, found]
      rw [routeAt, pathAt_addChild, if_neg (Nat.ne_of_lt old)]
      rfl

end Continuing

/-! ## Node by node -/

/-- Makes the changes of a node, if its name can be spelled. -/
def visit (store : Store) (node : List String × Snapshot) : Except AccessError Store :=
  if isSegment node.2.name then
    .ok ((node.2.changesAt (Path.ofSegments node.1)).foldl Change.apply store)
  else
    .error (.invalidName node.2.name (Path.ofSegments node.1.dropLast))

/-- Nodes are visited up to the first one with a name that cannot be spelled. -/
theorem foldlM_visit
    (store : Store)
    (nodes : List (List String × Snapshot)) :
    nodes.foldlM visit store =
      match nodes.find? fun node => !isSegment node.2.name with
      | none => .ok ((nodes.flatMap fun node => node.2.changesAt (Path.ofSegments node.1)).foldl
          Change.apply store)
      | some node => .error (.invalidName node.2.name (Path.ofSegments node.1.dropLast)) := by
  induction nodes generalizing store with
  | nil => rfl
  | cons node rest step =>
      rw [List.foldlM_cons, visit, List.find?_cons]
      cases isSegment node.2.name with
      | true =>
          rw [if_pos rfl, List.flatMap_cons, List.foldl_append]
          exact step _
      | false => rfl

section Below

variable {store : Store} {parent : Nat} {front : List String}

/-- A node is visited by reaching it from the node above and setting what it has. -/
theorem WellLinked.visit_eq
    (linked : store.WellLinked)
    (inside : parent < store.size)
    (isFront : store.routeAt parent = front)
    (snapshot : Snapshot) :
    store.visit (front ++ [snapshot.name], snapshot) =
      if isSegment snapshot.name then
        .ok ((store.reachChild parent snapshot.name).1.modify
          (store.reachChild parent snapshot.name).2
          (Entry.amended snapshot.typeMarker snapshot.properties.entries))
      else .error (.invalidName snapshot.name (store.pathAt parent)) := by
  have found : store.follow? 0 front = some parent :=
    linked.follow?_eq_some_iff.mpr ⟨inside, isFront⟩
  unfold visit
  split
  · rename_i segment
    have spelled (name : String) (member : name ∈ front ++ [snapshot.name]) :
        Path.IsSegment name := by
      rcases List.mem_append.mp member with isAbove | isLast
      · rw [← isFront] at isAbove
        exact Path.isSegment_of_mem_segments isAbove
      · rw [List.mem_singleton.mp isLast]
        exact isSegment_eq_true_iff.mp segment
    rw [linked.foldl_changesAt spelled, reachFrom_concat, reachFrom_of_follow? found]
  · rw [List.dropLast_concat, linked.pathAt_eq_ofSegments inside, isFront]

/-- The nodes with routes that begin further up. -/
def under (front : List String) (nodes : List (List String × Snapshot)) :
    List (List String × Snapshot) :=
  nodes.map fun node => (front ++ node.1, node.2)

mutual

/-- Adding a snapshot below a node is visiting its nodes one after another. -/
theorem WellLinked.graft_eq
    {store : Store}
    {parent : Nat}
    {front : List String}
    (linked : store.WellLinked)
    (inside : parent < store.size)
    (isFront : store.routeAt parent = front) :
    (snapshot : Snapshot) →
    store.graft parent snapshot =
        (under (front ++ [snapshot.name]) snapshot.nodes).foldlM visit store ∧
      ∀ result, store.graft parent snapshot = .ok result → Continues store result
  | ⟨name, typeMarker, properties, children⟩ => by
      have first := linked.visit_eq inside isFront ⟨name, typeMarker, properties, children⟩
      rw [Store.graft, under, Snapshot.nodes_eq, List.map_cons, List.append_nil,
        List.foldlM_cons, first]
      cases segment : isSegment name with
      | false => exact ⟨rfl, fun _ read => by contradiction⟩
      | true =>
          have isName := isSegment_eq_true_iff.mp segment
          have keeps := Entry.keepsLinks_amended typeMarker properties.entries
          have continues := (linked.continues_reachChild inside isName).modify
            (store.reachChild parent name).2 keeps
          have childInside := (linked.reachChild inside isName).inside
          rw [← size_modify] at childInside
          have leads : ((store.reachChild parent name).1.modify (store.reachChild parent name).2
              (Entry.amended typeMarker properties.entries)).routeAt
                (store.reachChild parent name).2 = front ++ [name] := by
            rw [routeAt_modify keeps, linked.routeAt_reachChild parent isName, isFront]
          obtain ⟨same, onward⟩ := continues.linked.graftAll_eq childInside leads children
          exact ⟨same, fun result read => continues.trans (onward result read)⟩

/-- Adding snapshots below a node is visiting the nodes of one after those of another. -/
theorem WellLinked.graftAll_eq
    {store : Store}
    {parent : Nat}
    {front : List String}
    (linked : store.WellLinked)
    (inside : parent < store.size)
    (isFront : store.routeAt parent = front) :
    (snapshots : List Snapshot) →
    store.graftAll parent snapshots =
        (under front (Snapshot.nodesBelow snapshots)).foldlM visit store ∧
      ∀ result, store.graftAll parent snapshots = .ok result → Continues store result
  | [] => by
      refine ⟨rfl, fun result read => ?_⟩
      cases read
      exact linked.continues
  | snapshot :: rest => by
      obtain ⟨same, onward⟩ := linked.graft_eq inside isFront snapshot
      have parts : under front (Snapshot.nodesBelow (snapshot :: rest)) =
          under (front ++ [snapshot.name]) snapshot.nodes ++
            under front (Snapshot.nodesBelow rest) := by
        simp [under, Snapshot.nodesBelow]
      rw [Store.graftAll, parts, List.foldlM_append, ← same]
      cases read : store.graft parent snapshot with
      | error failure => exact ⟨rfl, fun _ read => by contradiction⟩
      | ok next =>
          have continues := onward next read
          -- The numbers that were there before still stand for the same routes.
          have stillFront := (continues.kept parent inside).trans isFront
          obtain ⟨sameRest, onwardRest⟩ := continues.linked.graftAll_eq
            (Nat.lt_of_lt_of_le inside continues.grown) stillFront rest
          exact ⟨sameRest, fun result read => continues.trans (onwardRest result read)⟩

end

end Below

/-! ## The whole snapshot -/

/-- The root is made like the nodes below it. -/
theorem foldl_changesAt_root
    (snapshot : Snapshot) :
    (snapshot.changesAt "/").foldl Change.apply empty =
      empty.modify 0 fun entry => { entry with
        typeMarker := snapshot.typeMarker
        properties := snapshot.properties } := by
  have spelled : ∀ segment ∈ ([] : List String), Path.IsSegment segment := by simp
  refine (WellLinked.empty.foldl_changesAt spelled snapshot).trans (ext_entries fun asked => ?_)
  simp only [reachFrom, modify, Array.getElem?_modify]
  split
  · rename_i isRoot
    subst isRoot
    exact congrArg some (Entry.amended_new "" "/" none snapshot.typeMarker snapshot.properties)
  · rfl

/-- A snapshot is read by making its changes, up to the first name that cannot be
spelled. -/
theorem ofSnapshot_eq
    (snapshot : Snapshot) :
    ofSnapshot snapshot =
      match snapshot.nodes.tail.find? fun node => !isSegment node.2.name with
      | none => .ok (replayed snapshot.changes)
      | some node => .error (.invalidName node.2.name (Path.ofSegments node.1.dropLast)) := by
  have keeps : Entry.KeepsLinks fun entry => { entry with
      typeMarker := snapshot.typeMarker
      properties := snapshot.properties } :=
    ⟨fun _ => rfl, fun _ => rfl, fun _ => rfl, fun _ => rfl⟩
  have start := WellLinked.empty.modify 0 keeps
  have underRoot : under [] (Snapshot.nodesBelow snapshot.children) =
      Snapshot.nodesBelow snapshot.children := by
    simp [under]
  have below := (start.graftAll_eq (Store.nonempty _) start.routeAt_root snapshot.children).1
  rw [underRoot, foldlM_visit, ← foldl_changesAt_root, ← List.foldl_append] at below
  rw [ofSnapshot, ← foldl_changesAt_root, below, Snapshot.nodes_eq, List.tail_cons,
    Snapshot.changes, Snapshot.nodes_eq, List.flatMap_cons]
  rfl

/-- Reading succeeds when all names below the root can be spelled. -/
theorem ofSnapshot_eq_ok_iff
    {snapshot : Snapshot}
    {store : Store} :
    ofSnapshot snapshot = .ok store ↔
      snapshot.Spellable ∧ store = replayed snapshot.changes := by
  rw [ofSnapshot_eq]
  cases offending : snapshot.nodes.tail.find? fun node => !isSegment node.2.name with
  | none =>
      have spellable : snapshot.Spellable := by
        intro node member
        have named := List.find?_eq_none.mp offending node member
        exact isSegment_eq_true_iff.mp (by simpa using named)
      simp only [spellable, true_and, Except.ok.injEq]
      exact eq_comm
  | some node =>
      have unnamed := List.find?_some offending
      have notSpellable : ¬snapshot.Spellable := by
        intro spellable
        have named := spellable node (List.mem_of_find?_eq_some offending)
        rw [isSegment_eq_true_iff.mpr named] at unnamed
        contradiction
      simp [notSpellable]

end Store
end ContentAccess
