import Mathlib.Data.List.Nodup
import ContentAccess.Content.Snapshot
import ContentAccess.Proofs.Content.Contents

/-!
# The nodes of a snapshot

A snapshot lists its nodes from the outermost inwards, every node before those below it.
Each node is met at the route of names that leads to it; names may repeat, so a route can
lead to several nodes, or to none.  Where no names repeat, what stands at every route
determines the snapshot.
-/

namespace ContentAccess
namespace Snapshot

/-! ## Nodes and routes -/

mutual

/-- The nodes of a snapshot with their routes, each before those below it. -/
def nodes : Snapshot → List (List String × Snapshot)
  | ⟨name, typeMarker, properties, children⟩ =>
      ([], ⟨name, typeMarker, properties, children⟩) :: nodesBelow children

/-- The nodes of several snapshots with their routes, one snapshot after another. -/
def nodesBelow : List Snapshot → List (List String × Snapshot)
  | [] => []
  | child :: rest =>
      (nodes child).map (fun node => (child.name :: node.1, node.2)) ++ nodesBelow rest

end

theorem nodes_eq
    (snapshot : Snapshot) :
    snapshot.nodes = ([], snapshot) :: nodesBelow snapshot.children := by
  cases snapshot
  rw [nodes]

theorem nodesBelow_eq
    (children : List Snapshot) :
    nodesBelow children = children.flatMap fun child =>
      child.nodes.map fun node => (child.name :: node.1, node.2) := by
  induction children with
  | nil => rfl
  | cons child rest step => rw [nodesBelow, step, List.flatMap_cons]

/-- What holds of a node when it holds of those right below it holds of all snapshots. -/
theorem induction
    {motive : Snapshot → Prop}
    (node : ∀ snapshot, (∀ child ∈ snapshot.children, motive child) → motive snapshot)
    (snapshot : Snapshot) :
    motive snapshot := by
  refine node snapshot fun child member => induction node child
termination_by sizeOf snapshot
decreasing_by
  have smaller := List.sizeOf_lt_of_mem member
  cases snapshot
  simp only [Snapshot.mk.sizeOf_spec]
  simp only at smaller
  omega

/-- The nodes that a route leads to. -/
def nodesAt : List String → Snapshot → List Snapshot
  | [], snapshot => [snapshot]
  | segment :: rest, snapshot =>
      (snapshot.children.filter fun child => child.name = segment).flatMap (nodesAt rest)

theorem nodesAt_append
    (front back : List String)
    (snapshot : Snapshot) :
    nodesAt (front ++ back) snapshot = (nodesAt front snapshot).flatMap (nodesAt back) := by
  induction front generalizing snapshot with
  | nil => rw [List.nil_append, nodesAt, List.flatMap_singleton]
  | cons segment rest step =>
      have onward : nodesAt (rest ++ back) =
          fun child => (nodesAt rest child).flatMap (nodesAt back) :=
        funext step
      rw [List.cons_append, nodesAt, nodesAt, onward, List.flatMap_assoc]

/-- What is collected from all nodes, one segment of the asked route at a time, is
collected from the nodes at that route. -/
theorem filterMap_nodes
    (collect : List String → List String × Snapshot → Option β)
    (outermost : ∀ segment rest snapshot, collect (segment :: rest) ([], snapshot) = none)
    (inner : ∀ segment rest name node, collect (segment :: rest) (name :: node.1, node.2) =
      if name = segment then collect rest node else none)
    (asked : List String)
    (snapshot : Snapshot) :
    snapshot.nodes.filterMap (collect asked) =
      (nodesAt asked snapshot).flatMap fun found => found.nodes.filterMap (collect []) := by
  induction asked generalizing snapshot with
  | nil => rw [nodesAt, List.flatMap_singleton]
  | cons segment rest step =>
      rw [nodes_eq, List.filterMap_cons_none (outermost _ _ _), nodesBelow_eq, nodesAt]
      induction snapshot.children with
      | nil => rfl
      | cons child others further =>
          have collected : (collect (segment :: rest) ∘ fun node => (child.name :: node.1, node.2)) =
              fun node => if child.name = segment then collect rest node else none :=
            funext fun node => inner segment rest child.name node
          rw [List.flatMap_cons, List.filterMap_append, further, List.filterMap_map, collected]
          by_cases named : child.name = segment
          · simp only [named, if_true, List.filter_cons_of_pos, decide_true, List.flatMap_cons,
              List.flatMap_append, step]
          · simp [named]

/-- The nodes at a route are those that are listed with it, in the same order. -/
theorem filterMap_nodes_eq_nodesAt
    (asked : List String)
    (snapshot : Snapshot) :
    (snapshot.nodes.filterMap fun node => if node.1 = asked then some node.2 else none) =
      nodesAt asked snapshot := by
  have alone (found : Snapshot) :
      (found.nodes.filterMap fun node => if node.1 = [] then some node.2 else none) = [found] := by
    rw [nodes_eq, nodesBelow_eq]
    simp [List.filterMap_flatMap]
  have inner (segment : String) (rest : List String) (name : String) (node : List String × Snapshot) :
      (if name :: node.1 = segment :: rest then some node.2 else none) =
        if name = segment then (if node.1 = rest then some node.2 else none) else none := by
    by_cases named : name = segment <;> simp [named]
  rw [filterMap_nodes (fun asked node => if node.1 = asked then some node.2 else none)
    (fun _ _ _ => if_neg (by simp)) inner]
  simp only [alone]
  exact List.flatMap_singleton' _

/-- What is collected from the nodes with a route is collected from the nodes at it. -/
theorem flatMap_nodes_eq_flatMap_nodesAt
    (collect : Snapshot → List β)
    (asked : List String)
    (snapshot : Snapshot) :
    (snapshot.nodes.flatMap fun node => if node.1 = asked then collect node.2 else []) =
      (nodesAt asked snapshot).flatMap collect := by
  rw [← filterMap_nodes_eq_nodesAt, List.filterMap_eq_flatMap_toList, List.flatMap_assoc]
  refine List.flatMap_congr fun node _ => ?_
  split <;> simp

theorem mem_nodes_iff
    {snapshot node : Snapshot}
    {route : List String} :
    (route, node) ∈ snapshot.nodes ↔ node ∈ nodesAt route snapshot := by
  rw [← filterMap_nodes_eq_nodesAt, List.mem_filterMap]
  simp

theorem mem_routes_iff
    {snapshot : Snapshot}
    {route : List String} :
    route ∈ snapshot.nodes.map Prod.fst ↔ nodesAt route snapshot ≠ [] := by
  rw [List.mem_map]
  constructor
  · rintro ⟨node, member, rfl⟩
    exact List.ne_nil_of_mem (mem_nodes_iff.mp member)
  · intro nonempty
    obtain ⟨node, member⟩ := List.exists_mem_of_ne_nil _ nonempty
    exact ⟨(route, node), mem_nodes_iff.mpr member, rfl⟩

/-- Below a node, the names that are met first are those of its children. -/
theorem eraseDups_head?_nodes
    (snapshot : Snapshot) :
    (snapshot.nodes.filterMap fun node => Path.nextAfter? [] node.1).eraseDups =
      (snapshot.children.map name).eraseDups := by
  have onePart (child : Snapshot) :
      ((child.nodes.map fun node => (child.name :: node.1, node.2)).filterMap fun node =>
        Path.nextAfter? [] node.1) = child.nodes.map fun _ => child.name := by
    rw [List.filterMap_map, ← List.filterMap_eq_map]
    rfl
  have nonempty (child : Snapshot) : child.nodes ≠ [] := by
    rw [nodes_eq]
    exact List.cons_ne_nil _ _
  rw [nodes_eq, List.filterMap_cons_none rfl, nodesBelow_eq, List.filterMap_flatMap,
    List.map_eq_flatMap]
  refine eraseDups_flatMap_congr fun child _ => ?_
  rw [onePart, eraseDups_map_const (nonempty child)]
  rfl

/-- The names that are met next on a route are, each taken once, those of the children of
the nodes that the route leads to. -/
theorem eraseDups_nextAfter?_nodes
    (asked : List String)
    (snapshot : Snapshot) :
    (snapshot.nodes.filterMap fun node => Path.nextAfter? asked node.1).eraseDups =
      ((nodesAt asked snapshot).flatMap fun found => found.children.map name).eraseDups := by
  rw [filterMap_nodes (fun asked node => Path.nextAfter? asked node.1)
    (fun segment rest _ => Path.nextAfter?_cons_nil segment rest)
    (fun segment rest name node => Path.nextAfter?_cons_cons segment name rest node.1)]
  exact eraseDups_flatMap_congr fun found _ => eraseDups_head?_nodes found

/-! ## Names -/

/-- Every node but the outermost has a name that a path can spell. -/
def Spellable (snapshot : Snapshot) : Prop :=
  ∀ node ∈ snapshot.nodes.tail, Path.IsSegment node.2.name

/-- No two children of a node have the same name. -/
def Unrepeated (snapshot : Snapshot) : Prop :=
  ∀ node ∈ snapshot.nodes, (node.2.children.map name).Nodup

theorem mem_nodes_of_child
    {snapshot child : Snapshot}
    {node : List String × Snapshot}
    (isChild : child ∈ snapshot.children)
    (member : node ∈ child.nodes) :
    (child.name :: node.1, node.2) ∈ snapshot.nodes.tail := by
  rw [nodes_eq, List.tail_cons, nodesBelow_eq, List.mem_flatMap]
  exact ⟨child, isChild, List.mem_map_of_mem member⟩

/-- The names on the way to a node can be spelled if all names can. -/
theorem Spellable.isSegment_of_mem
    {snapshot : Snapshot}
    (spellable : snapshot.Spellable)
    {node : List String × Snapshot}
    (member : node ∈ snapshot.nodes) :
    ∀ segment ∈ node.1, Path.IsSegment segment := by
  induction snapshot using induction generalizing node with
  | node snapshot step =>
      rw [nodes_eq, nodesBelow_eq, List.mem_cons, List.mem_flatMap] at member
      rcases member with rfl | ⟨child, isChild, member⟩
      · simp
      · obtain ⟨inner, isInner, rfl⟩ := List.mem_map.mp member
        have childSpellable : child.Spellable := by
          intro other isOther
          have isBelow := mem_nodes_of_child isChild (List.mem_of_mem_tail isOther)
          exact spellable (child.name :: other.1, other.2) isBelow
        have childNamed : Path.IsSegment child.name := by
          have childListed : ([], child) ∈ child.nodes := by
            rw [nodes_eq]
            exact List.mem_cons_self
          exact spellable ([child.name], child) (mem_nodes_of_child isChild childListed)
        intro segment isSegment
        rcases List.mem_cons.mp isSegment with rfl | later
        · exact childNamed
        · exact step child isChild childSpellable isInner segment later

theorem Unrepeated.child
    {snapshot child : Snapshot}
    (unrepeated : snapshot.Unrepeated)
    (isChild : child ∈ snapshot.children) :
    child.Unrepeated := by
  intro node member
  have isBelow := mem_nodes_of_child isChild member
  exact unrepeated (child.name :: node.1, node.2) (List.mem_of_mem_tail isBelow)

theorem Unrepeated.names
    {snapshot : Snapshot}
    (unrepeated : snapshot.Unrepeated) :
    (snapshot.children.map name).Nodup := by
  refine unrepeated ([], snapshot) ?_
  rw [nodes_eq]
  exact List.mem_cons_self

/-- Where no names repeat, a child is the only one of its name. -/
theorem filter_name_eq
    {children : List Snapshot}
    (distinct : (children.map name).Nodup)
    {child : Snapshot}
    (isChild : child ∈ children) :
    (children.filter fun other => other.name = child.name) = [child] := by
  induction children with
  | nil => contradiction
  | cons first others step =>
      rw [List.map_cons, List.nodup_cons] at distinct
      obtain ⟨new, othersDistinct⟩ := distinct
      rcases List.mem_cons.mp isChild with rfl | later
      · have noOther : (others.filter fun other => other.name = child.name) = [] := by
          rw [List.filter_eq_nil_iff]
          intro other member same
          apply new
          rw [← of_decide_eq_true same]
          exact List.mem_map_of_mem member
        simp only [List.filter_cons, decide_true, if_true, noOther]
      · have different : first.name ≠ child.name := by
          intro same
          apply new
          rw [same]
          exact List.mem_map_of_mem later
        rw [List.filter_cons_of_neg (by simpa using different), step othersDistinct later]

theorem Unrepeated.nodesAt_child
    {snapshot child : Snapshot}
    (unrepeated : snapshot.Unrepeated)
    (isChild : child ∈ snapshot.children)
    (rest : List String) :
    nodesAt (child.name :: rest) snapshot = nodesAt rest child := by
  rw [nodesAt, filter_name_eq unrepeated.names isChild, List.flatMap_singleton]

/-- Where no names repeat, a route leads to one node or none. -/
theorem Unrepeated.length_nodesAt_le_one
    {snapshot : Snapshot}
    (unrepeated : snapshot.Unrepeated)
    (asked : List String) :
    (nodesAt asked snapshot).length ≤ 1 := by
  induction asked generalizing snapshot with
  | nil => exact Nat.le_refl 1
  | cons segment rest step =>
      by_cases there : ∃ child ∈ snapshot.children, child.name = segment
      · obtain ⟨child, isChild, rfl⟩ := there
        rw [unrepeated.nodesAt_child isChild]
        exact step (unrepeated.child isChild)
      · have none : (snapshot.children.filter fun child => child.name = segment) = [] := by
          rw [List.filter_eq_nil_iff]
          intro child isChild named
          exact there ⟨child, isChild, of_decide_eq_true named⟩
        rw [nodesAt, none]
        exact Nat.zero_le 1

/-- Where no names repeat, no route is listed twice. -/
theorem Unrepeated.nodup_routes
    {snapshot : Snapshot}
    (unrepeated : snapshot.Unrepeated) :
    (snapshot.nodes.map Prod.fst).Nodup := by
  rw [List.nodup_iff_count_le_one]
  intro route
  have counted : (snapshot.nodes.map Prod.fst).count route = (nodesAt route snapshot).length := by
    rw [← filterMap_nodes_eq_nodesAt]
    induction snapshot.nodes with
    | nil => rfl
    | cons node rest step =>
        rw [List.map_cons, List.count_cons, step, List.filterMap_cons]
        by_cases same : node.1 = route <;> simp [same]
  rw [counted]
  exact unrepeated.length_nodesAt_le_one route

/-! ## Contents -/

/-- What a node holds. -/
def contents (snapshot : Snapshot) : Contents where
  typeMarker := snapshot.typeMarker
  properties := snapshot.properties
  childNames := snapshot.children.map name

theorem mk_eq
    (snapshot : Snapshot) :
    ⟨snapshot.name, snapshot.typeMarker, snapshot.properties, snapshot.children⟩ = snapshot := by
  cases snapshot
  rfl

/-- Where no names repeat, what the nodes hold determines a snapshot up to its own name. -/
theorem eq_of_contents_eq
    {first second : Snapshot}
    (firstUnrepeated : first.Unrepeated)
    (secondUnrepeated : second.Unrepeated)
    (same : ∀ asked, (nodesAt asked first).map contents = (nodesAt asked second).map contents) :
    { first with name := second.name } = second := by
  induction first using induction generalizing second with
  | node first step =>
      have here : first.contents = second.contents := by
        have outermost := same []
        rw [nodesAt, nodesAt] at outermost
        exact List.singleton_inj.mp outermost
      have sameNames : first.children.map name = second.children.map name :=
        congrArg Contents.childNames here
      have sameChildren : first.children = second.children := by
        have lengths : first.children.length = second.children.length := by
          simpa using congrArg List.length sameNames
        refine List.ext_getElem lengths fun position firstBound secondBound => ?_
        have firstChild := List.getElem_mem firstBound
        have secondChild := List.getElem_mem secondBound
        have named : first.children[position].name = second.children[position].name := by
          simpa [firstBound, secondBound] using congrArg (fun names => names[position]?) sameNames
        have below (asked : List String) :
            (nodesAt asked first.children[position]).map contents =
              (nodesAt asked second.children[position]).map contents := by
          have onward := same (first.children[position].name :: asked)
          rwa [firstUnrepeated.nodesAt_child firstChild, named,
            secondUnrepeated.nodesAt_child secondChild] at onward
        have upToName := step _ firstChild (firstUnrepeated.child firstChild)
          (secondUnrepeated.child secondChild) below
        rwa [← named, mk_eq] at upToName
      cases first
      cases second
      cases sameChildren
      cases congrArg Contents.typeMarker here
      cases congrArg Contents.properties here
      rfl

end Snapshot
end ContentAccess
