import ContentAccess.Proofs.Content.Descent
import ContentAccess.Proofs.Walk

/-!
# The border of the repository

A node lies in the repository when going up from it leads to the root of the repository.
No walk crosses this border, neither from the inside nor from the outside.  In a store the
nodes inside are those whose paths lie within the path of that root.
-/

namespace ContentAccess

open ContentNode

namespace Layout

variable {Node : Type u} [ContentNode Node] {layout : Layout} {node above found : Node}
  {steps : Nat}

/-! ## Inside the repository -/

/-- The node is the root of the repository, or going up from it leads there. -/
def IsInside (layout : Layout) (node : Node) : Prop :=
  ∃ steps above, ancestor? steps node = some above ∧ layout.isRepositoryRoot above = true

theorem isInside_iff_of_top
    (isTop : parent? node = none) :
    layout.IsInside node ↔ layout.isRepositoryRoot node = true := by
  constructor
  · rintro ⟨steps, above, reached, isRoot⟩
    cases steps with
    | zero =>
        obtain rfl := Option.some.inj reached
        exact isRoot
    | succ steps =>
        rw [ancestor?, isTop, Option.bind_none] at reached
        contradiction
  · intro isRoot
    exact ⟨0, node, rfl, isRoot⟩

theorem isInside_iff_of_parent
    (isAbove : parent? node = some above) :
    layout.IsInside node ↔ layout.isRepositoryRoot node = true ∨ layout.IsInside above := by
  constructor
  · rintro ⟨steps, last, reached, isRoot⟩
    cases steps with
    | zero =>
        obtain rfl := Option.some.inj reached
        exact .inl isRoot
    | succ steps =>
        rw [ancestor?, isAbove, Option.bind_some] at reached
        exact .inr ⟨steps, last, reached, isRoot⟩
  · rintro (isRoot | ⟨steps, last, reached, isRoot⟩)
    · exact ⟨0, node, rfl, isRoot⟩
    · exact ⟨steps + 1, last, by rw [ancestor?, isAbove, Option.bind_some, reached], isRoot⟩

/-- Going up from the node leads to the other one, and leaves no root of the repository
behind. -/
def LeadsTo (layout : Layout) (node found : Node) : Prop :=
  ∃ steps, ancestor? steps node = some found ∧
    NoneBefore (fun other => layout.isRepositoryRoot other = true) node steps

/-- Going up stays on its side of the border until the root of the repository is left
behind. -/
theorem LeadsTo.isInside_iff
    (leads : layout.LeadsTo node found) :
    layout.IsInside found ↔ layout.IsInside node := by
  obtain ⟨steps, reached, notPassed⟩ := leads
  constructor
  · rintro ⟨further, above, reachedAbove, isRoot⟩
    refine ⟨steps + further, above, ?_, isRoot⟩
    rw [ancestor?_add, reached, Option.bind_some, reachedAbove]
  · rintro ⟨all, above, reachedAbove, isRoot⟩
    have notBefore : steps ≤ all := by
      refine Nat.le_of_not_lt fun before => ?_
      exact notPassed all before above reachedAbove isRoot
    obtain ⟨further, rfl⟩ := Nat.exists_eq_add_of_le notBefore
    rw [ancestor?_add, reached, Option.bind_some] at reachedAbove
    exact ⟨further, above, reachedAbove, isRoot⟩

/-! ## Walks and the border -/

theorem leadsTo_of_nearestLeaf?
    (walked : layout.nearestLeaf? node = some found) :
    layout.LeadsTo node found := by
  obtain ⟨steps, nearest⟩ := nearestLeaf?_eq_some_iff.mp walked
  exact ⟨steps, nearest.reached, nearest.within⟩

theorem leadsTo_of_nearestContainer?
    (walked : layout.nearestContainer? node = some found) :
    layout.LeadsTo node found := by
  obtain ⟨steps, nearest⟩ := nearestContainer?_eq_some_iff.mp walked
  refine ⟨steps, nearest.reached, fun fewer less below isBelow isRoot => ?_⟩
  exact nearest.first fewer less below isBelow (.inr isRoot)

theorem leadsTo_lifted
    (layout : Layout)
    (node : Node) :
    layout.LeadsTo node (layout.lifted node) := by
  generalize isLifted : layout.lifted node = found
  rcases lifted_eq_iff.mp isLifted with isLeaf | ⟨_, isContainer⟩ | ⟨_, _, rfl⟩
  · exact leadsTo_of_nearestLeaf? isLeaf
  · exact leadsTo_of_nearestContainer? isContainer
  · exact ⟨0, rfl, noneBefore_zero⟩

/-- A walk from the node, or lifting it, finds the other one. -/
def WalksTo (layout : Layout) (node found : Node) : Prop :=
  layout.nearestLeaf? node = some found ∨ layout.nearestContainer? node = some found ∨
    layout.lifted node = found

theorem WalksTo.leadsTo
    (walked : layout.WalksTo node found) :
    layout.LeadsTo node found := by
  rcases walked with isLeaf | isContainer | rfl
  · exact leadsTo_of_nearestLeaf? isLeaf
  · exact leadsTo_of_nearestContainer? isContainer
  · exact leadsTo_lifted layout node

/-- Inside the repository there is always a container, if only its root. -/
theorem IsInside.exists_nearestContainer
    (inside : layout.IsInside node) :
    ∃ container, layout.nearestContainer? node = some container := by
  obtain ⟨steps, above, reached, isRoot⟩ := inside
  obtain ⟨fewest, container, search⟩ := exists_firstUp
    (fun other => layout.isContainer other = true ∨ layout.isRepositoryRoot other = true)
    reached (.inr isRoot)
  exact ⟨container, nearestContainer?_eq_some_iff.mpr ⟨fewest, search⟩⟩

end Layout

/-! ## Stores -/

namespace Store

variable {store : Store} {place above : store.Place}

namespace WellLinked

/-- The path of a node is cut into its segments, after an empty piece. -/
theorem pieces_bare_path
    (linked : store.WellLinked)
    (place : store.Place) :
    Text.pieces '/' (Path.bare (path place)) =
      [] :: (Path.segments (path place)).map String.toList := by
  have spelled (segment : String) (member : segment ∈ Path.segments (path place)) :
      Path.IsSegment segment :=
    Path.isSegment_of_mem_segments member
  have cut := Path.pieces_bare_ofSegments spelled
  rwa [← linked.path_eq_ofSegments place] at cut

/-- Lying within a path passes from a node to those below it, and starts at that path. -/
theorem isWithin_path_iff_of_parent
    (linked : store.WellLinked)
    (isAbove : parent? place = some above)
    (anchor : String) :
    Path.isWithin anchor (path place) = true ↔
      Path.same (path place) anchor = true ∨ Path.isWithin anchor (path above) = true := by
  have longer : Text.pieces '/' (Path.bare (path place)) =
      Text.pieces '/' (Path.bare (path above)) ++ [(ContentNode.name place).toList] := by
    rw [linked.pieces_bare_path, linked.pieces_bare_path, linked.segments_path isAbove,
      List.map_append, List.cons_append, List.map_singleton]
  rw [Path.isWithin_iff_prefix, Path.isWithin_iff_prefix, Path.same_iff_pieces_eq, longer,
    List.prefix_concat_iff, eq_comm]

theorem isWithin_path_root_iff
    (linked : store.WellLinked)
    (anchor : String) :
    Path.isWithin anchor (path store.root) = true ↔
      Path.same (path store.root) anchor = true := by
  rw [Path.isWithin_iff_prefix, Path.same_iff_pieces_eq, linked.pieces_bare_path,
    linked.segments_path_root, List.map_nil, ← List.nil_append [[]], List.prefix_concat_iff,
    List.prefix_nil, or_iff_left (Text.pieces_ne_nil _ _), eq_comm]

/-- The nodes inside the repository are those whose paths lie within its root. -/
theorem isInside_iff_isWithin
    (linked : store.WellLinked)
    (layout : Layout)
    (place : store.Place) :
    layout.IsInside place ↔ Path.isWithin layout.root (path place) = true := by
  induction place using linked.induction with
  | root =>
      rw [Layout.isInside_iff_of_top (linked.parent?_eq_none_iff.mpr rfl),
        linked.isWithin_path_root_iff, Layout.isRepositoryRoot]
  | below place above isAbove same =>
      rw [Layout.isInside_iff_of_parent isAbove, linked.isWithin_path_iff_of_parent isAbove, same,
        Layout.isRepositoryRoot]

end WellLinked

/-- What a walk finds is the node or above it, and lies within the root of the repository
exactly when the node does.  Within that root there is always a container to be found. -/
theorem Built.walks_keep_side
    (built : store.Built)
    (layout : Layout)
    (place : store.Place) :
    (Path.isWithin layout.root (path place) = true →
      ∃ container, layout.nearestContainer? place = some container) ∧
    ∀ found, layout.WalksTo place found →
      (∃ steps, ancestor? steps place = some found) ∧
      (Path.isWithin layout.root (path found) = true ↔
        Path.isWithin layout.root (path place) = true) := by
  simp only [← built.linked.isInside_iff_isWithin]
  refine ⟨Layout.IsInside.exists_nearestContainer, fun found walked => ?_⟩
  obtain ⟨steps, reached, _⟩ := walked.leadsTo
  exact ⟨⟨steps, reached⟩, walked.leadsTo.isInside_iff⟩

/-- The root of the repository may be spelled with slashes to spare.  The walk for a container
ends there, and a node that only starts like it lies outside. -/
theorem Built.walks_keep_side_of_spare_slashes :
    let store := replayed [.insert "/content/dam/loose/deeper", .setTypeMarker "content/damp" "x"]
    let layout : Layout := { Layout.standard with root := "/content/dam//" }
    let inside : store.Place := ⟨⟨4, by decide +kernel⟩⟩
    let outside : store.Place := ⟨⟨5, by decide +kernel⟩⟩
    store.Built ∧ path inside = "/content/dam/loose/deeper" ∧ path outside = "/content/damp" ∧
      (∃ container, layout.nearestContainer? inside = some container ∧
        Path.isWithin layout.root (path container) = true) ∧
      ¬Path.isWithin layout.root (path (layout.lifted outside)) = true := by
  intro store layout inside outside
  have built : store.Built := built_replayed _
  obtain ⟨found, insideKeeps⟩ := built.walks_keep_side layout inside
  obtain ⟨_, outsideKeeps⟩ := built.walks_keep_side layout outside
  have isInside : Path.isWithin layout.root (path inside) = true := by decide +kernel
  have isOutside : ¬Path.isWithin layout.root (path outside) = true := by decide +kernel
  refine ⟨built, by decide +kernel, by decide +kernel, ?_, ?_⟩
  · obtain ⟨container, isNearest⟩ := found isInside
    exact ⟨container, isNearest, (insideKeeps container (.inr (.inl isNearest))).2.mpr isInside⟩
  · exact mt (outsideKeeps (layout.lifted outside) (.inr (.inr rfl))).2.mp isOutside

end Store
end ContentAccess
