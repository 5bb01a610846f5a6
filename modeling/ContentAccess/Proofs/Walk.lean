import ContentAccess.Proofs.Content.Lineage
import ContentAccess.Proofs.Path
import ContentAccess.Walk

/-!
# What walks find

A walk goes up from a node, one node at a time.  The walk for a leaf resource gives up at
the root of the repository, and the walk for a container ends there.  A leaf resource
decides for the nodes in it even if a container is nearer.
-/

namespace ContentAccess
namespace Layout

open ContentNode

variable {Node : Type u} [ContentNode Node] {layout : Layout} {node found : Node} {steps : Nat}

/-! ## One node of a walk -/

/-- The walk for a leaf resource tries the node, and goes on above it unless the root of the
repository is here or there. -/
theorem nearestLeaf?_eq
    (layout : Layout)
    (node : Node) :
    layout.nearestLeaf? node =
      if layout.isLeaf node then some node
      else if layout.isRepositoryRoot node then none
      else (parent? node).bind fun above =>
        if layout.isRepositoryRoot above then none else layout.nearestLeaf? above := by
  rw [nearestLeaf?]
  refine if_congr Iff.rfl rfl (if_congr Iff.rfl rfl ?_)
  cases isAbove : parent? node with
  | none => simp [lineage_of_root isAbove]
  | some above =>
      rw [lineage_of_parent isAbove, List.tail_cons, lineage_eq_cons above, Option.bind_some,
        nearestLeaf?]
      cases atRoot : layout.isRepositoryRoot above with
      | true => simp [atRoot]
      | false => cases isLeaf : layout.isLeaf above <;> simp [atRoot, isLeaf]

/-- The walk for a container tries the node, and goes on above it. -/
theorem nearestContainer?_eq
    (layout : Layout)
    (node : Node) :
    layout.nearestContainer? node =
      if layout.isContainer node || layout.isRepositoryRoot node then some node
      else (parent? node).bind layout.nearestContainer? :=
  find?_lineage _ node

/-! ## Whole walks -/

/-- From the node, these are the steps up to the leaf resource that a walk finds. -/
structure IsNearestLeaf (layout : Layout) (node : Node) (steps : Nat) (found : Node) : Prop
    extends FirstUp (fun other => layout.isLeaf other = true) node steps found where
  /-- No node on the way is the root of the repository. -/
  within : NoneBefore (fun other => layout.isRepositoryRoot other = true) node steps
  /-- The found node is the root of the repository only if the walk starts there. -/
  below : steps = 0 ∨ layout.isRepositoryRoot found = false

/-- From the node, these are the steps up to the container or the root of the repository
that a walk finds. -/
def IsNearestContainer (layout : Layout) (node : Node) (steps : Nat) (found : Node) : Prop :=
  FirstUp (fun other => layout.isContainer other = true ∨ layout.isRepositoryRoot other = true)
    node steps found

theorem isNearestLeaf_zero_iff :
    layout.IsNearestLeaf node 0 found ↔ found = node ∧ layout.isLeaf node = true :=
  ⟨fun nearest => firstUp_zero_iff.mp nearest.toFirstUp,
    fun here => ⟨firstUp_zero_iff.mpr here, noneBefore_zero, .inl rfl⟩⟩

/-- A leaf resource above a node is found past nodes that are none, and below the root of
the repository. -/
theorem isNearestLeaf_succ_iff :
    layout.IsNearestLeaf node (steps + 1) found ↔
      ¬layout.isLeaf node = true ∧ ¬layout.isRepositoryRoot node = true ∧
        ∃ above, parent? node = some above ∧ ¬layout.isRepositoryRoot above = true ∧
          layout.IsNearestLeaf above steps found := by
  constructor
  · rintro ⟨search, within, below⟩
    obtain ⟨noLeaf, above, isAbove, searchAbove⟩ := firstUp_succ_iff.mp search
    obtain ⟨notRoot, withinAbove⟩ := (noneBefore_succ_iff isAbove).mp within
    have belowRoot : layout.isRepositoryRoot found = false :=
      below.resolve_left (Nat.succ_ne_zero steps)
    have aboveBelowRoot : ¬layout.isRepositoryRoot above = true := by
      cases steps with
      | zero =>
          rw [(firstUp_zero_iff.mp searchAbove).1] at belowRoot
          simp [belowRoot]
      | succ steps => exact withinAbove 0 (Nat.zero_lt_succ _) above rfl
    exact ⟨noLeaf, notRoot, above, isAbove, aboveBelowRoot, searchAbove, withinAbove,
      .inr belowRoot⟩
  · rintro ⟨noLeaf, notRoot, above, isAbove, aboveBelowRoot, search, within, below⟩
    refine ⟨firstUp_succ_iff.mpr ⟨noLeaf, above, isAbove, search⟩,
      (noneBefore_succ_iff isAbove).mpr ⟨notRoot, within⟩, .inr ?_⟩
    rcases below with rfl | belowRoot
    · rw [(firstUp_zero_iff.mp search).1]
      simpa using aboveBelowRoot
    · exact belowRoot

theorem nearestLeaf?_eq_some_iff :
    layout.nearestLeaf? node = some found ↔ ∃ steps, layout.IsNearestLeaf node steps found := by
  induction node using induction_up with
  | step node further =>
      constructor
      · intro walked
        rw [nearestLeaf?_eq] at walked
        split at walked
        · rename_i isLeaf
          exact ⟨0, isNearestLeaf_zero_iff.mpr ⟨(Option.some.inj walked).symm, isLeaf⟩⟩
        · rename_i noLeaf
          split at walked
          · contradiction
          · rename_i notRoot
            obtain ⟨above, isAbove, walkedAbove⟩ := Option.bind_eq_some_iff.mp walked
            split at walkedAbove
            · contradiction
            · rename_i aboveNotRoot
              obtain ⟨steps, nearest⟩ := (further above isAbove).mp walkedAbove
              exact ⟨steps + 1, isNearestLeaf_succ_iff.mpr
                ⟨noLeaf, notRoot, above, isAbove, aboveNotRoot, nearest⟩⟩
      · rintro ⟨steps, nearest⟩
        rw [nearestLeaf?_eq]
        cases steps with
        | zero =>
            obtain ⟨rfl, isLeaf⟩ := isNearestLeaf_zero_iff.mp nearest
            rw [if_pos isLeaf]
        | succ steps =>
            obtain ⟨noLeaf, notRoot, above, isAbove, aboveNotRoot, nearestAbove⟩ :=
              isNearestLeaf_succ_iff.mp nearest
            rw [if_neg noLeaf, if_neg notRoot, isAbove, Option.bind_some, if_neg aboveNotRoot]
            exact (further above isAbove).mpr ⟨steps, nearestAbove⟩

theorem nearestContainer?_eq_some_iff :
    layout.nearestContainer? node = some found ↔
      ∃ steps, layout.IsNearestContainer node steps found := by
  rw [nearestContainer?, find?_lineage_eq_some_iff]
  simp only [Bool.or_eq_true, IsNearestContainer]

/-- The leaf resource comes before the container, and the container before the node. -/
theorem lifted_eq_iff :
    layout.lifted node = found ↔
      layout.nearestLeaf? node = some found ∨
        (layout.nearestLeaf? node = none ∧ layout.nearestContainer? node = some found) ∨
        (layout.nearestLeaf? node = none ∧ layout.nearestContainer? node = none ∧
          found = node) := by
  unfold lifted
  cases layout.nearestLeaf? node with
  | some leaf => simp
  | none =>
      cases layout.nearestContainer? node with
      | some container => simp
      | none => simp [eq_comm]

/-- The walk for a leaf resource finds the nearest one below the root of the repository, and
finds that root only where it starts.  The walk for a container finds the nearest one or the
root of the repository, whichever comes first.  A node is lifted to the first that is found. -/
theorem walks_find_nearest
    (layout : Layout)
    (node : Node) :
    (∃ steps top, ancestor? steps node = some top ∧ parent? top = none) ∧
    (∀ other : Node, layout.isRepositoryRoot other = true ↔
      ∃ text slashes others, (path other).toList = text ++ List.replicate slashes '/' ∧
        layout.root.toList = text ++ List.replicate others '/') ∧
    (∀ found, layout.nearestLeaf? node = some found ↔
      ∃ steps, layout.IsNearestLeaf node steps found) ∧
    (∀ found, layout.nearestLeaf? node = some found ∧ layout.isRepositoryRoot found = true ↔
      found = node ∧ layout.isLeaf node = true ∧ layout.isRepositoryRoot node = true) ∧
    (∀ found, layout.nearestContainer? node = some found ↔
      ∃ steps, layout.IsNearestContainer node steps found) ∧
    (∀ found, layout.lifted node = found ↔
      (∃ steps, layout.IsNearestLeaf node steps found) ∨
      (¬∃ leaf steps, layout.IsNearestLeaf node steps leaf) ∧
        ((∃ steps, layout.IsNearestContainer node steps found) ∨
          (¬∃ container steps, layout.IsNearestContainer node steps container) ∧
            found = node)) := by
  refine ⟨exists_top node, fun _ => Path.same_eq_true_iff, fun _ => nearestLeaf?_eq_some_iff,
    fun found => ?_, fun _ => nearestContainer?_eq_some_iff, fun found => ?_⟩
  · constructor
    · rintro ⟨walked, isRoot⟩
      obtain ⟨steps, nearest⟩ := nearestLeaf?_eq_some_iff.mp walked
      rcases nearest.below with rfl | belowRoot
      · obtain ⟨rfl, isLeaf⟩ := isNearestLeaf_zero_iff.mp nearest
        exact ⟨rfl, isLeaf, isRoot⟩
      · rw [belowRoot] at isRoot
        contradiction
    · rintro ⟨rfl, isLeaf, isRoot⟩
      exact ⟨nearestLeaf?_eq_some_iff.mpr ⟨0, isNearestLeaf_zero_iff.mpr ⟨rfl, isLeaf⟩⟩, isRoot⟩
  · rw [lifted_eq_iff]
    simp only [Option.eq_none_iff_forall_ne_some, ne_eq, nearestLeaf?_eq_some_iff,
      nearestContainer?_eq_some_iff, not_exists, and_or_left]

end Layout
end ContentAccess
