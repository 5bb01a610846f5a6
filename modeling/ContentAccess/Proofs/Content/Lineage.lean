import ContentAccess.Content.Node
import Mathlib.Logic.Basic

/-!
# The nodes above a node

Going up from a node, step by step, comes to an end at a node with none above it.  A
search on the way up finds the first node that passes a test.
-/

namespace ContentAccess

/-- The node that so many steps up lead to. -/
def ContentNode.ancestor? {Node : Type u} [ContentNode Node] : Nat → Node → Option Node
  | 0, node => some node
  | steps + 1, node => (parent? node).bind (ancestor? steps)

namespace ContentNode

variable {Node : Type u} [ContentNode Node] {node found : Node} {steps : Nat}

/-- What passes from the node above to a node holds of all nodes. -/
theorem induction_up
    {motive : Node → Prop}
    (step : ∀ node, (∀ above, parent? node = some above → motive above) → motive node)
    (node : Node) :
    motive node :=
  parents_end.induction node step

/-- Steps up are taken one after another. -/
theorem ancestor?_add
    (first second : Nat)
    (node : Node) :
    ancestor? (first + second) node = (ancestor? first node).bind (ancestor? second) := by
  induction first generalizing node with
  | zero => rw [Nat.zero_add, ancestor?, Option.bind_some]
  | succ first further =>
      rw [Nat.succ_add, ancestor?, ancestor?, Option.bind_assoc, funext further]

/-- Going up comes to an end. -/
theorem exists_top
    (node : Node) :
    ∃ steps top, ancestor? steps node = some top ∧ parent? top = none := by
  induction node using induction_up with
  | step node ends =>
      cases isAbove : parent? node with
      | none => exact ⟨0, node, rfl, isAbove⟩
      | some above =>
          obtain ⟨steps, top, reached, isTop⟩ := ends above isAbove
          exact ⟨steps + 1, top, by rw [ancestor?, isAbove, Option.bind_some, reached], isTop⟩

/-! ## The first node that passes -/

/-- No node that fewer steps up lead to passes. -/
def NoneBefore (passes : Node → Prop) (node : Node) (steps : Nat) : Prop :=
  ∀ fewer < steps, ∀ below, ancestor? fewer node = some below → ¬passes below

/-- From the node, these are the fewest steps up that lead to a node that passes. -/
structure FirstUp (passes : Node → Prop) (node : Node) (steps : Nat) (found : Node) : Prop where
  /-- The steps lead to the found node. -/
  reached : ancestor? steps node = some found
  /-- The found node passes. -/
  passed : passes found
  /-- No node on the way to it does. -/
  first : NoneBefore passes node steps

variable {passes : Node → Prop} {above : Node}

theorem noneBefore_zero : NoneBefore passes node 0 :=
  fun _ fewer => absurd fewer (Nat.not_lt_zero _)

/-- The node itself comes before all nodes above it. -/
theorem noneBefore_succ_iff
    (isAbove : parent? node = some above) :
    NoneBefore passes node (steps + 1) ↔ ¬passes node ∧ NoneBefore passes above steps := by
  constructor
  · intro none
    refine ⟨none 0 (Nat.zero_lt_succ _) node rfl, fun fewer less below isBelow => ?_⟩
    refine none (fewer + 1) (Nat.succ_lt_succ less) below ?_
    rw [ancestor?, isAbove, Option.bind_some, isBelow]
  · rintro ⟨fails, none⟩ fewer less below isBelow
    cases fewer with
    | zero =>
        obtain rfl := Option.some.inj isBelow
        exact fails
    | succ fewer =>
        rw [ancestor?, isAbove, Option.bind_some] at isBelow
        exact none fewer (Nat.lt_of_succ_lt_succ less) below isBelow

/-- A search ends at once at a node that passes. -/
theorem firstUp_zero_iff : FirstUp passes node 0 found ↔ found = node ∧ passes node := by
  constructor
  · rintro ⟨reached, passed, _⟩
    obtain rfl := Option.some.inj reached
    exact ⟨rfl, passed⟩
  · rintro ⟨rfl, passed⟩
    exact ⟨rfl, passed, noneBefore_zero⟩

/-- A search that does not end at the node goes on above it. -/
theorem firstUp_succ_iff :
    FirstUp passes node (steps + 1) found ↔
      ¬passes node ∧ ∃ above, parent? node = some above ∧ FirstUp passes above steps found := by
  constructor
  · rintro ⟨reached, passed, first⟩
    obtain ⟨above, isAbove, further⟩ := Option.bind_eq_some_iff.mp reached
    obtain ⟨fails, firstAbove⟩ := (noneBefore_succ_iff isAbove).mp first
    exact ⟨fails, above, isAbove, further, passed, firstAbove⟩
  · rintro ⟨fails, above, isAbove, reached, passed, first⟩
    refine ⟨?_, passed, (noneBefore_succ_iff isAbove).mpr ⟨fails, first⟩⟩
    rw [ancestor?, isAbove, Option.bind_some, reached]

theorem FirstUp.steps_eq_zero
    (search : FirstUp passes node steps found)
    (passed : passes node) :
    steps = 0 := by
  cases steps with
  | zero => rfl
  | succ steps => exact absurd passed (firstUp_succ_iff.mp search).1

/-- A search that some node passes comes to a first one. -/
theorem exists_firstUp
    (passes : Node → Prop)
    (reached : ancestor? steps node = some found)
    (passed : passes found) :
    ∃ fewest first, FirstUp passes node fewest first := by
  induction steps generalizing node with
  | zero =>
      obtain rfl := Option.some.inj reached
      exact ⟨0, node, firstUp_zero_iff.mpr ⟨rfl, passed⟩⟩
  | succ steps further =>
      obtain ⟨above, isAbove, reachedAbove⟩ := Option.bind_eq_some_iff.mp reached
      by_cases here : passes node
      · exact ⟨0, node, firstUp_zero_iff.mpr ⟨rfl, here⟩⟩
      · obtain ⟨fewest, first, search⟩ := further reachedAbove
        exact ⟨fewest + 1, first, firstUp_succ_iff.mpr ⟨here, above, isAbove, search⟩⟩

/-- The lineage of a node starts with it. -/
theorem lineage_eq_cons
    (node : Node) :
    lineage node = node :: (lineage node).tail := by
  cases isAbove : parent? node with
  | none => rw [lineage_of_root isAbove, List.tail_cons]
  | some above => rw [lineage_of_parent isAbove, List.tail_cons]

/-- Searching the lineage is trying the node, and then going on above it. -/
theorem find?_lineage
    (test : Node → Bool)
    (node : Node) :
    (lineage node).find? test =
      if test node then some node
      else (parent? node).bind fun above => (lineage above).find? test := by
  cases isAbove : parent? node with
  | none =>
      rw [lineage_of_root isAbove, List.find?_singleton]
      rfl
  | some above =>
      rw [lineage_of_parent isAbove, List.find?_cons, Option.bind_some]
      cases test node <;> rfl

theorem find?_lineage_eq_some_iff
    {test : Node → Bool} :
    (lineage node).find? test = some found ↔
      ∃ steps, FirstUp (fun other => test other = true) node steps found := by
  induction node using induction_up with
  | step node further =>
      rw [find?_lineage]
      split
      · rename_i passed
        constructor
        · intro equal
          exact ⟨0, firstUp_zero_iff.mpr ⟨(Option.some.inj equal).symm, passed⟩⟩
        · rintro ⟨steps, search⟩
          obtain rfl := search.steps_eq_zero passed
          rw [(firstUp_zero_iff.mp search).1]
      · rename_i fails
        constructor
        · intro searched
          obtain ⟨above, isAbove, foundAbove⟩ := Option.bind_eq_some_iff.mp searched
          obtain ⟨steps, search⟩ := (further above isAbove).mp foundAbove
          exact ⟨steps + 1, firstUp_succ_iff.mpr ⟨fails, above, isAbove, search⟩⟩
        · rintro ⟨steps, search⟩
          cases steps with
          | zero => exact absurd (firstUp_zero_iff.mp search).2 fails
          | succ steps =>
              obtain ⟨_, above, isAbove, searchAbove⟩ := firstUp_succ_iff.mp search
              rw [isAbove, Option.bind_some]
              exact (further above isAbove).mpr ⟨steps, searchAbove⟩

end ContentNode
end ContentAccess
