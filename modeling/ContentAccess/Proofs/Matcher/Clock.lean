import ContentAccess.Proofs.Comparison
import ContentAccess.Proofs.Matcher.Lifting
import ContentAccess.Proofs.Time.Instant

/-!
# Decisions as time passes

The instant of a decision only counts for date rules whose first operand stands for it.  Such a
rule compares the instant with the dates of a record.  What lies before the instant lies before
all later ones, and what lies after it lies after all earlier ones, so the condition can change
in one direction only.  The decision follows it, or moves against it where negation reverses it.
-/

namespace ContentAccess

open ContentNode

/-! ## Rules that look at the clock -/

/-- The first operand of a date rule stands for the instant of the decision. -/
def MetadataRule.LooksAtClock (rule : MetadataRule) : Prop :=
  rule.operandType = .date ∧ ∃ operand, rule.values.head? = some operand ∧
    Text.lowerCase operand.toList = todayOperand.toList

namespace Comparison

variable {operand : String}

theorem sameLetters_todayOperand_iff :
    Text.sameLetters operand todayOperand = true ↔
      Text.lowerCase operand.toList = todayOperand.toList := by
  have lower : Text.lowerCase todayOperand.toList = todayOperand.toList := by decide
  rw [Text.sameLetters, beq_iff_eq, lower]

/-- The operand that stands for the instant is compared with the date of the value. -/
theorem holdsForDates_today_iff
    {comparison : Comparison}
    {format value : String}
    {now : Instant}
    (today : Text.lowerCase operand.toList = todayOperand.toList) :
    comparison.holdsForDates format now operand value = true ↔
      ∃ instant, Instant.read? format value = some instant ∧
        comparison.Relates now instant := by
  rw [holdsForDates, operandInstant?, if_pos (sameLetters_todayOperand_iff.mpr today)]
  cases Instant.read? format value with
  | none => simp
  | some instant => simp [Instant.order_eq_compare, holds_compare_iff]

/-- Any other operand means the same at all instants. -/
theorem holdsForDates_eq_of_not_today
    (notToday : Text.lowerCase operand.toList ≠ todayOperand.toList)
    (comparison : Comparison)
    (format : String)
    (first second : Instant)
    (value : String) :
    comparison.holdsForDates format first operand value =
      comparison.holdsForDates format second operand value := by
  have unlike : ¬Text.sameLetters operand todayOperand = true :=
    mt sameLetters_todayOperand_iff.mp notToday
  simp only [holdsForDates, operandInstant?, if_neg unlike]

end Comparison

namespace MetadataMatcher

variable {Node : Type u} [ContentNode Node] {matcher : MetadataMatcher} {node : Node}
  {now first second : Instant}

/-! ## Single values -/

theorem accepts_eq_of_not_looksAtClock
    (blind : ¬matcher.rule.LooksAtClock)
    (first second : Instant) :
    matcher.accepts first = matcher.accepts second := by
  funext value
  rw [accepts, accepts]
  cases isDate : matcher.rule.operandType with
  | text => rfl
  | integer => rfl
  | date =>
      cases leading : matcher.rule.values.head? with
      | none => simp [OperandType.accepts, leading]
      | some operand =>
          have notToday : Text.lowerCase operand.toList ≠ todayOperand.toList :=
            fun today => blind ⟨isDate, operand, leading, today⟩
          simp only [OperandType.accepts, leading, Option.any_some]
          exact Comparison.holdsForDates_eq_of_not_today notToday _ _ _ _ _

/-- The instant stands in the relation to the date of the value. -/
theorem accepts_iff_of_looksAtClock
    (looks : matcher.rule.LooksAtClock)
    {now : Instant}
    {value : String} :
    matcher.accepts now value = true ↔
      ∃ instant, Instant.read? matcher.layout.dateFormat value = some instant ∧
        matcher.rule.comparison.Relates now instant := by
  obtain ⟨isDate, operand, leading, today⟩ := looks
  rw [accepts, isDate, OperandType.accepts, leading, Option.any_some]
  exact Comparison.holdsForDates_today_iff today

/-! ## Negation -/

/-- Negation reverses the decision for the node.  It makes no difference where a rule that grants
access looks at the children of a container. -/
def IsReversed (matcher : MetadataMatcher) (node : Node) : Prop :=
  matcher.rule.negated = true ∧ (matcher.rule.access = .deny ∨
    matcher.layout.kind (matcher.layout.lifted node) ≠ .container)

theorem denies_iff_of_plain
    (plain : matcher.rule.negated = false) :
    matcher.denies now node = true ↔ matcher.Satisfies now node := by
  rw [denies_iff, plain]
  constructor
  · rintro ⟨_, satisfies⟩
    simpa using satisfies
  · intro satisfies
    have recorded : ∃ record, matcher.layout.IsRecord node record :=
      satisfies.imp fun _ => And.left
    exact ⟨recorded, by simpa using satisfies⟩

theorem denies_iff_of_negated
    (negated : matcher.rule.negated = true) :
    matcher.denies now node = true ↔
      (∃ record, matcher.layout.IsRecord node record) ∧ ¬matcher.Satisfies now node := by
  rw [denies_iff, negated]
  simp

section Single

variable (single : matcher.layout.kind (matcher.layout.lifted node) ≠ .container)

include single

theorem allows_iff_of_plain
    (plain : matcher.rule.negated = false) :
    matcher.allows now node = true ↔ matcher.Satisfies now (matcher.layout.lifted node) := by
  rw [allows_eq_of_not_container single, negated_bne_isSatisfied_iff, plain]
  simp

theorem allows_iff_of_negated
    (negated : matcher.rule.negated = true) :
    matcher.allows now node = true ↔ ¬matcher.Satisfies now (matcher.layout.lifted node) := by
  rw [allows_eq_of_not_container single, negated_bne_isSatisfied_iff, negated]
  simp

end Single

/-! ## From values to decisions -/

/-- What satisfies the condition at the first instant does so at the second.  The decision for
the node carries over with it, or comes back if negation reverses it. -/
structure CarriesOver (matcher : MetadataMatcher) (node : Node) (first second : Instant) :
    Prop where
  satisfied : matcher.isSatisfied first node = true → matcher.isSatisfied second node = true
  applied : ¬matcher.IsReversed node →
    matcher.applies first node = true → matcher.applies second node = true
  reversed : matcher.IsReversed node →
    matcher.applies second node = true → matcher.applies first node = true

section Kept

variable (kept : ∀ value, matcher.accepts first value = true → matcher.accepts second value = true)

include kept

/-- What is kept for all values is kept for the records that hold them. -/
theorem Satisfies.of_accepts
    (satisfies : matcher.Satisfies first node) :
    matcher.Satisfies second node := by
  obtain ⟨record, isRecord, present, holds⟩ := satisfies
  refine ⟨record, isRecord, present, ?_⟩
  apply holds.imp_left
  rintro ⟨several, value, listed, accepted⟩
  exact ⟨several, value, listed, kept value accepted⟩

theorem applies_of_accepts
    (straight : ¬matcher.IsReversed node)
    (applied : matcher.applies first node = true) :
    matcher.applies second node = true := by
  cases access : matcher.rule.access with
  | deny =>
      have plain : matcher.rule.negated = false := by simpa [IsReversed, access] using straight
      rw [applies_of_deny access, denies_iff_of_plain plain] at applied ⊢
      exact applied.of_accepts kept
  | allow =>
      rw [applies_of_allow access] at applied ⊢
      by_cases container : matcher.layout.kind (matcher.layout.lifted node) = .container
      · rw [allows_iff_of_container container] at applied ⊢
        obtain ⟨child, isChild, satisfies⟩ := applied
        exact ⟨child, isChild, satisfies.of_accepts kept⟩
      · have plain : matcher.rule.negated = false := by
          simpa [IsReversed, access, container] using straight
        rw [allows_iff_of_plain container plain] at applied ⊢
        exact applied.of_accepts kept

theorem applies_of_accepts_of_isReversed
    (reversed : matcher.IsReversed node)
    (applied : matcher.applies second node = true) :
    matcher.applies first node = true := by
  obtain ⟨negated, place⟩ := reversed
  cases access : matcher.rule.access with
  | deny =>
      rw [applies_of_deny access, denies_iff_of_negated negated] at applied ⊢
      exact ⟨applied.1, fun satisfies => applied.2 (satisfies.of_accepts kept)⟩
  | allow =>
      have single : matcher.layout.kind (matcher.layout.lifted node) ≠ .container := by
        simpa [access] using place
      rw [applies_of_allow access, allows_iff_of_negated single negated] at applied ⊢
      exact fun satisfies => applied (satisfies.of_accepts kept)

theorem carriesOver_of_accepts (node : Node) : matcher.CarriesOver node first second where
  satisfied := by
    rw [isSatisfied_iff, isSatisfied_iff]
    exact Satisfies.of_accepts kept
  applied := applies_of_accepts kept
  reversed := applies_of_accepts_of_isReversed kept

end Kept

/-- What carries over both ways is the same at both instants. -/
theorem CarriesOver.eq_of_back
    (onward : matcher.CarriesOver node first second)
    (back : matcher.CarriesOver node second first) :
    matcher.isSatisfied first node = matcher.isSatisfied second node ∧
      matcher.applies first node = matcher.applies second node := by
  constructor
  · exact Bool.eq_iff_iff.mpr ⟨onward.satisfied, back.satisfied⟩
  · rw [Bool.eq_iff_iff]
    by_cases reversed : matcher.IsReversed node
    · exact ⟨back.reversed reversed, onward.reversed reversed⟩
    · exact ⟨onward.applied reversed, back.applied reversed⟩

/-- A rule that does not look at the clock decides the same at all instants.  If a rule looks at
it and asks for dates up to the instant, what satisfies the condition once does so ever after; if
it asks for dates from the instant on, it has done so ever before.  Decisions move with the
condition, and against it where negation reverses them. -/
theorem clock_moves_decisions_one_way
    (matcher : MetadataMatcher)
    (node : Node) :
    (¬matcher.rule.LooksAtClock → ∀ first second,
      matcher.isSatisfied first node = matcher.isSatisfied second node ∧
      matcher.applies first node = matcher.applies second node) ∧
    (matcher.rule.LooksAtClock → ∀ earlier later : Instant, earlier ≤ later →
      (matcher.rule.comparison = .greater ∨ matcher.rule.comparison = .atLeast →
        matcher.CarriesOver node earlier later) ∧
      (matcher.rule.comparison = .less ∨ matcher.rule.comparison = .atMost →
        matcher.CarriesOver node later earlier)) := by
  constructor
  · intro blind first second
    have same := accepts_eq_of_not_looksAtClock blind first second
    apply CarriesOver.eq_of_back
    · exact carriesOver_of_accepts (fun value accepted => by rwa [← same]) node
    · exact carriesOver_of_accepts (fun value accepted => by rwa [same]) node
  · intro looks earlier later ordered
    constructor
    · intro bounds
      refine carriesOver_of_accepts (fun value accepted => ?_) node
      rw [accepts_iff_of_looksAtClock looks] at accepted ⊢
      obtain ⟨instant, isDate, relates⟩ := accepted
      exact ⟨instant, isDate, relates.of_le bounds.symm ordered⟩
    · intro bounds
      refine carriesOver_of_accepts (fun value accepted => ?_) node
      rw [accepts_iff_of_looksAtClock looks] at accepted ⊢
      obtain ⟨instant, isDate, relates⟩ := accepted
      exact ⟨instant, isDate, relates.of_ge bounds.symm ordered⟩

/-- Once a date has passed, the rule that withholds access from then on does so at all later
instants. -/
theorem clock_moves_decisions_one_way_past_expiry :
    let store := Store.replayed [.insertProperty "/a/jcr:content/metadata" "expires"
      (.multiple ["2024-01-10T01:00:00+01:00", "never"])]
    let place : store.Place := ⟨⟨1, by decide +kernel⟩⟩
    let matcher : MetadataMatcher :=
      ⟨⟨.deny, false, .date, .greater, "expires", ["Today"], "/"⟩, .standard⟩
    matcher.applies ⟨1704844800, 0⟩ place = false ∧
      ∀ later : Instant, ⟨1704844800, 1⟩ ≤ later → matcher.applies later place = true := by
  intro store place matcher
  have looks : matcher.rule.LooksAtClock := ⟨rfl, "Today", rfl, by decide⟩
  have straight : ¬matcher.IsReversed place := fun reversed => Bool.false_ne_true reversed.1
  refine ⟨by decide +kernel, fun later ordered => ?_⟩
  have onward := ((clock_moves_decisions_one_way matcher place).2 looks _ later ordered).1 (.inl rfl)
  exact onward.applied straight (by decide +kernel)

end MetadataMatcher
end ContentAccess
