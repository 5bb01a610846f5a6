import ContentAccess.Proofs.Text.Split
import ContentAccess.Rule.Dialect

/-!
# Scanning for comparisons

A rule is cut at the earliest place where its dialect spells a comparison, and
there the longest spelling counts.  No spelling stands before a longer one that
it begins in the list of spellings, so the first spelling that fits is the
longest one.
-/

namespace ContentAccess
namespace Dialect

/-- Some comparison is spelled at this place of the text. -/
def SpelledAt
    (dialect : Dialect)
    (text : List Char)
    (place : Nat) : Prop :=
  ∃ entry ∈ dialect.spellings, entry.1 <+: text.drop place

/-- No spelling at the front of the text is longer than `token`. -/
def IsLongest
    (dialect : Dialect)
    (token text : List Char) : Prop :=
  ∀ entry ∈ dialect.spellings, entry.1 <+: text → entry.1.length ≤ token.length

instance (dialect : Dialect) (text : List Char) (place : Nat) :
    Decidable (dialect.SpelledAt text place) :=
  inferInstanceAs (Decidable (∃ entry ∈ dialect.spellings, entry.1 <+: text.drop place))

/-- A spelling comes before everything that it begins with. -/
theorem pairwise_spellings (dialect : Dialect) :
    dialect.spellings.Pairwise fun earlier later => ¬earlier.1 <+: later.1 := by
  cases dialect <;> decide

/-- Every comparison is spelled by its token. -/
theorem token_mem_spellings
    (dialect : Dialect)
    (comparison : Comparison) :
    ((dialect.token comparison).toList, comparison) ∈ dialect.spellings := by
  cases dialect <;> cases comparison <;> decide

/-- Only equality has a spelling besides its token, and only in the compact
dialect. -/
theorem eq_token_of_mem_spellings
    {dialect : Dialect}
    {token : List Char}
    {comparison : Comparison}
    (listed : (token, comparison) ∈ dialect.spellings) :
    token = (dialect.token comparison).toList ∨
      dialect = .compact ∧ comparison = .equal := by
  revert listed
  cases dialect <;> cases comparison <;> simp [spellings, Dialect.token]

/-- No comparison is spelled by nothing at all. -/
theorem spelling_ne_nil
    {dialect : Dialect}
    {entry : List Char × Comparison}
    (listed : entry ∈ dialect.spellings) :
    entry.1 ≠ [] := by
  revert entry
  cases dialect <;> decide

/-! ## The front of a text -/

/-- Of the spellings at the front of a text the longest one is read. -/
theorem leadingComparison?_eq_some_iff
    {dialect : Dialect}
    {text rest : List Char}
    {comparison : Comparison} :
    dialect.leadingComparison? text = some (comparison, rest) ↔
      ∃ token, (token, comparison) ∈ dialect.spellings ∧ text = token ++ rest ∧
        dialect.IsLongest token text := by
  have ordered := dialect.pairwise_spellings
  rw [leadingComparison?, List.findSome?_eq_some_iff]
  simp only [Option.map_eq_some_iff, Option.map_eq_none_iff, Text.stripStart?_eq_some_iff,
    Text.stripStart?_eq_none_iff, Prod.mk.injEq]
  constructor
  · rintro ⟨earlier, ⟨token, read⟩, later, listed, ⟨_, joined, rfl, rfl⟩, missed⟩
    rw [listed, List.pairwise_append] at ordered
    refine ⟨token, by simp [listed], joined, ?_⟩
    intro entry member atFront
    rw [listed, List.mem_append, List.mem_cons] at member
    rcases member with before | same | after
    · exact absurd atFront (missed entry before)
    · subst same
      exact Nat.le_refl token.length
    · -- Of two beginnings of one text the shorter begins the longer.
      have tokenAtFront : token <+: text := by
        rw [joined]
        exact List.prefix_append token _
      rcases List.prefix_or_prefix_of_prefix tokenAtFront atFront with begins | begins
      · exact absurd begins ((List.pairwise_cons.mp ordered.2.1).1 entry after)
      · exact begins.length_le
  · rintro ⟨token, member, joined, longest⟩
    obtain ⟨earlier, later, listed⟩ := List.append_of_mem member
    rw [listed, List.pairwise_append] at ordered
    refine ⟨earlier, (token, comparison), later, listed, ⟨rest, joined, rfl, rfl⟩, ?_⟩
    intro entry before atFront
    have tokenAtFront : token <+: text := by
      rw [joined]
      exact List.prefix_append token rest
    have shorter := longest entry (by simp [listed, before]) atFront
    have begins := List.prefix_of_prefix_length_le atFront tokenAtFront shorter
    exact ordered.2.2 entry before (token, comparison) List.mem_cons_self begins

/-- No comparison is read exactly when none is spelled at the front. -/
theorem leadingComparison?_eq_none_iff
    {dialect : Dialect}
    {text : List Char} :
    dialect.leadingComparison? text = none ↔ ¬dialect.SpelledAt text 0 := by
  rw [leadingComparison?, List.findSome?_eq_none_iff]
  simp only [Option.map_eq_none_iff, Text.stripStart?_eq_none_iff, SpelledAt, List.drop_zero,
    not_exists, not_and]

/-! ## The earliest place -/

/-- The comparison stands between `before` and `after`, at the earliest place where
one is spelled, and there in its longest spelling. -/
def IsCut
    (dialect : Dialect)
    (text before : List Char)
    (comparison : Comparison)
    (after : List Char) : Prop :=
  ∃ token, (token, comparison) ∈ dialect.spellings ∧ text = before ++ token ++ after ∧
    (∀ place < before.length, ¬dialect.SpelledAt text place) ∧
    dialect.IsLongest token (token ++ after)

section Cut

variable {dialect : Dialect} {text before after : List Char} {comparison : Comparison}

theorem not_isCut_nil : ¬dialect.IsCut [] before comparison after := by
  rintro ⟨token, listed, joined, _⟩
  simp only [List.nil_eq, List.append_eq_nil_iff] at joined
  exact spelling_ne_nil listed joined.1.2

/-- Nothing stands before a comparison at the front. -/
theorem isCut_front_iff :
    dialect.IsCut text [] comparison after ↔
      dialect.leadingComparison? text = some (comparison, after) := by
  rw [leadingComparison?_eq_some_iff]
  constructor
  · rintro ⟨token, listed, rfl, _, longest⟩
    exact ⟨token, listed, rfl, longest⟩
  · rintro ⟨token, listed, rfl, longest⟩
    exact ⟨token, listed, rfl, by simp, longest⟩

/-- A character in front of which no comparison is spelled goes to what stands
before. -/
theorem isCut_cons_iff
    {first character : Char}
    {rest : List Char} :
    dialect.IsCut (character :: rest) (first :: before) comparison after ↔
      first = character ∧ dialect.leadingComparison? (character :: rest) = none ∧
        dialect.IsCut rest before comparison after := by
  rw [leadingComparison?_eq_none_iff]
  constructor
  · rintro ⟨token, listed, joined, earliest, longest⟩
    rw [List.cons_append, List.cons_append, List.cons.injEq] at joined
    refine ⟨joined.1.symm, earliest 0 (by simp), token, listed, joined.2, ?_, longest⟩
    intro place inside
    exact earliest (place + 1) (by simpa using inside)
  · rintro ⟨rfl, unspelled, token, listed, rfl, earliest, longest⟩
    refine ⟨token, listed, rfl, ?_, longest⟩
    intro place inside
    cases place with
    | zero => exact unspelled
    | succ place => exact earliest place (by simpa using inside)

/-- A text is cut at the earliest place where a comparison is spelled, and there
at the longest spelling. -/
theorem splitComparison?_eq_some_iff :
    dialect.splitComparison? text = some (before, comparison, after) ↔
      dialect.IsCut text before comparison after := by
  induction text generalizing before with
  | nil => simp [not_isCut_nil]
  | cons character rest step =>
      rw [splitComparison?]
      cases before with
      | nil =>
          rw [isCut_front_iff]
          cases dialect.leadingComparison? (character :: rest) with
          | some found => simp [Prod.ext_iff]
          | none => simp
      | cons first before =>
          rw [isCut_cons_iff, ← step]
          cases dialect.leadingComparison? (character :: rest) with
          | some found => simp
          | none =>
              simp only [Option.map_eq_some_iff, Prod.mk.injEq, List.cons.injEq, true_and]
              constructor
              · rintro ⟨⟨_, _⟩, cut, ⟨rfl, rfl⟩, rfl⟩
                exact ⟨rfl, cut⟩
              · rintro ⟨rfl, cut⟩
                exact ⟨_, cut, ⟨rfl, rfl⟩, rfl⟩

/-- A text is not cut exactly when no comparison is spelled anywhere in it. -/
theorem splitComparison?_eq_none_iff :
    dialect.splitComparison? text = none ↔ ∀ place, ¬dialect.SpelledAt text place := by
  induction text with
  | nil =>
      rw [splitComparison?_nil]
      simp only [SpelledAt, List.drop_nil, List.prefix_nil, true_iff, not_exists, not_and]
      intro _ entry listed
      exact spelling_ne_nil listed
  | cons character rest step =>
      have places : (∀ place, ¬dialect.SpelledAt (character :: rest) place) ↔
          ¬dialect.SpelledAt (character :: rest) 0 ∧ ∀ place, ¬dialect.SpelledAt rest place := by
        constructor
        · intro unspelled
          exact ⟨unspelled 0, fun place => unspelled (place + 1)⟩
        · rintro ⟨front, further⟩ place
          cases place with
          | zero => exact front
          | succ place => exact further place
      rw [places, ← step, ← leadingComparison?_eq_none_iff, splitComparison?]
      cases dialect.leadingComparison? (character :: rest) with
      | some found => simp
      | none => simp

/-- A cut leaves nothing in front exactly when a comparison is spelled there. -/
theorem spelledAt_zero_iff :
    dialect.SpelledAt text 0 ↔
      ∃ comparison after, dialect.splitComparison? text = some ([], comparison, after) := by
  simp only [splitComparison?_eq_some_iff, isCut_front_iff]
  have unspelled : dialect.leadingComparison? text = none ↔ ¬dialect.SpelledAt text 0 :=
    leadingComparison?_eq_none_iff
  cases leading : dialect.leadingComparison? text with
  | none => simpa [leading] using unspelled
  | some found => simpa [leading, Prod.ext_iff] using unspelled

end Cut

end Dialect
end ContentAccess
