import ContentAccess.Proofs.Rule.Comparison

/-!
# Overlapping spellings

A rule is written as a property, the token of a comparison and values.  Whether
the token is found again depends on the spellings that begin inside the property
and on those that go on after the token.  A compact spelling begins with an
operator character, and no legacy spelling reaches beyond the token into the
values.
-/

namespace ContentAccess
namespace Dialect

/-! ## The compact dialect -/

theorem spellings_compact :
    compact.spellings =
      [(['>', '='], .atLeast), (['<', '='], .atMost), (['=', '='], .equal), (['>'], .greater),
        (['<'], .less), (['='], .equal)] := by
  rfl

/-- A compact comparison is spelled wherever an operator character stands. -/
theorem spelledAt_compact_iff
    {text : List Char}
    {place : Nat} :
    compact.SpelledAt text place ↔
      text[place]? = some '=' ∨ text[place]? = some '<' ∨ text[place]? = some '>' := by
  rw [SpelledAt, spellings_compact, ← List.head?_drop]
  cases text.drop place with
  | nil => simp
  | cons character rest =>
      simp only [List.mem_cons, List.not_mem_nil, or_false, exists_eq_or_imp, exists_eq_left,
        List.cons_prefix_cons, List.nil_prefix, and_true, List.head?_cons, Option.some.injEq]
      grind

/-- No compact comparison is spelled from inside a text exactly when no operator
character stands in it. -/
theorem forall_not_spelledAt_compact_iff
    (before after : List Char) :
    (∀ place < before.length, ¬compact.SpelledAt (before ++ after) place) ↔
      '=' ∉ before ∧ '<' ∉ before ∧ '>' ∉ before := by
  have inside (character : Char) :
      character ∈ before ↔
        ∃ place < before.length, (before ++ after)[place]? = some character := by
    rw [List.mem_iff_getElem?]
    constructor
    · rintro ⟨place, found⟩
      have bound := (List.getElem?_eq_some_iff.mp found).1
      exact ⟨place, bound, by rw [List.getElem?_append_left bound, found]⟩
    · rintro ⟨place, bound, found⟩
      rw [List.getElem?_append_left bound] at found
      exact ⟨place, found⟩
  simp only [inside, spelledAt_compact_iff, not_or, not_exists, not_and]
  constructor
  · intro clean
    refine ⟨?_, ?_, ?_⟩ <;> intro place bound
    · exact (clean place bound).1
    · exact (clean place bound).2.1
    · exact (clean place bound).2.2
  · rintro ⟨noEqual, noLess, noGreater⟩ place bound
    exact ⟨noEqual place bound, noLess place bound, noGreater place bound⟩

/-- A compact token is the longest spelling unless an equals sign makes a longer
one of `>` or `<`. -/
theorem isLongest_compact_iff
    {comparison : Comparison}
    {after : List Char} :
    compact.IsLongest (compact.token comparison).toList
        ((compact.token comparison).toList ++ after) ↔
      (comparison = .greater ∨ comparison = .less → after.head? ≠ some '=') := by
  rw [IsLongest, spellings_compact]
  cases comparison <;> cases after <;> simp [token, eq_comm]

/-! ## The legacy dialect -/

/-- A legacy spelling that contains another one ends with it. -/
theorem length_le_of_prefix_drop_legacy
    {outer inner : List Char × Comparison}
    (outerListed : outer ∈ legacy.spellings)
    (innerListed : inner ∈ legacy.spellings)
    (place : Nat)
    (contained : inner.1 <+: outer.1.drop place) :
    outer.1.length ≤ place + inner.1.length := by
  have table : ∀ outer ∈ legacy.spellings, ∀ inner ∈ legacy.spellings,
      ∀ place < outer.1.length, inner.1 <+: outer.1.drop place →
        outer.1.length ≤ place + inner.1.length := by
    decide
  by_cases within : place < outer.1.length
  · exact table outer outerListed inner innerListed place within contained
  · omega

/-- No legacy spelling begins with a shorter one. -/
theorem isLongest_legacy
    (comparison : Comparison)
    (after : List Char) :
    legacy.IsLongest (legacy.token comparison).toList
      ((legacy.token comparison).toList ++ after) := by
  intro entry listed atFront
  have token := legacy.token_mem_spellings comparison
  rcases List.prefix_or_prefix_of_prefix atFront (List.prefix_append _ after) with short | long
  · exact short.length_le
  · have bound := length_le_of_prefix_drop_legacy listed token 0 long
    rwa [Nat.zero_add] at bound

/-- A legacy spelling that begins before a token ends with the token or earlier,
so what follows the token makes no difference. -/
theorem spelledAt_legacy_append_iff
    {before : List Char}
    {place : Nat}
    (inside : place < before.length)
    (comparison : Comparison)
    (after : List Char) :
    legacy.SpelledAt (before ++ (legacy.token comparison).toList ++ after) place ↔
      legacy.SpelledAt (before ++ (legacy.token comparison).toList) place := by
  have token := legacy.token_mem_spellings comparison
  generalize (legacy.token comparison).toList = word at token
  have cut (rest : List Char) :
      (before ++ rest).drop place = before.drop place ++ rest :=
    List.drop_append_of_le_length (Nat.le_of_lt inside)
  simp only [SpelledAt, List.append_assoc, cut]
  constructor
  · rintro ⟨entry, listed, spelled⟩
    refine ⟨entry, listed, ?_⟩
    rw [← List.append_assoc] at spelled
    rcases List.prefix_or_prefix_of_prefix spelled (List.prefix_append _ after) with short | long
    · exact short
    · -- The spelling holds the whole token, so it ends with it.
      obtain ⟨tail, whole⟩ := long
      have contained : word <+: entry.1.drop (before.drop place).length := by
        rw [← whole, List.append_assoc, List.drop_left]
        exact List.prefix_append word tail
      have bound : entry.1.length ≤ (before.drop place).length + word.length :=
        length_le_of_prefix_drop_legacy listed token _ contained
      rw [← whole, List.length_append, List.length_append] at bound
      have noTail : tail = [] := List.length_eq_zero_iff.mp (by omega)
      have ending : entry.1 = before.drop place ++ word := by
        rw [← whole, noTail, List.append_nil]
      exact ⟨[], by rw [ending, List.append_nil]⟩
  · rintro ⟨entry, listed, spelled⟩
    refine ⟨entry, listed, spelled.trans ?_⟩
    rw [← List.append_assoc]
    exact List.prefix_append _ after

end Dialect
end ContentAccess
