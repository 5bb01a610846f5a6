import ContentAccess.Proofs.Text.Numeral
import ContentAccess.Proofs.Text.Split
import ContentAccess.Rule.Dialect

/-!
# Recognizing dialects

A version header is told by its letter, its digits and its colon, and its number
names the dialect.  Without a header the dialect is the one whose separator
comes first.
-/

namespace ContentAccess
namespace Dialect

/-! ## Version headers -/

/-- The version header with these digits; without digits there is no header. -/
def headerText : Option (List Char) → List Char
  | some digits => 'v' :: digits ++ [':']
  | none => []

/-- The digits of a header, if there are any, are a number of the dialect. -/
def IsVersion
    (dialect : Dialect)
    (version : Option (List Char)) : Prop :=
  ∀ digits ∈ version,
    Text.isDigits digits = true ∧ Text.decimalValue digits = dialect.version

@[simp] theorem isVersion_none (dialect : Dialect) : dialect.IsVersion none := by
  simp [IsVersion]

/-- The shortest header of a dialect is its number. -/
theorem isVersion_decimalDigits (dialect : Dialect) :
    dialect.IsVersion (some (Text.decimalDigits dialect.version)) := by
  rintro _ ⟨⟩
  cases dialect <;> decide

/-- A colon is no digit. -/
theorem colon_not_mem_of_isDigits
    {digits : List Char}
    (numeral : Text.isDigits digits = true) :
    ':' ∉ digits := by
  intro member
  exact absurd (Text.isDigit_of_mem numeral member) (by decide)

/-- A header is a letter `v`, digits and a colon. -/
theorem header?_eq_some_iff
    {text digits body : List Char} :
    header? text = some (digits, body) ↔
      text = 'v' :: digits ++ ':' :: body ∧ Text.isDigits digits = true := by
  unfold header?
  split
  · rename_i rest
    rw [List.cons_append, List.cons.injEq, and_iff_right rfl]
    cases cut : Text.splitFirst? ':' rest with
    | none =>
        simp only [reduceCtorEq, false_iff, not_and]
        rintro rfl
        exact absurd (Text.splitFirst?_eq_none_iff.mp cut) (by simp)
    | some parts =>
        obtain ⟨first, following⟩ := parts
        obtain ⟨joined, absent⟩ := Text.splitFirst?_eq_some_iff.mp cut
        constructor
        · intro read
          by_cases numeral : Text.isDigits first = true
          · simp only [if_pos numeral, Option.some.injEq, Prod.mk.injEq] at read
            obtain ⟨rfl, rfl⟩ := read
            exact ⟨joined, numeral⟩
          · simp [numeral] at read
        · rintro ⟨rfl, numeral⟩
          rw [Text.splitFirst?_append (colon_not_mem_of_isDigits numeral)] at cut
          obtain ⟨rfl, rfl⟩ := Prod.mk.inj (Option.some.inj cut)
          simp [numeral]
  · rename_i otherLetter
    simp only [reduceCtorEq, false_iff, not_and, List.cons_append]
    intro headed
    exact absurd headed (otherLetter _)

/-- A numeral names the dialect with that number. -/
theorem ofVersion?_eq_some_iff
    {version : Nat}
    {dialect : Dialect} :
    ofVersion? version = some dialect ↔ version = dialect.version := by
  constructor
  · intro found
    unfold ofVersion? at found
    split at found <;> simp_all [Dialect.version]
    all_goals subst found; rfl
  · rintro rfl
    exact ofVersion?_version dialect

/-- The digits of a header name the dialect whose number they are, however many
zeros stand in front. -/
theorem ofVersion?_word32?_eq_some_iff
    {digits : List Char}
    (numeral : Text.isDigits digits = true)
    (dialect : Dialect) :
    ((Text.word32? digits).bind fun number => ofVersion? number.toNat) = some dialect ↔
      Text.decimalValue digits = dialect.version := by
  rw [Text.word32?, Text.natural?_of_isDigits numeral]
  by_cases small : Text.decimalValue digits < UInt32.size
  · have exact32 : (UInt32.ofNat (Text.decimalValue digits)).toNat = Text.decimalValue digits :=
      UInt32.toNat_ofNat_of_lt' small
    simp only [Option.bind_eq_bind, Option.bind_some, if_pos small, exact32]
    exact ofVersion?_eq_some_iff
  · have low : dialect.version < UInt32.size := by cases dialect <;> decide
    simp only [Option.bind_eq_bind, Option.bind_some, if_neg small, Option.bind_none,
      reduceCtorEq, false_iff]
    omega

/-! ## The first separator -/

/-- Without a header the first separator tells the dialect. -/
theorem infer?_append
    (dialect : Dialect)
    {before : List Char}
    (noHash : '#' ∉ before)
    (noUnderscore : '_' ∉ before)
    (after : List Char) :
    infer? (before ++ dialect.separator :: after) = some dialect := by
  have first : ((before ++ dialect.separator :: after).find? fun character =>
      character == '#' || character == '_') = some dialect.separator := by
    apply List.find?_eq_some_iff_append.mpr
    refine ⟨by cases dialect <;> rfl, before, after, rfl, ?_⟩
    intro character member
    rw [Bool.not_eq_true', Bool.or_eq_false_iff, beq_eq_false_iff_ne, beq_eq_false_iff_ne]
    constructor
    · rintro rfl
      exact noHash member
    · rintro rfl
      exact noUnderscore member
  rw [infer?, first]
  cases dialect <;> rfl

theorem infer?_eq_some_iff
    {text : List Char}
    {dialect : Dialect} :
    infer? text = some dialect ↔
      ∃ before after, text = before ++ dialect.separator :: after ∧
        '#' ∉ before ∧ '_' ∉ before := by
  constructor
  · intro inferred
    unfold infer? at inferred
    split at inferred
    · rename_i character found
      obtain ⟨isSeparator, before, after, rfl, clear⟩ :=
        List.find?_eq_some_iff_append.mp found
      have noHash : '#' ∉ before := fun hash => by simpa using clear _ hash
      have noUnderscore : '_' ∉ before := fun underscore => by simpa using clear _ underscore
      refine ⟨before, after, ?_, noHash, noUnderscore⟩
      split at inferred
      · rename_i hash
        rw [← Option.some.inj inferred, hash]
        rfl
      · rename_i notHash
        have underscore : character = '_' := by simpa [notHash] using isSeparator
        rw [← Option.some.inj inferred, underscore]
        rfl
    · contradiction
  · rintro ⟨before, after, rfl, noHash, noUnderscore⟩
    exact infer?_append dialect noHash noUnderscore after

theorem infer?_eq_none_iff {text : List Char} :
    infer? text = none ↔ '#' ∉ text ∧ '_' ∉ text := by
  unfold infer?
  split
  · rename_i character found
    have member := List.mem_of_find?_eq_some found
    have isSeparator := List.find?_some found
    simp only [Bool.or_eq_true, beq_iff_eq] at isSeparator
    rcases isSeparator with rfl | rfl <;> simp [member]
  · rename_i missing
    simp only [List.find?_eq_none, Bool.or_eq_true, beq_iff_eq, not_or] at missing
    simp only [true_iff]
    exact ⟨fun hash => (missing _ hash).1 rfl, fun underscore => (missing _ underscore).2 rfl⟩

/-! ## Both ways -/

/-- A rule is recognized by the number in its header, or else by its first
separator. -/
theorem recognize_eq_ok_iff
    {encoded : String}
    {dialect : Dialect}
    {body : List Char} :
    recognize encoded = .ok (dialect, body) ↔
      (∃ digits, header? encoded.toList = some (digits, body) ∧
        Text.decimalValue digits = dialect.version) ∨
      (header? encoded.toList = none ∧ infer? encoded.toList = some dialect ∧
        body = encoded.toList) := by
  unfold recognize
  cases headed : header? encoded.toList with
  | some parts =>
      obtain ⟨digits, following⟩ := parts
      have named := ofVersion?_word32?_eq_some_iff (header?_eq_some_iff.mp headed).2 dialect
      simp only [reduceCtorEq, false_and, or_false, Option.some.injEq, Prod.mk.injEq, and_assoc,
        exists_eq_left', ← named]
      generalize ((Text.word32? digits).bind fun number => ofVersion? number.toNat) = found
      cases found with
      | none => simp
      | some other => simp [and_comm]
  | none =>
      cases infer? encoded.toList with
      | none => simp
      | some other => simp [eq_comm]

/-- A rule is not recognized when its header has another number, or when it has
neither a header nor a separator. -/
theorem recognize_eq_error_iff
    {encoded : String}
    {error : AccessError} :
    recognize encoded = .error error ↔
      (∃ digits body, header? encoded.toList = some (digits, body) ∧
        (∀ dialect : Dialect, Text.decimalValue digits ≠ dialect.version) ∧
        .unsupportedDialect (String.ofList ('v' :: digits)) = error) ∨
      (header? encoded.toList = none ∧ infer? encoded.toList = none ∧
        .malformedRule encoded .accessSeparator = error) := by
  unfold recognize
  cases headed : header? encoded.toList with
  | some parts =>
      obtain ⟨digits, body⟩ := parts
      have named := ofVersion?_word32?_eq_some_iff (header?_eq_some_iff.mp headed).2
      simp only [reduceCtorEq, false_and, or_false, Option.some.injEq, Prod.mk.injEq, and_assoc,
        exists_and_left, exists_eq_left', ne_eq, ← named]
      generalize ((Text.word32? digits).bind fun number => ofVersion? number.toNat) = found
      cases found with
      | none => simp
      | some other => simp
  | none =>
      cases infer? encoded.toList with
      | none => simp
      | some other => simp

/-- A rule that is recognized is a header of its dialect or none, and what is
recognized after it. -/
theorem exists_version_of_recognize
    {encoded : String}
    {dialect : Dialect}
    {body : List Char}
    (recognized : recognize encoded = .ok (dialect, body)) :
    ∃ version, dialect.IsVersion version ∧ headerText version ++ body = encoded.toList := by
  rcases recognize_eq_ok_iff.mp recognized with ⟨digits, headed, number⟩ | ⟨_, _, rfl⟩
  · obtain ⟨joined, numeral⟩ := header?_eq_some_iff.mp headed
    refine ⟨some digits, ?_, by simp [headerText, joined]⟩
    rintro _ ⟨⟩
    exact ⟨numeral, number⟩
  · exact ⟨none, dialect.isVersion_none, rfl⟩

end Dialect
end ContentAccess
