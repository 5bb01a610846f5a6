import ContentAccess.Proofs.Text.Positional
import ContentAccess.Proofs.Time.Field
import ContentAccess.Time.Directive

/-!
# Reading by directives

What one directive reads off the front of a text, when a number stands there in as many digits as
the directive asks for, or a fraction or an offset in its common form.  A text that is read part
by part is read by the directives one after another.
-/

namespace ContentAccess
namespace Time

open Text

/-! ## Runs of digits -/

variable {run rest : List Char} {width value : Nat}

theorem takeDigits_append
    (digits : ∀ character ∈ run, character.isDigit = true) :
    takeDigits (some run.length) (run ++ rest) = (run, rest) := by
  have whole : run.takeWhile Char.isDigit = run := List.takeWhile_eq_self_iff.mpr digits
  simp [takeDigits, whole]

/-- Without a width, digits are read up to the first other character. -/
theorem takeDigits_none_append
    (digits : ∀ character ∈ run, character.isDigit = true)
    (ended : ∀ character ∈ rest.head?, character.isDigit = false) :
    takeDigits none (run ++ rest) = (run, rest) := by
  have stopped : rest.takeWhile Char.isDigit = [] := by
    cases rest with
    | nil => rfl
    | cons first _ => rw [List.takeWhile_cons, ended first rfl, if_neg Bool.false_ne_true]
  have whole : (run ++ rest).takeWhile Char.isDigit = run := by
    rw [List.takeWhile_append_of_pos digits, stopped, List.append_nil]
  simp [takeDigits, whole]

section Padded

variable (positive : 0 < width) (bounded : value < 10 ^ width)

include positive bounded

theorem takeDigits_padded :
    takeDigits (some width) (padded width value ++ rest) = (padded width value, rest) := by
  have digits : ∀ character ∈ padded width value, character.isDigit = true :=
    fun _ => isDigit_of_mem (isDigits_padded width value)
  have taken : takeDigits (some (padded width value).length) (padded width value ++ rest) =
      (padded width value, rest) :=
    takeDigits_append digits
  rwa [length_padded positive bounded] at taken

theorem takeNumber?_padded :
    takeNumber? (some width) (padded width value ++ rest) = some ((value : Int), rest) := by
  have nonempty : padded width value ≠ [] := by
    rw [← List.length_pos_iff, length_padded positive bounded]
    exact positive
  rw [takeNumber?, takeDigits_padded positive bounded]
  simp [nonempty]

theorem takeExactly?_padded :
    takeExactly? width (padded width value ++ rest) = some (padded width value, rest) := by
  rw [takeExactly?, takeDigits_padded positive bounded]
  exact if_pos (length_padded positive bounded)

/-- A digit stands at the front. -/
theorem exists_padded_eq_cons :
    ∃ digit others, padded width value = digit :: others ∧ digit.isDigit = true := by
  cases written : padded width value with
  | nil =>
      have length := length_padded positive bounded
      rw [written, List.length_nil] at length
      omega
  | cons digit others =>
      refine ⟨digit, others, rfl, isDigit_of_mem (isDigits_padded width value) ?_⟩
      rw [written]
      exact List.mem_cons_self

theorem trimStart_padded : trimStart (padded width value ++ rest) = padded width value ++ rest := by
  obtain ⟨digit, others, written, isDigit⟩ := exists_padded_eq_cons positive bounded
  have visible := isBlank_eq_false_of_isDigit isDigit
  rw [written, trimStart, List.cons_append, List.dropWhile_cons_of_neg (by simp [visible])]

namespace Directive

variable (quantity : Quantity)

theorem take?_number_padded :
    (number quantity (some width)).take? (padded width value ++ rest) =
      (quantity.entries? value).map (·, rest) := by
  simp only [take?, trimStart_padded positive bounded, takeNumber?_padded positive bounded,
    Option.bind_eq_bind, Option.bind_some]
  cases quantity.entries? value <;> rfl

theorem take?_digits_padded :
    (digits quantity width).take? (padded width value ++ rest) =
      (quantity.entries? value).map (·, rest) := by
  simp only [take?, takeExactly?_padded positive bounded, decimalValue_padded,
    Option.bind_eq_bind, Option.bind_some]
  cases quantity.entries? value <;> rfl

/-- A digit is no sign, so the digits are read as they are. -/
theorem take?_signedNumber_padded :
    (signedNumber quantity width).take? (padded width value ++ rest) =
      (quantity.entries? value).map (·, rest) := by
  obtain ⟨digit, others, written, isDigit⟩ := exists_padded_eq_cons positive bounded
  simp only [take?, trimStart_padded positive bounded]
  split
  · rename_i signed
    rw [written, List.cons_append, List.cons.injEq] at signed
    exact absurd (signed.1 ▸ isDigit) (by decide)
  · rename_i signed
    rw [written, List.cons_append, List.cons.injEq] at signed
    exact absurd (signed.1 ▸ isDigit) (by decide)
  · simp only [takeNumber?_padded positive bounded, Option.bind_eq_bind, Option.bind_some]
    cases quantity.entries? value <;> rfl

end Directive
end Padded

/-! ## Marks, fractions and offsets -/

namespace Directive

@[simp] theorem take?_literal (character : Char) (rest : List Char) :
    (literal character).take? (character :: rest) = some ([], rest) := by
  simp [take?, stripStart?]

@[simp] theorem take?_dayTimeMark (rest : List Char) :
    dayTimeMark.take? ('T' :: rest) = some ([], rest) :=
  rfl

/-- The digits of a fraction are the last ones before another character. -/
theorem take?_fraction_point
    (digits : isDigits run = true)
    (ended : ∀ character ∈ rest.head?, character.isDigit = false) :
    (fraction none).take? ('.' :: (run ++ rest)) =
      some ([(.nanosecond, nanoseconds run)], rest) := by
  have someDigit : ¬run.length < 1 := by
    rw [isDigits, Bool.and_eq_true, Bool.not_eq_true', List.isEmpty_eq_false_iff] at digits
    have positive := List.length_pos_iff.mpr digits.1
    omega
  simp only [take?, takeDigits_none_append (fun _ => isDigit_of_mem digits) ended]
  exact if_neg someDigit

/-- Without a point there is no fraction. -/
theorem take?_fraction_of_no_point
    (noPoint : rest.head? ≠ some '.') :
    (fraction none).take? rest = some ([], rest) := by
  simp only [take?]
  split
  · exact absurd rfl noPoint
  · rfl

end Directive

/-- The digits of a fraction count from the first of nine. -/
theorem nanoseconds_eq
    (short : run.length ≤ 9) :
    nanoseconds run = 10 ^ (9 - run.length) * decimalValue run := by
  have taken : (run ++ List.replicate 9 '0').take 9 =
      run ++ List.replicate (9 - run.length) '0' := by
    rw [List.take_append, List.take_of_length_le short, List.take_replicate,
      Nat.min_eq_left (Nat.sub_le _ _)]
  rw [nanoseconds, taken, decimalValue_append, decimalValue_replicate_zero, List.length_replicate,
    Nat.add_zero]
  push_cast
  rfl

/-- The sign of an offset. -/
def signOf (behind : Bool) : Char :=
  if behind then '-' else '+'

theorem trimStart_signOf (behind : Bool) (text : List Char) :
    trimStart (signOf behind :: text) = signOf behind :: text := by
  have visible : isBlank (signOf behind) = false := by cases behind <;> decide
  rw [trimStart, List.dropWhile_cons_of_neg (by simp [visible])]

theorem takeOffsetSeparator?_numeric
    (positive : 0 < width)
    (bounded : value < 10 ^ width) :
    takeOffsetSeparator? .numeric (':' :: (padded width value ++ rest)) =
      some (padded width value ++ rest) := by
  obtain ⟨digit, others, written, isDigit⟩ := exists_padded_eq_cons positive bounded
  have visible := isBlank_eq_false_of_isDigit isDigit
  have noColon : digit ≠ ':' := by
    rintro rfl
    exact absurd isDigit (by decide)
  rw [written]
  simp [takeOffsetSeparator?, visible, noColon]

theorem takeMinutes?_padded
    {minutes : Nat}
    (inHour : minutes ≤ 59) :
    takeMinutes? (padded 2 minutes ++ rest) = some (minutes, rest) := by
  have less : minutes < 60 := Nat.lt_succ_of_le inHour
  rw [takeMinutes?, takeExactly?_padded (by decide) (by omega)]
  simp [less]

/-- An offset with a sign, hours and minutes. -/
theorem takeOffset?_numeric
    {hours minutes : Nat}
    (inDay : hours ≤ 23)
    (inHour : minutes ≤ 59)
    (behind : Bool) :
    takeOffset? .numeric
        (signOf behind :: (padded 2 hours ++ ':' :: (padded 2 minutes ++ rest))) =
      some (if behind then -(hours * 3600 + minutes * 60 : Int) else hours * 3600 + minutes * 60,
        rest) := by
  have signed (text : List Char) :
      takeSign? (signOf behind :: text) = some (behind, text) := by cases behind <;> rfl
  have hoursRead (text : List Char) :
      takeExactly? 2 (padded 2 hours ++ text) = some (padded 2 hours, text) :=
    takeExactly?_padded (by decide) (by omega)
  have separated :
      takeOffsetSeparator? .numeric (':' :: (padded 2 minutes ++ rest)) =
        some (padded 2 minutes ++ rest) :=
    takeOffsetSeparator?_numeric (by decide) (by omega)
  simp only [takeOffset?, reduceCtorEq, if_false, trimStart_signOf, takeZone?, signed, hoursRead,
    separated, takeMinutes?_padded inHour, false_and, Option.bind_eq_bind, Option.bind_some,
    decimalValue_padded, Option.pure_def]

/-! ## One directive after another -/

namespace Directive

/-- Reads the front of a text by a list of directives: the values that they give, and what
follows. -/
def takeAll? : List Directive → List Char → Option (List (Field × Int) × List Char)
  | [], text => some ([], text)
  | directive :: others, text => do
      let (entries, following) ← directive.take? text
      let (further, rest) ← takeAll? others following
      return (entries ++ further, rest)

theorem takeAll?_cons
    {directive : Directive}
    {others : List Directive}
    {text following : List Char}
    {entries further : List (Field × Int)}
    (first : directive.take? text = some (entries, following))
    (later : takeAll? others following = some (further, rest)) :
    takeAll? (directive :: others) text = some (entries ++ further, rest) := by
  rw [takeAll?, first]
  change (takeAll? others following).bind _ = _
  rw [later]
  rfl

/-- A text is read by directives when its front is read by the first of them and what follows by
the others. -/
theorem readAll?_append
    {front : List Directive}
    {text : List Char}
    {entries : List (Field × Int)}
    (taken : takeAll? front text = some (entries, rest))
    (back : List Directive)
    (fields : Fields) :
    readAll? (front ++ back) text fields =
      (fields.putAll? entries).bind fun fields => readAll? back rest fields := by
  induction front generalizing text entries fields with
  | nil =>
      cases taken
      rfl
  | cons directive others step =>
      rw [takeAll?] at taken
      simp only [Option.bind_eq_bind, Option.bind_eq_some_iff, Option.pure_def,
        Option.some.injEq, Prod.exists, Prod.mk.injEq] at taken
      obtain ⟨first, following, read, further, last, readOthers, rfl, rfl⟩ := taken
      rw [List.cons_append, readAll?, read, Fields.putAll?_append]
      simp only [Option.bind_eq_bind, Option.bind_some, Option.bind_assoc]
      congr 1
      funext fields
      exact step readOthers fields

end Directive
end Time
end ContentAccess
