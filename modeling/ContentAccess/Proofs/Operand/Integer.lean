import ContentAccess.Operand
import ContentAccess.Proofs.Comparison
import ContentAccess.Proofs.Text.Positional

/-!
# Comparing integers

A text is an integer when it is digits with a sign in front or none.  Two integers are compared
by their values, however they are spelled, as long as both fit into 32 bits.  Where one of them
does not fit, or is no integer at all, no comparison holds.
-/

namespace ContentAccess

namespace Text

/-! ## Integers as texts -/

/-- The text is digits with a sign in front or none, and this is their value in positional
notation. -/
def IsInteger (text : List Char) (value : Int) : Prop :=
  ∃ sign digits, text = sign ++ digits ∧ isDigits digits = true ∧
    ((sign = [] ∨ sign = ['+']) ∧ value = Nat.ofDigits (10 : Int) (digits.map digitValue).reverse ∨
      sign = ['-'] ∧ value = -Nat.ofDigits (10 : Int) (digits.map digitValue).reverse)

theorem cast_decimalValue (digits : List Char) :
    (decimalValue digits : Int) = Nat.ofDigits (10 : Int) (digits.map digitValue).reverse := by
  rw [decimalValue_eq_ofDigits, Nat.coe_ofDigits]
  rfl

theorem integer?_minus
    {digits : List Char}
    (numeral : isDigits digits = true) :
    integer? ('-' :: digits) = some (-(decimalValue digits : Int)) := by
  have read : digits? digits = some (decimalValue digits) :=
    digits?_eq_some_iff.mpr ⟨numeral, rfl⟩
  simp [integer?, read]

/-- Texts that do not begin with a minus sign are read as numbers without a sign. -/
theorem integer?_of_natural
    {text : List Char}
    {number : Nat}
    (natural : IsNatural text number) :
    integer? text = some (number : Int) := by
  have read : natural? text = some number := natural?_eq_some_iff.mpr natural
  unfold integer?
  split
  · rename_i digits
    exact absurd (natural.plus_or_isDigit List.mem_cons_self) (by decide)
  · rw [read]
    rfl

theorem integer?_eq_some_iff
    {text : List Char}
    {value : Int} :
    integer? text = some value ↔ IsInteger text value := by
  constructor
  · intro read
    unfold integer? at read
    split at read
    · rename_i digits
      cases number : digits? digits with
      | none => simp [number] at read
      | some given =>
          obtain ⟨numeral, rfl⟩ := digits?_eq_some_iff.mp number
          refine ⟨['-'], digits, rfl, numeral, .inr ⟨rfl, ?_⟩⟩
          rw [← cast_decimalValue]
          simpa [number] using read.symm
    · obtain ⟨number, isNumber, rfl⟩ := Option.map_eq_some_iff.mp read
      obtain ⟨sign, digits, rfl, plus, numeral, rfl⟩ := natural?_eq_some_iff.mp isNumber
      exact ⟨sign, digits, rfl, numeral, .inl ⟨plus, cast_decimalValue digits⟩⟩
  · rintro ⟨sign, digits, rfl, numeral, ⟨plus, rfl⟩ | ⟨rfl, rfl⟩⟩
    · rw [← cast_decimalValue]
      exact integer?_of_natural ⟨sign, digits, rfl, plus, numeral, rfl⟩
    · rw [← cast_decimalValue]
      exact integer?_minus numeral

/-- The text is an integer of at most 32 bits, the sign included. -/
structure IsInteger32 (text : List Char) (value : Int) : Prop where
  isInteger : IsInteger text value
  least : -2147483648 ≤ value
  greatest : value ≤ 2147483647

theorem integer32?_eq_some_iff
    {text : List Char}
    {value : Int} :
    integer32? text = some value ↔ IsInteger32 text value := by
  rw [integer32?, Option.bind_eq_bind, Option.bind_eq_some_iff]
  simp only [integer?_eq_some_iff, Option.ite_none_right_eq_some, Option.some.injEq]
  constructor
  · rintro ⟨number, isInteger, ⟨least, greatest⟩, rfl⟩
    exact ⟨isInteger, least, greatest⟩
  · intro integer
    exact ⟨value, integer.isInteger, ⟨integer.least, integer.greatest⟩, rfl⟩

theorem IsInteger.unique
    {text : List Char}
    {value other : Int}
    (isInteger : IsInteger text value)
    (isOther : IsInteger text other) :
    value = other := by
  rw [← integer?_eq_some_iff] at isInteger isOther
  exact Option.some.inj (isInteger.symm.trans isOther)

/-! ## Spellings of one integer -/

/-- Another spelling of the same integer. -/
inductive Respelled : List Char → List Char → Prop where
  /-- Zeros in front of the digits. -/
  | zeros
      {sign digits : List Char}
      (count : Nat)
      (signed : sign ∈ [[], ['+'], ['-']])
      (numeral : isDigits digits = true) :
      Respelled (sign ++ digits) (sign ++ (List.replicate count '0' ++ digits))
  /-- A plus sign in front. -/
  | plus
      {digits : List Char}
      (numeral : isDigits digits = true) :
      Respelled digits ('+' :: digits)
  /-- The sign of zero. -/
  | minusZero : Respelled ['0'] ['-', '0']

theorem integer?_sign_append
    {sign digits : List Char}
    (signed : sign ∈ [[], ['+'], ['-']])
    (numeral : isDigits digits = true) :
    integer? (sign ++ digits) =
      some (if sign = ['-'] then -(decimalValue digits : Int) else decimalValue digits) := by
  simp only [List.mem_cons, List.not_mem_nil, or_false] at signed
  rcases signed with rfl | rfl | rfl
  · exact integer?_of_natural ⟨[], digits, rfl, .inl rfl, numeral, rfl⟩
  · exact integer?_of_natural ⟨['+'], digits, rfl, .inr rfl, numeral, rfl⟩
  · exact integer?_minus numeral

theorem Respelled.integer?_eq
    {text other : List Char}
    (respelled : Respelled text other) :
    integer? other = integer? text := by
  cases respelled with
  | zeros count signed numeral =>
      rw [integer?_sign_append signed numeral,
        integer?_sign_append signed (isDigits_replicate_append count numeral),
        decimalValue_zeros_append]
  | plus numeral =>
      have plain : integer? text = some (decimalValue text : Int) :=
        @integer?_sign_append [] text (by simp) numeral
      have signed : integer? ('+' :: text) = some (decimalValue text : Int) :=
        @integer?_sign_append ['+'] text (by simp) numeral
      rw [plain, signed]
  | minusZero => decide

end Text

/-! ## Comparisons -/

namespace Comparison

open Text

variable {comparison : Comparison} {operand value : String}

/-- A comparison holds of integers that fit and stand in its relation. -/
theorem holdsForIntegers_iff :
    comparison.holdsForIntegers operand value = true ↔
      ∃ left right, IsInteger32 operand.toList left ∧ IsInteger32 value.toList right ∧
        comparison.Relates left right := by
  simp only [← integer32?_eq_some_iff, holdsForIntegers]
  cases integer32? operand.toList with
  | none => simp
  | some left =>
      cases integer32? value.toList with
      | none => simp
      | some right => simp [holds_compare_iff]

/-- Integers that fit are compared by their order. -/
theorem holdsForIntegers_eq_holds
    {left right : Int}
    (isLeft : IsInteger32 operand.toList left)
    (isRight : IsInteger32 value.toList right) :
    comparison.holdsForIntegers operand value = comparison.holds (compare left right) := by
  rw [← integer32?_eq_some_iff] at isLeft isRight
  rw [holdsForIntegers, isLeft, isRight]

theorem holdsForIntegers_eq_mirrored :
    comparison.holdsForIntegers operand value =
      comparison.mirrored.holdsForIntegers value operand := by
  rw [holdsForIntegers, holdsForIntegers]
  cases integer32? operand.toList with
  | none => cases integer32? value.toList <;> rfl
  | some left =>
      cases integer32? value.toList with
      | none => rfl
      | some right =>
          change comparison.holds (compare left right) =
            comparison.mirrored.holds (compare right left)
          rw [holds_mirrored, Std.OrientedOrd.eq_swap]

/-- Only the integer that a text spells counts. -/
theorem holdsForIntegers_of_respelled
    {text other : String}
    (respelled : Respelled text.toList other.toList)
    (facing : String) :
    comparison.holdsForIntegers other facing = comparison.holdsForIntegers text facing ∧
      comparison.holdsForIntegers facing other = comparison.holdsForIntegers facing text := by
  have same : integer32? other.toList = integer32? text.toList := by
    rw [integer32?, integer32?, respelled.integer?_eq]
  exact ⟨by rw [holdsForIntegers, holdsForIntegers, same],
    by rw [holdsForIntegers, holdsForIntegers, same]⟩

/-- Integers that do not fit are not wrapped around. -/
theorem holdsForIntegers_of_too_large
    {text : String}
    {number : Int}
    (isInteger : IsInteger text.toList number)
    (tooLarge : number < -2147483648 ∨ 2147483647 < number)
    (facing : String) :
    comparison.holdsForIntegers text facing = false ∧
      comparison.holdsForIntegers facing text = false := by
  have unfit : ∀ fitting, ¬IsInteger32 text.toList fitting := by
    intro fitting fits
    have same := isInteger.unique fits.isInteger
    have := fits.least
    have := fits.greatest
    omega
  simp only [Bool.eq_false_iff, ne_eq, holdsForIntegers_iff]
  constructor
  · rintro ⟨left, right, isLeft, _⟩
    exact unfit left isLeft
  · rintro ⟨left, right, _, isRight, _⟩
    exact unfit right isRight

/-- The weak comparisons hold where a strict one or equality does. -/
theorem holdsForIntegers_weak (operand value : String) :
    atMost.holdsForIntegers operand value =
      (less.holdsForIntegers operand value || equal.holdsForIntegers operand value) ∧
    atLeast.holdsForIntegers operand value =
      (greater.holdsForIntegers operand value || equal.holdsForIntegers operand value) := by
  simp only [holdsForIntegers]
  cases integer32? operand.toList with
  | none => exact ⟨rfl, rfl⟩
  | some left =>
      cases integer32? value.toList with
      | none => exact ⟨rfl, rfl⟩
      | some right => exact ⟨holds_atMost_eq_less_or_equal _, holds_atLeast_eq_greater_or_equal _⟩

/-- A comparison holds of two texts exactly when both are integers of at most 32 bits and their
values stand in the relation, and the mirrored comparison holds of the texts exchanged.  Other
spellings of an integer compare alike, and integers that do not fit compare with nothing.  Of
equality and the two strict comparisons exactly one holds of integers that fit, and the weak
comparisons are their unions. -/
theorem compares_integers_exactly :
    (∀ (comparison : Comparison) (operand value : String),
      (comparison.holdsForIntegers operand value = true ↔
        ∃ left right, IsInteger32 operand.toList left ∧ IsInteger32 value.toList right ∧
          comparison.Relates left right) ∧
      comparison.holdsForIntegers operand value =
        comparison.mirrored.holdsForIntegers value operand) ∧
    (∀ text other : String, Respelled text.toList other.toList →
      ∀ (comparison : Comparison) (facing : String),
        comparison.holdsForIntegers other facing = comparison.holdsForIntegers text facing ∧
        comparison.holdsForIntegers facing other = comparison.holdsForIntegers facing text) ∧
    (∀ (text : String) (number : Int), IsInteger text.toList number →
      number < -2147483648 ∨ 2147483647 < number →
        ∀ (comparison : Comparison) (facing : String),
          comparison.holdsForIntegers text facing = false ∧
          comparison.holdsForIntegers facing text = false) ∧
    (∀ (operand value : String) (left right : Int),
      IsInteger32 operand.toList left → IsInteger32 value.toList right →
        ∃! comparison, comparison ∈ [less, equal, greater] ∧
          comparison.holdsForIntegers operand value = true) ∧
    (∀ operand value : String,
      atMost.holdsForIntegers operand value =
        (less.holdsForIntegers operand value || equal.holdsForIntegers operand value) ∧
      atLeast.holdsForIntegers operand value =
        (greater.holdsForIntegers operand value || equal.holdsForIntegers operand value)) := by
  refine ⟨fun comparison operand value => ⟨holdsForIntegers_iff, holdsForIntegers_eq_mirrored⟩,
    fun text other respelled comparison => holdsForIntegers_of_respelled respelled,
    fun text number isInteger tooLarge comparison =>
      holdsForIntegers_of_too_large isInteger tooLarge,
    fun operand value left right isLeft isRight => ?_, holdsForIntegers_weak⟩
  simp only [holdsForIntegers_eq_holds isLeft isRight]
  exact existsUnique_holds (compare left right)

/-- The least integer lies below zero with a minus sign, the one after the greatest compares with
nothing, and zeros in front do not count. -/
theorem compares_integers_exactly_at_bounds :
    less.holdsForIntegers "-2147483648" "-0" = true ∧
      atLeast.holdsForIntegers "2147483648" "-0" = false ∧
      equal.holdsForIntegers "-007" "-7" = true ∧
      ∃! comparison, comparison ∈ [less, equal, greater] ∧
        comparison.holdsForIntegers "2147483647" "+1" = true := by
  obtain ⟨exact32, respelled, tooLarge, single, _⟩ := compares_integers_exactly
  have read {text : String} {number : Int} (isRead : integer32? text.toList = some number) :
      IsInteger32 text.toList number :=
    integer32?_eq_some_iff.mp isRead
  refine ⟨?_, ?_, ?_, ?_⟩
  · exact (exact32 less "-2147483648" "-0").1.mpr
      ⟨-2147483648, 0, read (by decide +kernel), read (by decide +kernel),
        (by decide : (-2147483648 : Int) < 0)⟩
  · exact (tooLarge "2147483648" 2147483648 (integer?_eq_some_iff.mp (by decide +kernel))
      (.inr (by decide)) atLeast "-0").1
  · have zeros : Respelled "-7".toList "-007".toList :=
      @Respelled.zeros ['-'] ['7'] 2 (by decide) (by decide)
    rw [(respelled "-7" "-007" zeros equal "-7").1]
    exact (exact32 equal "-7" "-7").1.mpr
      ⟨-7, -7, read (by decide +kernel), read (by decide +kernel), rfl⟩
  · exact single "2147483647" "+1" 2147483647 1 (read (by decide +kernel))
      (read (by decide +kernel))

end Comparison
end ContentAccess
