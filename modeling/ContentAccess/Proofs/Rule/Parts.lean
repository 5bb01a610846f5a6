import ContentAccess.Proofs.Text.Split
import ContentAccess.Rule.Reader
import ContentAccess.Rule.Writer

/-!
# Reading the parts of a rule

The words for access and operand type are known by their letters alone, whatever
the case.  A negation mark is one exclamation mark at the front.  Operands are
what commas separate, and commas at the end do not count.
-/

namespace ContentAccess

/-! ## Words -/

namespace Text

/-- A character that no change of case produces is in no text of these letters. -/
theorem not_mem_of_lowerCase_eq
    {text letters : List Char}
    (equal : lowerCase text = letters)
    {character : Char}
    (absent : character.toLower ∉ letters) :
    character ∉ text := by
  intro member
  apply absent
  rw [← equal]
  exact List.mem_map_of_mem member

/-- A search by letters finds the candidate whose name the word spells, when all
names are in lower case and no two candidates share one. -/
theorem find?_sameLetters_eq_some_iff
    {name : α → String}
    (lower : ∀ candidate, lowerCase (name candidate).toList = (name candidate).toList)
    (injective : ∀ first second, name first = name second → first = second)
    (candidates : List α)
    (word : List Char)
    (found : α) :
    (candidates.find? fun candidate => sameLetters (name candidate) (String.ofList word)) =
        some found ↔
      found ∈ candidates ∧ lowerCase word = (name found).toList := by
  have spells (candidate : α) :
      sameLetters (name candidate) (String.ofList word) = true ↔
        lowerCase word = (name candidate).toList := by
    rw [sameLetters, String.toList_ofList, beq_iff_eq, lower]
    exact eq_comm
  have found_spells {candidate : α}
      (search : (candidates.find? fun candidate =>
        sameLetters (name candidate) (String.ofList word)) = some candidate) :
      lowerCase word = (name candidate).toList := by
    apply (spells candidate).mp
    simpa using List.find?_some search
  constructor
  · intro search
    exact ⟨List.mem_of_find?_eq_some search, found_spells search⟩
  · rintro ⟨member, equal⟩
    cases search : candidates.find? fun candidate =>
        sameLetters (name candidate) (String.ofList word) with
    | none =>
        have missed := List.find?_eq_none.mp search found member
        exact absurd ((spells found).mpr equal) missed
    | some other =>
        have otherEqual := found_spells search
        rw [equal] at otherEqual
        rw [injective other found (String.toList_inj.mp otherEqual.symm)]

end Text

namespace Access

@[simp] theorem lowerCase_name (access : Access) :
    Text.lowerCase access.name.toList = access.name.toList := by
  cases access <;> decide

theorem name_injective (first second : Access) (equal : first.name = second.name) :
    first = second := by
  cases first <;> cases second <;> revert equal <;> decide

/-- A word is read as an access exactly when its letters are those of the name. -/
theorem read_eq_ok_iff
    {word : List Char}
    {access : Access} :
    read (String.ofList word) = .ok access ↔
      Text.lowerCase word = access.name.toList := by
  have search := Text.find?_sameLetters_eq_some_iff lowerCase_name name_injective
    [allow, deny] word access
  have listed : access ∈ [allow, deny] := by cases access <;> simp
  rw [and_iff_right listed] at search
  rw [← search, read]
  generalize List.find? _ [allow, deny] = result
  cases result <;> simp

/-- A word that is no access is named in the error. -/
theorem read_eq_error_iff
    {word : List Char}
    {error : AccessError} :
    read (String.ofList word) = .error error ↔
      (∀ access : Access, Text.lowerCase word ≠ access.name.toList) ∧
        .unknownAccess (String.ofList word) = error := by
  simp only [ne_eq, ← read_eq_ok_iff]
  unfold read
  split <;> simp

section Word

variable {word : List Char} {access : Access}

/-- The name of an access holds neither separator, and no letter of a header. -/
theorem not_mem_word
    (letters : Text.lowerCase word = access.name.toList)
    {character : Char}
    (special : character = '#' ∨ character = '_' ∨ character = 'v') :
    character ∉ word := by
  apply Text.not_mem_of_lowerCase_eq letters
  rcases special with rfl | rfl | rfl <;> cases access <;> decide

theorem separator_not_mem_word
    (letters : Text.lowerCase word = access.name.toList)
    (dialect : Dialect) :
    dialect.separator ∉ word := by
  apply not_mem_word letters
  cases dialect <;> simp [Dialect.separator]

theorem word_ne_nil
    (letters : Text.lowerCase word = access.name.toList) :
    word ≠ [] := by
  rintro rfl
  cases access <;> revert letters <;> decide

end Word

end Access

namespace OperandType

@[simp] theorem lowerCase_name (operandType : OperandType) :
    Text.lowerCase operandType.name.toList = operandType.name.toList := by
  cases operandType <;> decide

theorem name_injective (first second : OperandType) (equal : first.name = second.name) :
    first = second := by
  cases first <;> cases second <;> revert equal <;> decide

/-- A word is read as an operand type exactly when its letters are those of the
name. -/
theorem read_eq_ok_iff
    {word : List Char}
    {operandType : OperandType} :
    read (String.ofList word) = .ok operandType ↔
      Text.lowerCase word = operandType.name.toList := by
  have search := Text.find?_sameLetters_eq_some_iff lowerCase_name name_injective
    [text, integer, date] word operandType
  have listed : operandType ∈ [text, integer, date] := by cases operandType <;> simp
  rw [and_iff_right listed] at search
  rw [← search, read]
  generalize List.find? _ [text, integer, date] = result
  cases result <;> simp

theorem typeSeparator_not_mem_word
    {word : List Char}
    {operandType : OperandType}
    (letters : Text.lowerCase word = operandType.name.toList)
    (dialect : Dialect) :
    dialect.typeSeparator ∉ word := by
  apply Text.not_mem_of_lowerCase_eq letters
  cases dialect <;> cases operandType <;> decide

/-- A word that is no operand type is named in the error. -/
theorem read_eq_error_iff
    {word : List Char}
    {error : AccessError} :
    read (String.ofList word) = .error error ↔
      (∀ operandType : OperandType, Text.lowerCase word ≠ operandType.name.toList) ∧
        .unknownOperandType (String.ofList word) = error := by
  simp only [ne_eq, ← read_eq_ok_iff]
  unfold read
  split <;> simp

end OperandType

/-! ## The negation mark -/

/-- Exactly one negation mark is taken off the front. -/
theorem takeNegation_eq_iff
    {text rest : List Char}
    {negated : Bool} :
    takeNegation text = (negated, rest) ↔
      text = negationMark negated ++ rest ∧ (negated = true ∨ rest.head? ≠ some '!') := by
  unfold takeNegation
  split
  · rename_i following
    cases negated with
    | true => simp [negationMark]
    | false =>
        simp only [Prod.mk.injEq, Bool.true_eq_false, false_and, negationMark]
        simp only [Bool.false_eq_true, if_false, List.nil_append, false_or, false_iff, not_and]
        rintro rfl
        simp
  · rename_i unmarked
    cases negated with
    | true =>
        simp only [Prod.mk.injEq, Bool.false_eq_true, false_and, negationMark, if_true,
          List.cons_append, List.nil_append, true_or, and_true, false_iff]
        exact unmarked rest
    | false =>
        simp only [Prod.mk.injEq, true_and, negationMark, Bool.false_eq_true, if_false,
          List.nil_append, false_or]
        constructor
        · rintro rfl
          refine ⟨rfl, fun marked => ?_⟩
          obtain ⟨following, equal⟩ := List.head?_eq_some_iff.mp marked
          exact unmarked following equal
        · rintro ⟨equal, _⟩
          exact equal

/-! ## Operands -/

/-- Reading operands gives the only values without a comma, the last of them not
empty, that together with some commas at the end are the text. -/
theorem operands_eq_iff
    {text : List Char}
    {values : List String} :
    operands text = values ↔
      (∃ count, text = Text.joined ',' (values.map String.toList) ++
          List.replicate count ',') ∧
        (∀ value ∈ values, ',' ∉ value.toList) ∧ values.getLast? ≠ some "" := by
  have asTexts : operands text = values ↔
      Text.dropEnding List.isEmpty (Text.pieces ',' text) = values.map String.toList := by
    constructor
    · rintro rfl
      simp [operands, Function.comp_def]
    · intro equal
      simp [operands, equal, Function.comp_def]
  rw [asTexts, Text.dropEnding_pieces_eq_iff]
  simp [List.getLast?_map]

/-- A list of operands is read back exactly when no comma stands in a value and
the last value is not empty. -/
theorem operands_joined_iff (values : List String) :
    operands (Text.joined ',' (values.map String.toList)) = values ↔
      (∀ value ∈ values, ',' ∉ value.toList) ∧ values.getLast? ≠ some "" := by
  rw [operands_eq_iff, and_iff_right]
  exact ⟨0, by simp⟩

/-- There are no operands exactly when there are only commas. -/
theorem operands_eq_nil_iff {text : List Char} :
    operands text = [] ↔ ∀ character ∈ text, character = ',' := by
  rw [operands_eq_iff]
  constructor
  · rintro ⟨⟨count, rfl⟩, _⟩ character member
    exact List.eq_of_mem_replicate (by simpa [Text.joined] using member)
  · intro commas
    exact ⟨⟨text.length, by simpa [Text.joined] using List.eq_replicate_iff.mpr ⟨rfl, commas⟩⟩,
      by simp, by simp⟩

/-- There is an operand exactly when there is more than commas. -/
theorem operands_ne_nil_iff {text : List Char} :
    operands text ≠ [] ↔ ∃ character ∈ text, character ≠ ',' := by
  rw [ne_eq, operands_eq_nil_iff]
  simp

/-- Operands that are read back are more than commas exactly when there are any. -/
theorem exists_ne_comma_joined_iff
    {values : List String}
    (readable : (∀ value ∈ values, ',' ∉ value.toList) ∧ values.getLast? ≠ some "") :
    (∃ character ∈ Text.joined ',' (values.map String.toList), character ≠ ',') ↔
      values ≠ [] := by
  rw [← operands_ne_nil_iff, (operands_joined_iff values).mpr readable]

end ContentAccess
