import ContentAccess.Proofs.Rule.Header
import ContentAccess.Proofs.Rule.LevelGrammar

/-!
# Rejected rules

A text that is no rule is rejected for the first of its parts that is wrong, whatever follows
that part.  The relations here say of each part what is wrong with it, and what was right before
it.  The readers give exactly these errors: one that quotes a word or a level quotes that alone,
and one about a missing part quotes the whole text.
-/

namespace ContentAccess

/-! ## The opening -/

/-- The text is in this dialect, and this is its body.  The header tells the dialect; without
one, the first separator does. -/
inductive Dialect.Recognized (encoded : String) : Dialect → List Char → Prop
  | headed
      {dialect : Dialect}
      {digits body : List Char}
      (spelled : encoded.toList = 'v' :: digits ++ ':' :: body)
      (numeral : Text.isDigits digits = true)
      (number : Text.decimalValue digits = dialect.version) :
      Recognized encoded dialect body
  | inferred
      {dialect : Dialect}
      {before after : List Char}
      (unheaded : ¬Headed encoded)
      (spelled : encoded.toList = before ++ dialect.separator :: after)
      (noHash : '#' ∉ before)
      (noUnderscore : '_' ∉ before) :
      Recognized encoded dialect encoded.toList

/-- The body of the text begins with this access and a separator, and this follows. -/
def Opens
    (encoded : String)
    (dialect : Dialect)
    (access : Access)
    (rest : List Char) : Prop :=
  ∃ word, dialect.Recognized encoded (word ++ dialect.separator :: rest) ∧
    Text.lowerCase word = access.name.toList

/-- What is wrong up to the access. -/
inductive OpeningRejected (encoded : String) : AccessError → Prop
  | header
      {digits body : List Char}
      (spelled : encoded.toList = 'v' :: digits ++ ':' :: body)
      (numeral : Text.isDigits digits = true)
      (unknown : ∀ dialect : Dialect, Text.decimalValue digits ≠ dialect.version) :
      OpeningRejected encoded (.unsupportedDialect (String.ofList ('v' :: digits)))
  | undecided
      (unheaded : ¬Dialect.Headed encoded)
      (noHash : '#' ∉ encoded.toList)
      (noUnderscore : '_' ∉ encoded.toList) :
      OpeningRejected encoded (.malformedRule encoded .accessSeparator)
  | separator
      {dialect : Dialect}
      {digits body : List Char}
      (spelled : encoded.toList = 'v' :: digits ++ ':' :: body)
      (numeral : Text.isDigits digits = true)
      (number : Text.decimalValue digits = dialect.version)
      (absent : dialect.separator ∉ body) :
      OpeningRejected encoded (.malformedRule encoded .accessSeparator)
  | access
      {dialect : Dialect}
      {word rest : List Char}
      (recognized : dialect.Recognized encoded (word ++ dialect.separator :: rest))
      (first : dialect.separator ∉ word)
      (unknown : ∀ access : Access, Text.lowerCase word ≠ access.name.toList) :
      OpeningRejected encoded (.unknownAccess (String.ofList word))

section Opening

variable {encoded : String} {error : AccessError}

theorem Dialect.recognize_eq_ok_iff_recognized
    {dialect : Dialect}
    {body : List Char} :
    recognize encoded = .ok (dialect, body) ↔ dialect.Recognized encoded body := by
  simp only [recognize_eq_ok_iff, header?_eq_some_iff, header?_eq_none_iff, infer?_eq_some_iff]
  constructor
  · rintro (⟨digits, ⟨spelled, numeral⟩, number⟩ | ⟨unheaded, inferred, rfl⟩)
    · exact .headed spelled numeral number
    · obtain ⟨before, after, spelled, noHash, noUnderscore⟩ := inferred
      exact .inferred unheaded spelled noHash noUnderscore
  · intro recognized
    cases recognized with
    | headed spelled numeral number => exact .inl ⟨_, ⟨spelled, numeral⟩, number⟩
    | inferred unheaded spelled noHash noUnderscore =>
        exact .inr ⟨unheaded, ⟨_, _, spelled, noHash, noUnderscore⟩, rfl⟩

theorem opens_iff
    {dialect : Dialect}
    {access : Access}
    {rest : List Char} :
    Opens encoded dialect access rest ↔
      ∃ body, Dialect.recognize encoded = .ok (dialect, body) ∧
        readAccess dialect encoded body = .ok (access, rest) := by
  simp only [Dialect.recognize_eq_ok_iff_recognized, readAccess_eq_ok_iff,
    Text.splitFirst?_eq_some_iff, Access.read_eq_ok_iff]
  constructor
  · rintro ⟨word, recognized, letters⟩
    have first := Access.separator_not_mem_word letters dialect
    exact ⟨_, recognized, word, ⟨rfl, first⟩, letters⟩
  · rintro ⟨_, recognized, word, ⟨rfl, _⟩, letters⟩
    exact ⟨word, recognized, letters⟩

theorem openingRejected_iff :
    OpeningRejected encoded error ↔
      Dialect.recognize encoded = .error error ∨
        ∃ dialect body, Dialect.recognize encoded = .ok (dialect, body) ∧
          readAccess dialect encoded body = .error error := by
  simp only [Dialect.recognize_eq_error_iff, Dialect.recognize_eq_ok_iff_recognized,
    Dialect.header?_eq_some_iff, Dialect.header?_eq_none_iff, Dialect.infer?_eq_none_iff,
    readAccess_eq_error_iff, Text.splitFirst?_eq_none_iff, Text.splitFirst?_eq_some_iff,
    Access.read_eq_error_iff]
  constructor
  · intro rejected
    cases rejected with
    | header spelled numeral unknown =>
        exact .inl (.inl ⟨_, _, ⟨spelled, numeral⟩, unknown, rfl⟩)
    | undecided unheaded noHash noUnderscore =>
        exact .inl (.inr ⟨unheaded, ⟨noHash, noUnderscore⟩, rfl⟩)
    | separator spelled numeral number absent =>
        exact .inr ⟨_, _, .headed spelled numeral number, .inl ⟨absent, rfl⟩⟩
    | access recognized first unknown =>
        exact .inr ⟨_, _, recognized, .inr ⟨_, _, ⟨rfl, first⟩, unknown, rfl⟩⟩
  · rintro (unrecognized | ⟨dialect, body, recognized, unopened⟩)
    · rcases unrecognized with ⟨digits, body, ⟨spelled, numeral⟩, unknown, rfl⟩ | ⟨unheaded,
        ⟨noHash, noUnderscore⟩, rfl⟩
      · exact .header spelled numeral unknown
      · exact .undecided unheaded noHash noUnderscore
    · rcases unopened with ⟨absent, rfl⟩ | ⟨word, rest, ⟨rfl, first⟩, unknown, rfl⟩
      · cases recognized with
        | headed spelled numeral number => exact .separator spelled numeral number absent
        | inferred unheaded spelled noHash noUnderscore =>
            -- Without a header the dialect was told by the separator itself.
            simp [spelled] at absent
      · exact .access recognized first unknown

/-- What begins with recognizing the dialect and taking the access off fails there or after. -/
theorem opening_fails_iff
    {Later : Dialect → Access → List Char → Prop} :
    (Dialect.recognize encoded = .error error ∨
      ∃ dialect body, Dialect.recognize encoded = .ok (dialect, body) ∧
        (readAccess dialect encoded body = .error error ∨
          ∃ access rest, readAccess dialect encoded body = .ok (access, rest) ∧
            Later dialect access rest)) ↔
      OpeningRejected encoded error ∨
        ∃ dialect access rest, Opens encoded dialect access rest ∧ Later dialect access rest := by
  simp only [openingRejected_iff, opens_iff]
  constructor
  · rintro (unrecognized | ⟨dialect, body, recognized, unopened | ⟨access, rest, opened, later⟩⟩)
    · exact .inl (.inl unrecognized)
    · exact .inl (.inr ⟨dialect, body, recognized, unopened⟩)
    · exact .inr ⟨dialect, access, rest, ⟨body, recognized, opened⟩, later⟩
  · rintro ((unrecognized | ⟨dialect, body, recognized, unopened⟩) |
      ⟨dialect, access, rest, ⟨body, recognized, opened⟩, later⟩)
    · exact .inl unrecognized
    · exact .inr ⟨dialect, body, recognized, .inl unopened⟩
    · exact .inr ⟨dialect, body, recognized, .inr ⟨access, rest, opened, later⟩⟩

end Opening

/-! ## Metadata rules -/

namespace MetadataRule

/-- The text has an access and an operand type, and this follows after a negation mark or none. -/
def Reaches
    (encoded : String)
    (dialect : Dialect)
    (expression : List Char) : Prop :=
  ∃ access word negated, Opens encoded dialect access
      (word ++ dialect.typeSeparator :: (negationMark negated ++ expression)) ∧
    (∃ operandType : OperandType, Text.lowerCase word = operandType.name.toList) ∧
    (negated = true ∨ expression.head? ≠ some '!')

/-- This is the first part that an expression lacks. -/
inductive Lacks
    (dialect : Dialect)
    (expression : List Char) : RuleDefect → Prop
  | operator
      (unspelled : ∀ place, ¬dialect.SpelledAt expression place) :
      Lacks dialect expression .operator
  | propertyName
      (atFront : dialect.SpelledAt expression 0) :
      Lacks dialect expression .propertyName
  | values
      {property listed : List Char}
      {comparison : Comparison}
      (cut : dialect.IsCut expression property comparison listed)
      (named : property ≠ [])
      (commas : ∀ character ∈ listed, character = ',') :
      Lacks dialect expression .values

/-- What is wrong with a metadata rule, as the error tells it. -/
inductive Rejected (encoded : String) : AccessError → Prop
  | opening
      {error : AccessError}
      (rejected : OpeningRejected encoded error) :
      Rejected encoded error
  | typeSeparator
      {dialect : Dialect}
      {access : Access}
      {rest : List Char}
      (opens : Opens encoded dialect access rest)
      (absent : dialect.typeSeparator ∉ rest) :
      Rejected encoded (.malformedRule encoded .typeSeparator)
  | operandType
      {dialect : Dialect}
      {access : Access}
      {word condition : List Char}
      (opens : Opens encoded dialect access (word ++ dialect.typeSeparator :: condition))
      (first : dialect.typeSeparator ∉ word)
      (unknown : ∀ operandType : OperandType, Text.lowerCase word ≠ operandType.name.toList) :
      Rejected encoded (.unknownOperandType (String.ofList word))
  | expression
      {dialect : Dialect}
      {expression : List Char}
      {defect : RuleDefect}
      (reaches : Reaches encoded dialect expression)
      (lacks : Lacks dialect expression defect) :
      Rejected encoded (.malformedRule encoded defect)

section Rejection

variable {encoded anchorPath : String} {dialect : Dialect} {expression : List Char}
  {error : AccessError}

theorem reaches_iff :
    Reaches encoded dialect expression ↔
      ∃ access rest word condition operandType negated, Opens encoded dialect access rest ∧
        Text.splitFirst? dialect.typeSeparator rest = some (word, condition) ∧
        OperandType.read (String.ofList word) = .ok operandType ∧
        takeNegation condition = (negated, expression) := by
  simp only [Text.splitFirst?_eq_some_iff, OperandType.read_eq_ok_iff, takeNegation_eq_iff]
  constructor
  · rintro ⟨access, word, negated, opens, ⟨operandType, letters⟩, unmarked⟩
    have first := OperandType.typeSeparator_not_mem_word letters dialect
    exact ⟨access, _, word, _, operandType, negated, opens, ⟨rfl, first⟩, letters, rfl, unmarked⟩
  · rintro ⟨access, _, word, _, operandType, negated, opens, ⟨rfl, _⟩, letters, rfl, unmarked⟩
    exact ⟨access, word, negated, opens, ⟨operandType, letters⟩, unmarked⟩

/-- The reader fails only where a part is wrong, and with the error of that part. -/
theorem rejected_of_read_eq_error
    (failed : read encoded anchorPath = .error error) :
    Rejected encoded error := by
  unfold read at failed
  simp only [bind_eq_error_iff, Prod.exists, opening_fails_iff] at failed
  rcases failed with unopened | ⟨dialect, access, rest, opens, failed⟩
  · exact .opening unopened
  cases typeCut : Text.splitFirst? dialect.typeSeparator rest with
  | none =>
      simp only [typeCut, throw_eq_error_iff] at failed
      subst failed
      exact .typeSeparator opens (Text.splitFirst?_eq_none_iff.mp typeCut)
  | some parts =>
      obtain ⟨word, condition⟩ := parts
      simp only [typeCut, bind_eq_error_iff] at failed
      rcases failed with untyped | ⟨operandType, typed, failed⟩
      · obtain ⟨rfl, first⟩ := Text.splitFirst?_eq_some_iff.mp typeCut
        obtain ⟨unknown, rfl⟩ := OperandType.read_eq_error_iff.mp untyped
        exact .operandType opens first unknown
      have reaches : Reaches encoded dialect (takeNegation condition).2 :=
        reaches_iff.mpr ⟨access, rest, word, condition, operandType, _, opens, typeCut, typed, rfl⟩
      cases cut : dialect.splitComparison? (takeNegation condition).2 with
      | none =>
          simp only [cut, throw_eq_error_iff] at failed
          subst failed
          exact .expression reaches (.operator (Dialect.splitComparison?_eq_none_iff.mp cut))
      | some found =>
          obtain ⟨property, comparison, listed⟩ := found
          by_cases unnamed : property = []
          · simp only [cut, unnamed, List.isEmpty_nil, if_true, throw_bind_eq_error_iff] at failed
            subst failed
            rw [unnamed] at cut
            refine .expression reaches (.propertyName ?_)
            exact Dialect.spelledAt_zero_iff.mpr ⟨comparison, listed, cut⟩
          · by_cases unvalued : operands listed = []
            · simp only [cut, List.isEmpty_iff, unnamed, unvalued, if_true, if_false,
                throw_bind_eq_error_iff] at failed
              subst failed
              have isCut := Dialect.splitComparison?_eq_some_iff.mp cut
              have commas := operands_eq_nil_iff.mp unvalued
              exact .expression reaches (.values isCut unnamed commas)
            · simp only [cut, List.isEmpty_iff, unnamed, unvalued, if_false, pure_ne_error]
                at failed

/-- A part that is wrong after parts that are right makes the reader fail with its error. -/
theorem Rejected.read_eq_error
    (rejected : Rejected encoded error)
    (anchorPath : String) :
    read encoded anchorPath = .error error := by
  unfold read
  simp only [bind_eq_error_iff, Prod.exists, opening_fails_iff]
  cases rejected with
  | opening rejected => exact .inl rejected
  | typeSeparator opens absent =>
      refine .inr ⟨_, _, _, opens, ?_⟩
      rw [Text.splitFirst?_eq_none_iff.mpr absent]
      rfl
  | operandType opens first unknown =>
      refine .inr ⟨_, _, _, opens, ?_⟩
      simp only [Text.splitFirst?_append first, bind_eq_error_iff]
      exact .inl (OperandType.read_eq_error_iff.mpr ⟨unknown, rfl⟩)
  | expression reaches lacks =>
      obtain ⟨access, rest, word, condition, operandType, negated, opens, typeCut, typed,
        negation⟩ := reaches_iff.mp reaches
      refine .inr ⟨_, _, _, opens, ?_⟩
      simp only [typeCut, bind_eq_error_iff]
      refine .inr ⟨operandType, typed, ?_⟩
      rw [negation]
      cases lacks with
      | operator unspelled =>
          rw [Dialect.splitComparison?_eq_none_iff.mpr unspelled]
          rfl
      | propertyName atFront =>
          obtain ⟨comparison, listed, cut⟩ := Dialect.spelledAt_zero_iff.mp atFront
          rw [cut]
          rfl
      | values cut named commas =>
          simp only [Dialect.splitComparison?_eq_some_iff.mpr cut, List.isEmpty_iff, named,
            operands_eq_nil_iff.mpr commas, if_true, if_false]
          rfl

end Rejection

end MetadataRule

/-! ## Level rules -/

namespace LevelRule

/-- The text has an access, and this follows after a negation mark or none. -/
def Reaches
    (encoded : String)
    (dialect : Dialect)
    (condition : List Char) : Prop :=
  ∃ access negated, Opens encoded dialect access (negationMark negated ++ condition) ∧
    (negated = true ∨ condition.head? ≠ some '!')

/-- What is wrong with a level rule, as the error tells it. -/
inductive Rejected (encoded : String) : AccessError → Prop
  | opening
      {error : AccessError}
      (rejected : OpeningRejected encoded error) :
      Rejected encoded error
  | operator
      {dialect : Dialect}
      {condition : List Char}
      (reaches : Reaches encoded dialect condition)
      (unspelled : ∀ entry ∈ dialect.levelSpellings, ¬entry.1 <+: condition) :
      Rejected encoded (.malformedRule encoded .operator)
  | level
      {dialect : Dialect}
      {condition token written : List Char}
      {comparison : Comparison}
      (reaches : Reaches encoded dialect condition)
      (opens : dialect.OpensWith condition token comparison written)
      (unfit : ¬∃ value ≤ 4294967295, Text.IsPaddedNatural written value) :
      Rejected encoded (.invalidLevel (String.ofList written))

section Rejection

variable {encoded anchorPath : String} {dialect : Dialect} {condition : List Char}
  {error : AccessError}

theorem reaches_iff :
    Reaches encoded dialect condition ↔
      ∃ access rest negated, Opens encoded dialect access rest ∧
        takeNegation rest = (negated, condition) := by
  simp only [takeNegation_eq_iff]
  constructor
  · rintro ⟨access, negated, opens, unmarked⟩
    exact ⟨access, _, negated, opens, rfl, unmarked⟩
  · rintro ⟨access, _, negated, opens, rfl, unmarked⟩
    exact ⟨access, negated, opens, unmarked⟩

/-- The reader fails only where a part is wrong, and with the error of that part. -/
theorem rejected_of_read_eq_error
    (failed : read encoded anchorPath = .error error) :
    Rejected encoded error := by
  unfold read at failed
  simp only [bind_eq_error_iff, Prod.exists, opening_fails_iff] at failed
  rcases failed with unopened | ⟨dialect, access, rest, opens, failed⟩
  · exact .opening unopened
  have reaches : Reaches encoded dialect (takeNegation rest).2 :=
    reaches_iff.mpr ⟨access, rest, _, opens, rfl⟩
  cases leading : dialect.leadingComparison? (expression dialect (takeNegation rest).2) with
  | none =>
      simp only [leading, throw_eq_error_iff] at failed
      subst failed
      exact .operator reaches (Dialect.leadingComparison?_expression_eq_none_iff.mp leading)
  | some found =>
      obtain ⟨comparison, written⟩ := found
      obtain ⟨token, opensWith⟩ := Dialect.leadingComparison?_expression_eq_some_iff.mp leading
      cases numeral : Text.word32? (Text.trimmed written) with
      | none =>
          simp only [leading, numeral, throw_eq_error_iff] at failed
          subst failed
          exact .level reaches opensWith (Text.word32?_trimmed_eq_none_iff.mp numeral)
      | some level => simp only [leading, numeral, pure_ne_error] at failed

/-- A part that is wrong after parts that are right makes the reader fail with its error. -/
theorem Rejected.read_eq_error
    (rejected : Rejected encoded error)
    (anchorPath : String) :
    read encoded anchorPath = .error error := by
  unfold read
  simp only [bind_eq_error_iff, Prod.exists, opening_fails_iff]
  cases rejected with
  | opening rejected => exact .inl rejected
  | operator reaches unspelled =>
      obtain ⟨access, rest, negated, opens, negation⟩ := reaches_iff.mp reaches
      refine .inr ⟨_, _, _, opens, ?_⟩
      rw [negation]
      simp only [Dialect.leadingComparison?_expression_eq_none_iff.mpr unspelled]
      rfl
  | level reaches opensWith unfit =>
      obtain ⟨access, rest, negated, opens, negation⟩ := reaches_iff.mp reaches
      refine .inr ⟨_, _, _, opens, ?_⟩
      rw [negation]
      simp only [Dialect.leadingComparison?_expression_eq_some_iff.mpr ⟨_, opensWith⟩,
        Text.word32?_trimmed_eq_none_iff.mpr unfit]
      rfl

end Rejection

end LevelRule

/-! ## Both readers -/

/-- An error about a missing part quotes the whole text. -/
theorem OpeningRejected.quotes
    {encoded quoted : String}
    {defect : RuleDefect}
    (rejected : OpeningRejected encoded (.malformedRule quoted defect)) :
    quoted = encoded := by
  cases rejected <;> rfl

/-- A text is rejected with exactly the error of its first part that is wrong, and errors about a
missing part quote the whole text. -/
theorem reading_reports_first_failure (encoded anchorPath : String) :
    (∀ error, MetadataRule.read encoded anchorPath = .error error ↔
      MetadataRule.Rejected encoded error) ∧
    (∀ error, LevelRule.read encoded anchorPath = .error error ↔
      LevelRule.Rejected encoded error) ∧
    ∀ quoted defect, MetadataRule.read encoded anchorPath = .error (.malformedRule quoted defect) ∨
      LevelRule.read encoded anchorPath = .error (.malformedRule quoted defect) →
        quoted = encoded := by
  refine ⟨fun error => ?_, fun error => ?_, ?_⟩
  · exact ⟨MetadataRule.rejected_of_read_eq_error, fun rejected => rejected.read_eq_error anchorPath⟩
  · exact ⟨LevelRule.rejected_of_read_eq_error, fun rejected => rejected.read_eq_error anchorPath⟩
  · rintro quoted defect (failed | failed)
    · cases MetadataRule.rejected_of_read_eq_error failed with
      | opening rejected => exact rejected.quotes
      | typeSeparator => rfl
      | expression => rfl
    · cases LevelRule.rejected_of_read_eq_error failed with
      | opening rejected => exact rejected.quotes
      | operator => rfl

end ContentAccess
