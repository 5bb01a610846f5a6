import ContentAccess.Proofs.Rule.Comparison
import ContentAccess.Proofs.Rule.Header

/-!
# The grammar of metadata rules

A written metadata rule is a header, an access, an operand type, a negation mark,
the name of a property, a comparison and operands, one after another.  The
grammar says of each part what it may be, without saying how it is found.
Reading accepts exactly the texts of this grammar, and no text can be cut in two
ways.
-/

namespace ContentAccess

/-- A metadata rule cut into its written parts. -/
structure WrittenRule where
  /-- The digits of the version header, if there is one. -/
  version : Option (List Char)
  dialect : Dialect
  accessWord : List Char
  typeWord : List Char
  /-- There is a negation mark. -/
  negated : Bool
  property : List Char
  /-- The comparison as it is spelled. -/
  token : List Char
  /-- The operands with the commas between and after them. -/
  listed : List Char

namespace WrittenRule

/-- The property, the comparison and the operands. -/
def expression (written : WrittenRule) : List Char :=
  written.property ++ written.token ++ written.listed

/-- What follows the operand type. -/
def condition (written : WrittenRule) : List Char :=
  negationMark written.negated ++ written.expression

/-- What follows the access. -/
def afterAccess (written : WrittenRule) : List Char :=
  written.typeWord ++ written.dialect.typeSeparator :: written.condition

/-- The rule without its header. -/
def body (written : WrittenRule) : List Char :=
  written.accessWord ++ written.dialect.separator :: written.afterAccess

/-- The whole text. -/
def characters (written : WrittenRule) : List Char :=
  Dialect.headerText written.version ++ written.body

/-- The header and the words in front of the condition are what the grammar allows
at their places. -/
structure Worded (written : WrittenRule) : Prop where
  version : written.dialect.IsVersion written.version
  access : ∃ access : Access, Text.lowerCase written.accessWord = access.name.toList
  operandType : ∃ operandType : OperandType,
    Text.lowerCase written.typeWord = operandType.name.toList

/-- All parts are what the grammar allows at their places. -/
structure WellFormed (written : WrittenRule) : Prop extends Worded written where
  property_ne_nil : written.property ≠ []
  /-- A mark in front of the property would count as a negation mark. -/
  unmarked : written.negated = true ∨ written.property.head? ≠ some '!'
  token : ∃ comparison, (written.token, comparison) ∈ written.dialect.spellings
  /-- No comparison is spelled from inside the property on. -/
  earliest : ∀ place < written.property.length,
    ¬written.dialect.SpelledAt written.expression place
  longest : written.dialect.IsLongest written.token (written.token ++ written.listed)
  listed : ∃ character ∈ written.listed, character ≠ ','

/-- The parts mean this rule. -/
structure Denotes
    (written : WrittenRule)
    (anchorPath : String)
    (rule : MetadataRule) : Prop where
  access : Text.lowerCase written.accessWord = rule.access.name.toList
  negated : rule.negated = written.negated
  operandType : Text.lowerCase written.typeWord = rule.operandType.name.toList
  comparison : (written.token, rule.comparison) ∈ written.dialect.spellings
  property : rule.property.toList = written.property
  /-- The values are what the commas separate; commas at the end do not count. -/
  values : (∃ count, written.listed = Text.joined ',' (rule.values.map String.toList) ++
      List.replicate count ',') ∧
    (∀ value ∈ rule.values, ',' ∉ value.toList) ∧ rule.values.getLast? ≠ some ""
  anchorPath : rule.anchorPath = anchorPath

/-! ## What the stages of reading find -/

section Stages

variable {written : WrittenRule}

theorem Worded.separator_not_mem
    (worded : written.Worded) :
    written.dialect.separator ∉ written.accessWord := by
  obtain ⟨_, letters⟩ := worded.access
  exact Access.separator_not_mem_word letters written.dialect

theorem Worded.typeSeparator_not_mem
    (worded : written.Worded) :
    written.dialect.typeSeparator ∉ written.typeWord := by
  obtain ⟨_, letters⟩ := worded.operandType
  exact OperandType.typeSeparator_not_mem_word letters written.dialect

theorem Worded.recognize
    (worded : written.Worded)
    {encoded : String}
    (spelled : written.characters = encoded.toList) :
    Dialect.recognize encoded = .ok (written.dialect, written.body) := by
  obtain ⟨_, letters⟩ := worded.access
  exact Dialect.recognize_of_access worded.version letters spelled.symm

theorem Worded.splitFirst?_body
    (worded : written.Worded) :
    Text.splitFirst? written.dialect.separator written.body =
      some (written.accessWord, written.afterAccess) :=
  Text.splitFirst?_append worded.separator_not_mem written.afterAccess

theorem Worded.splitFirst?_afterAccess
    (worded : written.Worded) :
    Text.splitFirst? written.dialect.typeSeparator written.afterAccess =
      some (written.typeWord, written.condition) :=
  Text.splitFirst?_append worded.typeSeparator_not_mem written.condition

theorem WellFormed.takeNegation_condition
    (wellFormed : written.WellFormed) :
    takeNegation written.condition = (written.negated, written.expression) := by
  rw [takeNegation_eq_iff]
  refine ⟨rfl, wellFormed.unmarked.imp_right fun unmarked => ?_⟩
  obtain ⟨first, others, equal⟩ := List.exists_cons_of_ne_nil wellFormed.property_ne_nil
  rw [equal] at unmarked
  rw [expression, equal]
  exact unmarked

theorem WellFormed.splitComparison?_expression
    (wellFormed : written.WellFormed)
    {comparison : Comparison}
    (spells : (written.token, comparison) ∈ written.dialect.spellings) :
    written.dialect.splitComparison? written.expression =
      some (written.property, comparison, written.listed) :=
  Dialect.splitComparison?_eq_some_iff.mpr
    ⟨written.token, spells, rfl, wellFormed.earliest, wellFormed.longest⟩

/-! ## Unique parts -/

/-- A text has one header at most, and one access and one operand type. -/
theorem Worded.parts_eq
    {other : WrittenRule}
    (worded : written.Worded)
    (otherWorded : other.Worded)
    (equal : written.characters = other.characters) :
    written.version = other.version ∧ written.dialect = other.dialect ∧
      written.accessWord = other.accessWord ∧ written.typeWord = other.typeWord ∧
      written.condition = other.condition := by
  obtain ⟨_, letters⟩ := worded.access
  obtain ⟨_, otherLetters⟩ := otherWorded.access
  obtain ⟨versionEqual, dialectEqual, accessEqual, afterAccessEqual⟩ :=
    Dialect.opening_unique worded.version otherWorded.version letters otherLetters equal
  have typeCut := worded.splitFirst?_afterAccess
  rw [afterAccessEqual, dialectEqual, otherWorded.splitFirst?_afterAccess] at typeCut
  obtain ⟨typeEqual, conditionEqual⟩ := Prod.mk.inj (Option.some.inj typeCut)
  exact ⟨versionEqual, dialectEqual, accessEqual, typeEqual.symm, conditionEqual.symm⟩

/-- No text can be cut into the parts of a rule in two ways. -/
theorem WellFormed.eq_of_characters_eq
    {other : WrittenRule}
    (wellFormed : written.WellFormed)
    (otherWellFormed : other.WellFormed)
    (equal : written.characters = other.characters) :
    written = other := by
  obtain ⟨versionEqual, dialectEqual, accessEqual, typeEqual, conditionEqual⟩ :=
    wellFormed.parts_eq otherWellFormed.toWorded equal
  have negation := wellFormed.takeNegation_condition
  rw [conditionEqual, otherWellFormed.takeNegation_condition] at negation
  obtain ⟨negatedEqual, expressionEqual⟩ := Prod.mk.inj negation
  obtain ⟨comparison, spells⟩ := wellFormed.token
  obtain ⟨otherComparison, otherSpells⟩ := otherWellFormed.token
  have cut := wellFormed.splitComparison?_expression spells
  rw [← expressionEqual, dialectEqual,
    otherWellFormed.splitComparison?_expression otherSpells] at cut
  obtain ⟨propertyEqual, found⟩ := Prod.mk.inj (Option.some.inj cut)
  obtain ⟨_, listedEqual⟩ := Prod.mk.inj found
  have tokenEqual : other.token = written.token := by
    rw [expression, expression, propertyEqual, listedEqual, List.append_cancel_right_eq,
      List.append_cancel_left_eq] at expressionEqual
    exact expressionEqual
  cases written
  cases other
  simp_all

end Stages

end WrittenRule

namespace MetadataRule

/-- Reading accepts exactly the well-formed texts, and gives the rule that their
parts mean. -/
theorem read_eq_ok_iff_exists_written
    {encoded anchorPath : String}
    {rule : MetadataRule} :
    read encoded anchorPath = .ok rule ↔
      ∃ written : WrittenRule, written.WellFormed ∧ written.characters = encoded.toList ∧
        written.Denotes anchorPath rule := by
  rw [read_eq_ok_iff]
  constructor
  · rintro ⟨dialect, body, accessWord, rest, typeWord, condition, expression, property, listed,
      recognized, accessCut, accessRead, typeCut, typeRead, negation, cut, named, valued,
      propertyRead, valuesRead, anchored⟩
    obtain ⟨version, versioned, headed⟩ := Dialect.exists_version_of_recognize recognized
    obtain ⟨rfl, _⟩ := Text.splitFirst?_eq_some_iff.mp accessCut
    obtain ⟨rfl, _⟩ := Text.splitFirst?_eq_some_iff.mp typeCut
    obtain ⟨rfl, unmarked⟩ := takeNegation_eq_iff.mp negation
    obtain ⟨token, spells, rfl, earliest, longest⟩ :=
      Dialect.splitComparison?_eq_some_iff.mp cut
    have access := Access.read_eq_ok_iff.mp accessRead
    have operandType := OperandType.read_eq_ok_iff.mp typeRead
    refine ⟨⟨version, dialect, accessWord, typeWord, rule.negated, property, token, listed⟩,
      ?wellFormed, ?spelled, ?denotes⟩
    case wellFormed =>
      refine ⟨⟨versioned, ⟨_, access⟩, ⟨_, operandType⟩⟩, named, ?_, ⟨_, spells⟩, earliest,
        longest, operands_ne_nil_iff.mp valued⟩
      refine unmarked.imp_right fun unmarked marked => unmarked ?_
      rw [List.append_assoc, List.head?_append, marked]
      rfl
    case spelled => exact headed
    case denotes =>
      refine ⟨access, rfl, operandType, spells, ?_, operands_eq_iff.mp valuesRead.symm, anchored⟩
      rw [propertyRead, String.toList_ofList]
  · rintro ⟨written, wellFormed, spelled, denotes⟩
    refine ⟨written.dialect, written.body, written.accessWord, written.afterAccess,
      written.typeWord, written.condition, written.expression, written.property, written.listed,
      wellFormed.recognize spelled, wellFormed.splitFirst?_body,
      Access.read_eq_ok_iff.mpr denotes.access, wellFormed.splitFirst?_afterAccess,
      OperandType.read_eq_ok_iff.mpr denotes.operandType, ?_,
      wellFormed.splitComparison?_expression denotes.comparison, wellFormed.property_ne_nil,
      operands_ne_nil_iff.mpr wellFormed.listed, ?_, ?_, denotes.anchorPath⟩
    · rw [denotes.negated]
      exact wellFormed.takeNegation_condition
    · rw [← denotes.property, String.ofList_toList]
    · exact (operands_eq_iff.mpr denotes.values).symm

/-- The texts that are read are those of the grammar.  Each of them can be cut into
parts in one way only, and is read as the rule that these parts mean. -/
theorem reads_exactly_written_rules (encoded anchorPath : String) :
    (∀ rule, read encoded anchorPath = .ok rule ↔
      ∃ written : WrittenRule, written.WellFormed ∧ written.characters = encoded.toList ∧
        written.Denotes anchorPath rule) ∧
    ∀ first second : WrittenRule, first.WellFormed → second.WellFormed →
      first.characters = encoded.toList → second.characters = encoded.toList →
      first = second := by
  constructor
  · intro rule
    exact read_eq_ok_iff_exists_written
  · intro first second firstWellFormed secondWellFormed firstSpelled secondSpelled
    apply firstWellFormed.eq_of_characters_eq secondWellFormed
    rw [firstSpelled, secondSpelled]

end MetadataRule
end ContentAccess
