import ContentAccess.Proofs.Rule.Grammar
import ContentAccess.Proofs.Rule.Overlap
import ContentAccess.Rule.Writer
import Mathlib.Tactic.MkIffOfInductiveProp

/-!
# Reading what was written

A written rule is read back as itself exactly when the parts it was written in
are well formed.  What this asks of the rule is the same in both dialects, except
for the operator characters and words that a property may hold.
-/

namespace ContentAccess
namespace MetadataRule

/-! ## The parts a rule is written in -/

/-- The parts of a rule written with this header. -/
def written
    (dialect : Dialect)
    (version : Option (List Char))
    (rule : MetadataRule) : WrittenRule where
  version := version
  dialect := dialect
  accessWord := rule.access.name.toList
  typeWord := rule.operandType.name.toList
  negated := rule.negated
  property := rule.property.toList
  token := (dialect.token rule.comparison).toList
  listed := Text.joined ',' (rule.values.map String.toList)

variable {dialect : Dialect} {version : Option (List Char)} {rule : MetadataRule}
  {encoded : String}

theorem characters_written :
    (rule.written dialect version).characters =
      Dialect.headerText version ++ rule.characters dialect := by
  simp [written, WrittenRule.characters, WrittenRule.body, WrittenRule.afterAccess,
    WrittenRule.condition, WrittenRule.expression, characters]

theorem worded_written
    (versioned : dialect.IsVersion version) :
    (rule.written dialect version).Worded where
  version := versioned
  access := ⟨rule.access, rule.access.lowerCase_name⟩
  operandType := ⟨rule.operandType, rule.operandType.lowerCase_name⟩

/-- Parts that mean the rule and give its text are those it was written in. -/
theorem eq_written_of_denotes
    {parts : WrittenRule}
    (versioned : dialect.IsVersion version)
    (wellFormed : parts.WellFormed)
    (denotes : parts.Denotes rule.anchorPath rule)
    (equal : parts.characters = (rule.written dialect version).characters) :
    parts = rule.written dialect version := by
  obtain ⟨versionEqual, dialectEqual, accessEqual, typeEqual, conditionEqual⟩ :=
    wellFormed.parts_eq (worded_written versioned) equal
  obtain ⟨⟨count, listedEqual⟩, _⟩ := denotes.values
  have negatedEqual : parts.negated = rule.negated := denotes.negated.symm
  have propertyEqual : parts.property = rule.property.toList := denotes.property.symm
  have following : parts.token ++ parts.listed =
      (dialect.token rule.comparison).toList ++
        Text.joined ',' (rule.values.map String.toList) := by
    simpa [WrittenRule.condition, WrittenRule.expression, written, negatedEqual,
      propertyEqual] using conditionEqual
  -- The token that was written stands in front, and the one that was found is longest.
  have tokenListed : ((dialect.token rule.comparison).toList, rule.comparison) ∈
      parts.dialect.spellings := by
    rw [dialectEqual]
    exact dialect.token_mem_spellings rule.comparison
  have noLonger : (dialect.token rule.comparison).toList.length ≤ parts.token.length := by
    apply wellFormed.longest _ tokenListed
    rw [following]
    exact List.prefix_append _ _
  have lengths := congrArg List.length following
  rw [listedEqual, List.length_append, List.length_append, List.length_append,
    List.length_replicate] at lengths
  have noCommas : count = 0 := by omega
  have listed : parts.listed = Text.joined ',' (rule.values.map String.toList) := by
    rw [listedEqual, noCommas, List.replicate_zero, List.append_nil]
  have tokenEqual : parts.token = (dialect.token rule.comparison).toList := by
    rw [listed] at following
    exact List.append_cancel_right following
  cases parts
  simp_all [written]

/-- A text is read back as the rule that wrote it exactly when the parts are well
formed and the values are those that the commas separate. -/
theorem read_characters_eq_ok_iff
    (versioned : dialect.IsVersion version)
    (spelled : encoded.toList = Dialect.headerText version ++ rule.characters dialect) :
    read encoded rule.anchorPath = .ok rule ↔
      (rule.written dialect version).WellFormed ∧
        (∀ value ∈ rule.values, ',' ∉ value.toList) ∧ rule.values.getLast? ≠ some "" := by
  rw [← characters_written] at spelled
  rw [read_eq_ok_iff_exists_written]
  constructor
  · rintro ⟨parts, wellFormed, partsSpelled, denotes⟩
    rw [← eq_written_of_denotes versioned wellFormed denotes (partsSpelled.trans spelled)]
    exact ⟨wellFormed, denotes.values.2⟩
  · rintro ⟨wellFormed, separable⟩
    refine ⟨rule.written dialect version, wellFormed, spelled.symm, ?_⟩
    exact {
      access := rule.access.lowerCase_name
      negated := rfl
      operandType := rule.operandType.lowerCase_name
      comparison := dialect.token_mem_spellings rule.comparison
      property := rfl
      values := ⟨⟨0, by simp [written]⟩, separable⟩
      anchorPath := rfl }

/-! ## Legible rules -/

/-- What a rule needs in any dialect to be read back. -/
@[mk_iff]
structure Legible (rule : MetadataRule) : Prop where
  property_ne_empty : rule.property ≠ ""
  unmarked : rule.negated = true ∨ rule.property.toList.head? ≠ some '!'
  values_ne_nil : rule.values ≠ []
  no_comma : ∀ value ∈ rule.values, ',' ∉ value.toList
  last_ne_empty : rule.values.getLast? ≠ some ""

/-- What a rule needs to be read back from the compact dialect. -/
@[mk_iff]
structure CompactLegible (rule : MetadataRule) : Prop extends Legible rule where
  no_operator : '=' ∉ rule.property.toList ∧ '<' ∉ rule.property.toList ∧
    '>' ∉ rule.property.toList
  /-- An equals sign after `>` or `<` would count as part of the operator. -/
  no_equals : rule.comparison = .greater ∨ rule.comparison = .less →
    ∀ value ∈ rule.values.head?, value.toList.head? ≠ some '='

/-- What a rule needs to be read back from the legacy dialect. -/
@[mk_iff]
structure LegacyLegible (rule : MetadataRule) : Prop extends Legible rule where
  no_operator : ∀ place < rule.property.toList.length,
    ¬Dialect.legacy.SpelledAt
      (rule.property.toList ++ (Dialect.legacy.token rule.comparison).toList) place

instance : DecidablePred Legible := fun rule =>
  decidable_of_iff _ (legible_iff rule).symm

instance : DecidablePred CompactLegible := fun rule =>
  decidable_of_iff _ (compactLegible_iff rule).symm

instance : DecidablePred LegacyLegible := fun rule =>
  decidable_of_iff _ (legacyLegible_iff rule).symm

/-- A written rule is read back exactly when it is legible, no spelling begins in
the property, and none goes on after the token. -/
theorem read_characters_eq_ok_iff_legible
    (versioned : dialect.IsVersion version)
    (spelled : encoded.toList = Dialect.headerText version ++ rule.characters dialect) :
    read encoded rule.anchorPath = .ok rule ↔
      rule.Legible ∧
        (∀ place < rule.property.toList.length,
          ¬dialect.SpelledAt (rule.written dialect version).expression place) ∧
        dialect.IsLongest (dialect.token rule.comparison).toList
          ((dialect.token rule.comparison).toList ++
            Text.joined ',' (rule.values.map String.toList)) := by
  rw [read_characters_eq_ok_iff versioned spelled]
  constructor
  · rintro ⟨wellFormed, readable⟩
    refine ⟨?_, wellFormed.earliest, wellFormed.longest⟩
    exact {
      property_ne_empty := fun empty => wellFormed.property_ne_nil (by simp [written, empty])
      unmarked := wellFormed.unmarked
      values_ne_nil := (exists_ne_comma_joined_iff readable).mp wellFormed.listed
      no_comma := readable.1
      last_ne_empty := readable.2 }
  · rintro ⟨legible, earliest, longest⟩
    have readable := And.intro legible.no_comma legible.last_ne_empty
    refine ⟨?_, readable⟩
    exact {
      toWorded := worded_written versioned
      property_ne_nil := fun empty =>
        legible.property_ne_empty (String.toList_eq_nil_iff.mp empty)
      unmarked := legible.unmarked
      token := ⟨rule.comparison, dialect.token_mem_spellings rule.comparison⟩
      earliest := earliest
      longest := longest
      listed := (exists_ne_comma_joined_iff readable).mpr legible.values_ne_nil }

theorem read_compact_eq_ok_iff
    (versioned : Dialect.compact.IsVersion version)
    (spelled : encoded.toList = Dialect.headerText version ++ rule.characters .compact) :
    read encoded rule.anchorPath = .ok rule ↔ rule.CompactLegible := by
  have clean := Dialect.forall_not_spelledAt_compact_iff rule.property.toList
    ((Dialect.compact.token rule.comparison).toList ++
      Text.joined ',' (rule.values.map String.toList))
  have values : (Text.joined ',' (rule.values.map String.toList)).head? ≠ some '=' ↔
      ∀ value ∈ rule.values.head?, value.toList.head? ≠ some '=' := by
    rw [ne_eq, Text.head?_joined (by decide), List.head?_map]
    simp
  rw [read_characters_eq_ok_iff_legible versioned spelled, Dialect.isLongest_compact_iff, values,
    WrittenRule.expression, List.append_assoc]
  constructor
  · rintro ⟨legible, earliest, longest⟩
    exact { toLegible := legible, no_operator := clean.mp earliest, no_equals := longest }
  · intro legible
    exact ⟨legible.toLegible, clean.mpr legible.no_operator, legible.no_equals⟩

theorem read_legacy_eq_ok_iff
    (versioned : Dialect.legacy.IsVersion version)
    (spelled : encoded.toList = Dialect.headerText version ++ rule.characters .legacy) :
    read encoded rule.anchorPath = .ok rule ↔ rule.LegacyLegible := by
  have seam (place : Nat) (inside : place < rule.property.toList.length) :=
    Dialect.spelledAt_legacy_append_iff inside rule.comparison
      (Text.joined ',' (rule.values.map String.toList))
  rw [read_characters_eq_ok_iff_legible versioned spelled]
  constructor
  · rintro ⟨legible, earliest, _⟩
    refine { toLegible := legible, no_operator := ?_ }
    intro place inside spelledInside
    exact earliest place inside ((seam place inside).mpr spelledInside)
  · intro legible
    refine ⟨legible.toLegible, ?_, Dialect.isLongest_legacy _ _⟩
    intro place inside spelledInside
    exact legible.no_operator place inside ((seam place inside).mp spelledInside)

-- The property and the token spell `_GREATER_THAN_EQUALS_` together.
example : ¬LegacyLegible
    ⟨.allow, false, .text, .equal, "x_GREATER_THAN", ["1"], "/content"⟩ := by
  decide

-- The words of operators do no harm in values.
example : LegacyLegible
    ⟨.allow, false, .text, .greater, "x_GREATER_THAN", ["_EQUALS_"], "/content"⟩ := by
  decide

/-! ## Round trips -/

theorem toList_write :
    (rule.write dialect).toList = Dialect.headerText none ++ rule.characters dialect :=
  String.toList_ofList

/-- A rule survives the compact dialect, with a version header or without one,
exactly when it is legible there. -/
theorem read_write_compact_iff (rule : MetadataRule) :
    (read (rule.write .compact) rule.anchorPath = .ok rule ↔ rule.CompactLegible) ∧
      (read ("v2:" ++ rule.write .compact) rule.anchorPath = .ok rule ↔
        rule.CompactLegible) := by
  refine ⟨read_compact_eq_ok_iff (Dialect.isVersion_none _) toList_write, ?_⟩
  apply read_compact_eq_ok_iff (Dialect.isVersion_decimalDigits _)
  rw [String.toList_append, toList_write]
  rfl

/-- A rule survives the legacy dialect, with a version header or without one,
exactly when it is legible there.  Its values may hold the words of operators. -/
theorem read_write_legacy_iff (rule : MetadataRule) :
    (read (rule.write .legacy) rule.anchorPath = .ok rule ↔ rule.LegacyLegible) ∧
      (read ("v1:" ++ rule.write .legacy) rule.anchorPath = .ok rule ↔
        rule.LegacyLegible) := by
  refine ⟨read_legacy_eq_ok_iff (Dialect.isVersion_none _) toList_write, ?_⟩
  apply read_legacy_eq_ok_iff (Dialect.isVersion_decimalDigits _)
  rw [String.toList_append, toList_write]
  rfl

end MetadataRule
end ContentAccess
