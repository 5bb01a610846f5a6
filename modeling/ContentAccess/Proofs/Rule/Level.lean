import ContentAccess.Proofs.Rule.LevelGrammar

/-!
# Level rules survive writing

In both dialects a level rule is an access, a separator, a negation mark, an
operator and a number.  The legacy separator is also the underscore that opens the
operator, so the operator is written without it.  What is written is one of the
texts of the grammar, and its parts mean the rule, so every level rule is read back
from either dialect.
-/

namespace ContentAccess

/-! ## Operators in level rules -/

namespace Dialect

/-- A comparison as it stands in a level rule, after the separator. -/
def operator (dialect : Dialect) (comparison : Comparison) : List Char :=
  match dialect with
  | legacy => (legacy.token comparison).toList.dropWhile (· == '_')
  | compact => (compact.token comparison).toList

/-- A legacy token is its operator after one underscore. -/
theorem token_legacy_eq (comparison : Comparison) :
    (legacy.token comparison).toList = '_' :: legacy.operator comparison := by
  cases comparison <;> decide

/-- An operator is one of the spellings of its comparison. -/
theorem operator_mem_levelSpellings
    (dialect : Dialect)
    (comparison : Comparison) :
    (dialect.operator comparison, comparison) ∈ dialect.levelSpellings := by
  cases dialect <;> cases comparison <;> decide

end Dialect

namespace LevelRule

/-- Both dialects write the parts of a level rule in the same order. -/
theorem characters_eq
    (dialect : Dialect)
    (rule : LevelRule) :
    rule.characters dialect =
      rule.access.name.toList ++ dialect.separator ::
        (negationMark rule.negated ++
          (dialect.operator rule.comparison ++ Text.decimalDigits rule.level.toNat)) := by
  cases dialect with
  | compact =>
      cases negated : rule.negated <;>
        simp [characters, negated, negationMark, Dialect.operator, Dialect.separator]
  | legacy =>
      cases negated : rule.negated with
      | false =>
          simp [characters, negated, negationMark, Dialect.token_legacy_eq, Dialect.separator]
      | true => simp [characters, negated, negationMark, Dialect.operator, Dialect.separator]

/-- A written level rule is read back, with a header of its dialect or without one. -/
theorem read_characters
    {dialect : Dialect}
    {version : Option (List Char)}
    {rule : LevelRule}
    {encoded : String}
    (versioned : dialect.IsVersion version)
    (spelled : encoded.toList = Dialect.headerText version ++ rule.characters dialect) :
    read encoded rule.anchorPath = .ok rule := by
  rw [characters_eq] at spelled
  have letters := rule.access.lowerCase_name
  have listed := dialect.operator_mem_levelSpellings rule.comparison
  have small := Nat.le_of_lt_succ rule.level.toNat_lt_size
  have padded := Text.isPaddedNatural_decimalDigits rule.level.toNat
  apply read_eq_ok_iff_exists_written.mpr
  refine ⟨⟨version, dialect, rule.access.name.toList, rule.negated,
    dialect.operator rule.comparison, Text.decimalDigits rule.level.toNat⟩, ?wellFormed,
    spelled.symm, ?denotes⟩
  case wellFormed => exact ⟨versioned, ⟨_, letters⟩, ⟨_, listed⟩, ⟨_, small, padded⟩⟩
  case denotes => exact ⟨letters, rfl, listed, padded, rfl⟩

/-- Every level rule survives both dialects, with a version header or without one.
So whatever text a level rule was read from, it can be written in either dialect
and is read again as itself. -/
theorem read_write_eq_ok
    (rule : LevelRule)
    (dialect : Dialect) :
    read (rule.write dialect) rule.anchorPath = .ok rule ∧
      read ("v" ++ toString dialect.version ++ ":" ++ rule.write dialect) rule.anchorPath =
        .ok rule ∧
      ∀ encoded anchorPath, read encoded anchorPath = .ok rule →
        read (rule.write dialect) anchorPath = .ok rule := by
  have unheaded : read (rule.write dialect) rule.anchorPath = .ok rule :=
    read_characters dialect.isVersion_none String.toList_ofList
  refine ⟨unheaded, ?_, ?_⟩
  · apply read_characters dialect.isVersion_decimalDigits
    rw [String.toList_append, write, String.toList_ofList]
    cases dialect <;> rfl
  · intro encoded anchorPath accepted
    obtain ⟨_, _, _, _, _, _, _, _, _, _, _, _, anchored⟩ := read_eq_ok_iff.mp accepted
    rwa [anchored] at unheaded

end LevelRule
end ContentAccess
