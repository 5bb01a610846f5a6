import ContentAccess.Proofs.Rule.Header
import ContentAccess.Proofs.Rule.Overlap

/-!
# The grammar of level rules

A written level rule is a header, an access, a negation mark, a comparison and a level, one
after another.  The separator of the legacy dialect may stand for the underscore in front of the
comparison.  The level is a number of at most 32 bits with white space around it.  Reading
accepts exactly the texts of this grammar, and no text can be cut in two ways.
-/

namespace ContentAccess

/-! ## Comparisons in level rules -/

namespace Dialect

/-- The spellings of comparisons in level rules; those of the legacy dialect may lack their first
underscore. -/
def levelSpellings : Dialect → List (List Char × Comparison)
  | compact => compact.spellings
  | legacy => legacy.spellings ++ legacy.spellings.map fun entry => (entry.1.tail, entry.2)

/-- The condition of a level rule begins with this spelling, and with no longer one. -/
structure OpensWith
    (dialect : Dialect)
    (condition token : List Char)
    (comparison : Comparison)
    (following : List Char) : Prop where
  listed : (token, comparison) ∈ dialect.levelSpellings
  whole : condition = token ++ following
  longest : ∀ entry ∈ dialect.levelSpellings, entry.1 <+: condition →
    entry.1.length ≤ token.length

section Spellings

variable {dialect : Dialect} {condition spelling token following : List Char}
  {comparison : Comparison}

/-- A spelling that begins with another one is that one, or an equals sign longer. -/
theorem eq_of_prefix_levelSpelling
    {short long : List Char × Comparison}
    (shortListed : short ∈ dialect.levelSpellings)
    (longListed : long ∈ dialect.levelSpellings)
    (begins : short.1 <+: long.1) :
    long.1 = short.1 ∨ dialect = .compact ∧ long.1 = short.1 ++ ['='] := by
  have table : ∀ short ∈ dialect.levelSpellings, ∀ long ∈ dialect.levelSpellings,
      short.1 <+: long.1 →
        long.1 = short.1 ∨ dialect = .compact ∧ long.1 = short.1 ++ ['='] := by
    cases dialect <;> decide
  exact table short shortListed long longListed begins

/-- Only an equals sign after a spelling can make it longer. -/
theorem opensWith_append
    (listed : (token, comparison) ∈ dialect.levelSpellings)
    (clear : dialect = .legacy ∨ following.head? ≠ some '=') :
    dialect.OpensWith (token ++ following) token comparison following where
  listed := listed
  whole := rfl
  longest := by
    intro entry entryListed atFront
    rcases List.prefix_or_prefix_of_prefix atFront (List.prefix_append token following)
      with short | long
    · exact short.length_le
    · rcases eq_of_prefix_levelSpelling listed entryListed long with same | ⟨compact, longer⟩
      · rw [same]
      · rw [longer, List.prefix_append_right_inj] at atFront
        obtain ⟨rest, rfl⟩ := atFront
        simp [compact] at clear

/-- Behind the separator the underscore in front of a legacy spelling is put back where it is
left out. -/
theorem expression_legacy_eq_append_iff
    (listed : (spelling, comparison) ∈ legacy.spellings) :
    LevelRule.expression .legacy condition = spelling ++ following ↔
      condition = spelling ++ following ∨ condition = spelling.tail ++ following := by
  have table : ∀ entry ∈ legacy.spellings,
      entry.1.head? = some '_' ∧ entry.1.tail ≠ [] ∧ entry.1.tail.head? ≠ some '_' := by
    decide
  obtain ⟨opens, nonempty, single⟩ := table _ listed
  obtain ⟨rest, rfl⟩ := List.head?_eq_some_iff.mp opens
  obtain ⟨first, others, rfl⟩ := List.exists_cons_of_ne_nil nonempty
  have notUnderscore : first ≠ '_' := by simpa using single
  unfold LevelRule.expression
  split
  · contradiction
  · simp [Ne.symm notUnderscore]
  · rename_i unopened
    simp only [List.cons_append, List.cons.injEq, true_and, List.tail_cons, iff_or_self]
    rintro rfl
    exact absurd rfl (unopened _)

theorem mem_levelSpellings_legacy_iff :
    (token, comparison) ∈ legacy.levelSpellings ↔
      ∃ spelling, (spelling, comparison) ∈ legacy.spellings ∧
        (token = spelling ∨ token = spelling.tail) := by
  simp only [levelSpellings, List.mem_append, List.mem_map, Prod.mk.injEq, Prod.exists]
  constructor
  · rintro (listed | ⟨spelling, _, listed, rfl, rfl⟩)
    · exact ⟨token, listed, .inl rfl⟩
    · exact ⟨spelling, listed, .inr rfl⟩
  · rintro ⟨spelling, listed, rfl | rfl⟩
    · exact .inl listed
    · exact .inr ⟨spelling, comparison, listed, rfl, rfl⟩

/-- The comparison of a level rule is read from the longest spelling at the front. -/
theorem leadingComparison?_expression_eq_some_iff :
    dialect.leadingComparison? (LevelRule.expression dialect condition) =
        some (comparison, following) ↔
      ∃ token, dialect.OpensWith condition token comparison following := by
  rw [leadingComparison?_eq_some_iff]
  cases dialect with
  | compact =>
      constructor
      · rintro ⟨token, listed, whole, longest⟩
        exact ⟨token, listed, whole, longest⟩
      · rintro ⟨token, listed, whole, longest⟩
        exact ⟨token, listed, whole, longest⟩
  | legacy =>
      constructor
      · rintro ⟨spelling, listed, whole, _⟩
        rcases (expression_legacy_eq_append_iff listed).mp whole with rfl | rfl
        · refine ⟨spelling, opensWith_append ?_ (.inl rfl)⟩
          exact mem_levelSpellings_legacy_iff.mpr ⟨spelling, listed, .inl rfl⟩
        · refine ⟨spelling.tail, opensWith_append ?_ (.inl rfl)⟩
          exact mem_levelSpellings_legacy_iff.mpr ⟨spelling, listed, .inr rfl⟩
      · rintro ⟨token, listed, rfl, _⟩
        obtain ⟨spelling, spells, cut⟩ := mem_levelSpellings_legacy_iff.mp listed
        have whole : LevelRule.expression .legacy (token ++ following) = spelling ++ following := by
          apply (expression_legacy_eq_append_iff spells).mpr
          exact cut.imp (fun same => by rw [same]) fun same => by rw [same]
        refine ⟨spelling, spells, whole, ?_⟩
        have isToken : spelling = (legacy.token comparison).toList := by
          simpa using eq_token_of_mem_spellings spells
        rw [whole, isToken]
        exact isLongest_legacy comparison following

/-- No comparison is read when none is spelled at the front. -/
theorem leadingComparison?_expression_eq_none_iff :
    dialect.leadingComparison? (LevelRule.expression dialect condition) = none ↔
      ∀ entry ∈ dialect.levelSpellings, ¬entry.1 <+: condition := by
  rw [leadingComparison?_eq_none_iff, SpelledAt, List.drop_zero]
  cases dialect with
  | compact => simp [levelSpellings, LevelRule.expression]
  | legacy =>
      simp only [not_exists, not_and, Prod.forall, mem_levelSpellings_legacy_iff]
      constructor
      · rintro unspelled token comparison ⟨spelling, listed, cut⟩ ⟨following, whole⟩
        apply unspelled spelling comparison listed
        refine ⟨following, ((expression_legacy_eq_append_iff listed).mpr ?_).symm⟩
        rw [← whole]
        exact cut.imp (fun same => by rw [same]) fun same => by rw [same]
      · rintro unspelled spelling comparison listed ⟨following, whole⟩
        rcases (expression_legacy_eq_append_iff listed).mp whole.symm with cut | cut
        · exact unspelled spelling comparison ⟨spelling, listed, .inl rfl⟩ ⟨following, cut.symm⟩
        · exact unspelled spelling.tail comparison ⟨spelling, listed, .inr rfl⟩
            ⟨following, cut.symm⟩

end Spellings

end Dialect

/-! ## Written level rules -/

/-- A level rule cut into its written parts. -/
structure WrittenLevelRule where
  /-- The digits of the version header, if there is one. -/
  version : Option (List Char)
  dialect : Dialect
  accessWord : List Char
  /-- There is a negation mark. -/
  negated : Bool
  /-- The comparison as it is spelled. -/
  token : List Char
  /-- The level with the white space around it. -/
  level : List Char

namespace WrittenLevelRule

/-- What follows the access. -/
def condition (written : WrittenLevelRule) : List Char :=
  negationMark written.negated ++ (written.token ++ written.level)

/-- The whole text. -/
def characters (written : WrittenLevelRule) : List Char :=
  Dialect.headerText written.version ++
    (written.accessWord ++ written.dialect.separator :: written.condition)

/-- All parts are what the grammar allows at their places. -/
structure WellFormed (written : WrittenLevelRule) : Prop where
  version : written.dialect.IsVersion written.version
  access : ∃ access : Access, Text.lowerCase written.accessWord = access.name.toList
  token : ∃ comparison, (written.token, comparison) ∈ written.dialect.levelSpellings
  level : ∃ value ≤ 4294967295, Text.IsPaddedNatural written.level value

/-- The parts mean this rule. -/
structure Denotes
    (written : WrittenLevelRule)
    (anchorPath : String)
    (rule : LevelRule) : Prop where
  access : Text.lowerCase written.accessWord = rule.access.name.toList
  negated : rule.negated = written.negated
  comparison : (written.token, rule.comparison) ∈ written.dialect.levelSpellings
  level : Text.IsPaddedNatural written.level rule.level.toNat
  anchorPath : rule.anchorPath = anchorPath

variable {written other : WrittenLevelRule}

theorem WellFormed.takeNegation_condition
    (wellFormed : written.WellFormed) :
    takeNegation written.condition = (written.negated, written.token ++ written.level) := by
  obtain ⟨comparison, listed⟩ := wellFormed.token
  have table : ∀ dialect : Dialect, ∀ entry ∈ dialect.levelSpellings,
      entry.1 ≠ [] ∧ entry.1.head? ≠ some '!' := by
    intro dialect
    cases dialect <;> decide
  obtain ⟨nonempty, unmarked⟩ := table written.dialect _ listed
  rw [takeNegation_eq_iff]
  refine ⟨rfl, .inr ?_⟩
  rwa [List.head?_append, Option.or_of_isSome (List.isSome_head?.mpr nonempty)]

/-- The comparison goes on as far as the level, which no spelling reaches into. -/
theorem WellFormed.opensWith
    (wellFormed : written.WellFormed)
    {comparison : Comparison}
    (listed : (written.token, comparison) ∈ written.dialect.levelSpellings) :
    written.dialect.OpensWith (written.token ++ written.level) written.token comparison
      written.level := by
  obtain ⟨value, _, padded⟩ := wellFormed.level
  refine Dialect.opensWith_append listed (.inr fun opens => ?_)
  exact padded.equals_not_mem (List.mem_of_head? opens)

/-- No text can be cut into the parts of a level rule in two ways. -/
theorem WellFormed.eq_of_characters_eq
    (wellFormed : written.WellFormed)
    (otherWellFormed : other.WellFormed)
    (equal : written.characters = other.characters) :
    written = other := by
  obtain ⟨_, letters⟩ := wellFormed.access
  obtain ⟨_, otherLetters⟩ := otherWellFormed.access
  obtain ⟨versionEqual, dialectEqual, accessEqual, conditionEqual⟩ :=
    Dialect.opening_unique wellFormed.version otherWellFormed.version letters otherLetters equal
  have negation := wellFormed.takeNegation_condition
  rw [conditionEqual, otherWellFormed.takeNegation_condition, Prod.mk.injEq] at negation
  obtain ⟨negatedEqual, restEqual⟩ := negation
  obtain ⟨comparison, listed⟩ := wellFormed.token
  obtain ⟨otherComparison, otherListed⟩ := otherWellFormed.token
  have leading := Dialect.leadingComparison?_expression_eq_some_iff.mpr
    ⟨_, wellFormed.opensWith listed⟩
  rw [dialectEqual, ← restEqual, Dialect.leadingComparison?_expression_eq_some_iff.mpr
    ⟨_, otherWellFormed.opensWith otherListed⟩, Option.some.injEq, Prod.mk.injEq] at leading
  have levelEqual : other.level = written.level := leading.2
  have tokenEqual : other.token = written.token := by
    rwa [levelEqual, List.append_cancel_right_eq] at restEqual
  cases written
  cases other
  simp_all

end WrittenLevelRule

namespace LevelRule

variable {encoded anchorPath : String} {rule : LevelRule}

/-- Reading accepts exactly the well-formed texts, and gives the rule that their parts mean. -/
theorem read_eq_ok_iff_exists_written :
    read encoded anchorPath = .ok rule ↔
      ∃ written : WrittenLevelRule, written.WellFormed ∧
        written.characters = encoded.toList ∧ written.Denotes anchorPath rule := by
  rw [read_eq_ok_iff]
  constructor
  · rintro ⟨dialect, body, accessWord, rest, condition, level, recognized, accessCut, accessRead,
      negation, leading, numeral, anchored⟩
    obtain ⟨version, versioned, headed⟩ := Dialect.exists_version_of_recognize recognized
    obtain ⟨rfl, _⟩ := Text.splitFirst?_eq_some_iff.mp accessCut
    obtain ⟨rfl, _⟩ := takeNegation_eq_iff.mp negation
    obtain ⟨token, listed, rfl, _⟩ :=
      Dialect.leadingComparison?_expression_eq_some_iff.mp leading
    have access := Access.read_eq_ok_iff.mp accessRead
    have padded := Text.word32?_trimmed_eq_some_iff.mp numeral
    refine ⟨⟨version, dialect, accessWord, rule.negated, token, level⟩, ?wellFormed, headed,
      ?denotes⟩
    case wellFormed =>
      have small := Nat.le_of_lt_succ rule.level.toNat_lt_size
      exact ⟨versioned, ⟨_, access⟩, ⟨_, listed⟩, ⟨_, small, padded⟩⟩
    case denotes => exact ⟨access, rfl, listed, padded, anchored⟩
  · rintro ⟨written, wellFormed, spelled, denotes⟩
    have opens := wellFormed.opensWith denotes.comparison
    refine ⟨written.dialect, _, written.accessWord, written.condition, _, written.level,
      Dialect.recognize_of_access wellFormed.version denotes.access spelled.symm,
      Text.splitFirst?_append (Access.separator_not_mem_word denotes.access _) _,
      Access.read_eq_ok_iff.mpr denotes.access, ?_,
      Dialect.leadingComparison?_expression_eq_some_iff.mpr ⟨_, opens⟩,
      Text.word32?_trimmed_eq_some_iff.mpr denotes.level, denotes.anchorPath⟩
    rw [denotes.negated]
    exact wellFormed.takeNegation_condition

/-- The texts that are read are those of the grammar.  Each of them can be cut into parts in one
way only, and is read as the rule that these parts mean. -/
theorem reads_exactly_written_level_rules (encoded anchorPath : String) :
    (∀ rule, read encoded anchorPath = .ok rule ↔
      ∃ written : WrittenLevelRule, written.WellFormed ∧
        written.characters = encoded.toList ∧ written.Denotes anchorPath rule) ∧
    ∀ first second : WrittenLevelRule, first.WellFormed → second.WellFormed →
      first.characters = encoded.toList → second.characters = encoded.toList →
      first = second := by
  constructor
  · intro rule
    exact read_eq_ok_iff_exists_written
  · intro first second firstWellFormed secondWellFormed firstSpelled secondSpelled
    apply firstWellFormed.eq_of_characters_eq secondWellFormed
    rw [firstSpelled, secondSpelled]

end LevelRule
end ContentAccess
