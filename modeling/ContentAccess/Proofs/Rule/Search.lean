import ContentAccess.Proofs.Rule.Overlap
import Mathlib.Data.List.MinMax
import Mathlib.Data.Nat.Find
import Mathlib.Data.Prod.Lex
import Mathlib.Order.Bounds.Basic

/-!
# Searching for comparisons

The scan of a rule stops at the earliest place where a comparison is spelled and takes the longest
spelling there.  The same comparison is found without a scan: every spelling is searched on its own,
and of what is found the earliest counts, or the longest of the earliest.  In the compact dialect
the scan only has to know the three characters that open a comparison.
-/

namespace ContentAccess

/-! ## The first place of a word -/

namespace Text

/-- The first place where `word` stands in the text. -/
def place? (word text : List Char) : Option Nat :=
  (List.range (text.length + 1)).find? fun place => word.isPrefixOf (text.drop place)

section Place

variable {word text : List Char}

/-- A word stands in a text when it stands at some place of it. -/
theorem infix_iff_exists_prefix_drop :
    word <:+: text ↔ ∃ place, word <+: text.drop place := by
  rw [List.infix_iff_prefix_suffix]
  constructor
  · rintro ⟨rest, begins, ends⟩
    rw [List.suffix_iff_eq_drop.mp ends] at begins
    exact ⟨_, begins⟩
  · rintro ⟨place, begins⟩
    exact ⟨_, begins, List.drop_suffix place text⟩

theorem place?_eq_some_iff {place : Nat} :
    place? word text = some place ↔ IsLeast {place | word <+: text.drop place} place := by
  simp only [place?, List.find?_range_eq_some, List.isPrefixOf_iff_prefix, List.mem_range,
    Bool.not_eq_true', Bool.eq_false_iff, ne_eq]
  constructor
  · rintro ⟨begins, _, earlier⟩
    refine ⟨begins, fun other otherBegins => ?_⟩
    by_contra before
    exact earlier other (Nat.lt_of_not_le before) otherBegins
  · rintro ⟨begins, least⟩
    refine ⟨begins, ?_, fun other before otherBegins => ?_⟩
    · -- Whatever stands beyond the end of the text stands at its end.
      by_contra beyond
      have atEnd : word <+: text.drop text.length := by
        rw [Set.mem_ofPred_eq, List.drop_of_length_le (by omega)] at begins
        rwa [List.drop_length]
      have bound := least atEnd
      omega
    · exact absurd (least otherBegins) (Nat.not_le_of_lt before)

/-- A word that stands somewhere has a first place. -/
theorem exists_place?_of_prefix_drop
    {place : Nat}
    (begins : word <+: text.drop place) :
    ∃ first ≤ place, place? word text = some first := by
  classical
  have somewhere : ∃ place, word <+: text.drop place := ⟨place, begins⟩
  refine ⟨Nat.find somewhere, Nat.find_min' somewhere begins, place?_eq_some_iff.mpr ?_⟩
  exact ⟨Nat.find_spec somewhere, fun other => Nat.find_min' somewhere⟩

end Place

end Text

/-! ## The earliest and longest find -/

/-- A spelling in a text: the number of characters before it, its own number of characters, and
the comparison that it spells. -/
structure Lexeme where
  place : Nat
  length : Nat
  comparison : Comparison
  deriving DecidableEq, Repr

namespace Lexeme

/-- Earlier lexemes come first, and longer ones at the same place. -/
def key (lexeme : Lexeme) : Nat ×ₗ Natᵒᵈ :=
  toLex (lexeme.place, OrderDual.toDual lexeme.length)

/-- What stands before the lexeme, its comparison, and what follows. -/
def cut (text : List Char) (lexeme : Lexeme) : List Char × Comparison × List Char :=
  (text.take lexeme.place, lexeme.comparison, text.drop (lexeme.place + lexeme.length))

theorem key_le_iff {first second : Lexeme} :
    first.key ≤ second.key ↔
      first.place < second.place ∨
        first.place = second.place ∧ second.length ≤ first.length := by
  simp [key, Prod.Lex.toLex_le_toLex]

end Lexeme

namespace Dialect

/-- The first find of every spelling that stands in the text. -/
def finds (dialect : Dialect) (text : List Char) : List Lexeme :=
  dialect.spellings.filterMap fun (spelling, comparison) =>
    (Text.place? spelling text).map fun place => ⟨place, spelling.length, comparison⟩

/-- The find that comes first in the order of keys. -/
def lexeme? (dialect : Dialect) (text : List Char) : Option Lexeme :=
  (dialect.finds text).argmin Lexeme.key

/-- The lexeme is the longest spelling at the earliest place where the text has one. -/
structure IsEarliestLongest
    (dialect : Dialect)
    (text : List Char)
    (lexeme : Lexeme) : Prop where
  place : IsLeast {place | dialect.SpelledAt text place} lexeme.place
  length : IsGreatest
    {length | ∃ entry ∈ dialect.spellings,
      entry.1 <+: text.drop lexeme.place ∧ entry.1.length = length} lexeme.length
  /-- The text is cut into what stands before, the spelling, and what follows. -/
  spelled : ∃ token, (token, lexeme.comparison) ∈ dialect.spellings ∧
    token.length = lexeme.length ∧
    text = text.take lexeme.place ++ token ++ text.drop (lexeme.place + lexeme.length)

section Search

variable {dialect : Dialect} {text : List Char} {lexeme other : Lexeme}

theorem mem_finds_iff :
    lexeme ∈ dialect.finds text ↔
      ∃ token, (token, lexeme.comparison) ∈ dialect.spellings ∧ token.length = lexeme.length ∧
        Text.place? token text = some lexeme.place := by
  simp only [finds, List.mem_filterMap, Option.map_eq_some_iff, Prod.exists]
  constructor
  · rintro ⟨token, comparison, listed, place, found, rfl⟩
    exact ⟨token, listed, rfl, found⟩
  · rintro ⟨token, listed, length, found⟩
    exact ⟨token, lexeme.comparison, listed, lexeme.place, found, by rw [length]⟩

/-- The first find of a spelling is among the finds, so a spelling that stands somewhere is found
there or earlier. -/
theorem exists_find_of_prefix_drop
    {entry : List Char × Comparison}
    {place : Nat}
    (listed : entry ∈ dialect.spellings)
    (begins : entry.1 <+: text.drop place) :
    ∃ found ∈ dialect.finds text, found.place ≤ place ∧ found.length = entry.1.length := by
  obtain ⟨first, bound, found⟩ := Text.exists_place?_of_prefix_drop begins
  exact ⟨⟨first, entry.1.length, entry.2⟩, mem_finds_iff.mpr ⟨entry.1, listed, rfl, found⟩,
    bound, rfl⟩

/-- The first find in the order of keys is the earliest, and the longest of the earliest. -/
theorem isEarliestLongest_of_lexeme?
    (found : dialect.lexeme? text = some lexeme) :
    dialect.IsEarliestLongest text lexeme := by
  have member : lexeme ∈ dialect.finds text := List.argmin_mem found
  have first (other : Lexeme) (otherMember : other ∈ dialect.finds text) :
      lexeme.key ≤ other.key := List.le_of_mem_argmin otherMember found
  obtain ⟨token, listed, length, place⟩ := mem_finds_iff.mp member
  have begins : token <+: text.drop lexeme.place := (Text.place?_eq_some_iff.mp place).1
  have earliest {entry : List Char × Comparison} {place : Nat}
      (otherListed : entry ∈ dialect.spellings) (otherBegins : entry.1 <+: text.drop place) :
      lexeme.place < place ∨ lexeme.place = place ∧ entry.1.length ≤ lexeme.length := by
    obtain ⟨other, otherMember, bound, otherLength⟩ :=
      exists_find_of_prefix_drop otherListed otherBegins
    have ordered := Lexeme.key_le_iff.mp (first other otherMember)
    omega
  refine {
    place := ⟨⟨_, listed, begins⟩, ?place⟩
    length := ⟨⟨_, listed, begins, length⟩, ?length⟩
    spelled := ?spelled }
  case place =>
    rintro place ⟨entry, otherListed, otherBegins⟩
    have ordered := earliest otherListed otherBegins
    omega
  case length =>
    rintro _ ⟨entry, otherListed, otherBegins, rfl⟩
    have ordered := earliest otherListed otherBegins
    omega
  case spelled =>
    obtain ⟨after, joined⟩ := begins
    refine ⟨token, listed, length, ?_⟩
    have rest : text.drop (lexeme.place + lexeme.length) = after := by
      rw [← List.drop_drop, ← joined, ← length, List.drop_left]
    rw [rest, List.append_assoc, joined, List.take_append_drop]

/-- The scan cuts a text at its earliest and longest lexeme. -/
theorem IsEarliestLongest.isCut
    (isEarliestLongest : dialect.IsEarliestLongest text lexeme) :
    dialect.IsCut text (text.take lexeme.place) lexeme.comparison
      (text.drop (lexeme.place + lexeme.length)) := by
  obtain ⟨token, listed, length, joined⟩ := isEarliestLongest.spelled
  refine ⟨token, listed, joined, ?earliest, ?longest⟩
  case earliest =>
    intro place before spelled
    have bound := isEarliestLongest.place.2 spelled
    rw [List.length_take] at before
    omega
  case longest =>
    intro entry otherListed begins
    rw [length]
    apply isEarliestLongest.length.2
    refine ⟨entry, otherListed, ?_, rfl⟩
    have whole : text.take lexeme.place ++ (token ++ text.drop (lexeme.place + lexeme.length)) =
        text.take lexeme.place ++ text.drop lexeme.place := by
      rw [← List.append_assoc, ← joined, List.take_append_drop]
    rwa [← List.append_cancel_left whole]

/-- Where a scan cuts a text there is the earliest and longest lexeme. -/
theorem IsCut.exists_isEarliestLongest
    {before after : List Char}
    {comparison : Comparison}
    (isCut : dialect.IsCut text before comparison after) :
    ∃ lexeme, dialect.IsEarliestLongest text lexeme ∧
      (before, comparison, after) = lexeme.cut text := by
  obtain ⟨token, listed, rfl, earliest, longest⟩ := isCut
  have following : (before ++ token ++ after).drop before.length = token ++ after := by
    rw [List.append_assoc, List.drop_left]
  have rest : (before ++ token ++ after).drop (before.length + token.length) = after := by
    rw [← List.drop_drop, following, List.drop_left]
  have front : (before ++ token ++ after).take before.length = before := by
    rw [List.append_assoc, List.take_left]
  have begins : token <+: (before ++ token ++ after).drop before.length := by
    rw [following]
    exact List.prefix_append token after
  refine ⟨⟨before.length, token.length, comparison⟩, ?_, by rw [Lexeme.cut, front, rest]⟩
  refine {
    place := ⟨⟨_, listed, begins⟩, ?earliest⟩
    length := ⟨⟨_, listed, begins, rfl⟩, ?longest⟩
    spelled := ⟨token, listed, rfl, by rw [front, rest]⟩ }
  case earliest =>
    intro place spelled
    by_contra inside
    exact earliest place (Nat.lt_of_not_le inside) spelled
  case longest =>
    rintro _ ⟨entry, otherListed, otherBegins, rfl⟩
    rw [following] at otherBegins
    exact longest entry otherListed otherBegins

/-- A text has one earliest and longest lexeme at most. -/
theorem IsEarliestLongest.unique
    (isEarliestLongest : dialect.IsEarliestLongest text lexeme)
    (otherIs : dialect.IsEarliestLongest text other) :
    lexeme = other := by
  have place : lexeme.place = other.place := isEarliestLongest.place.unique otherIs.place
  have length : lexeme.length = other.length := by
    have greatest := isEarliestLongest.length
    rw [place] at greatest
    exact greatest.unique otherIs.length
  have cut := splitComparison?_eq_some_iff.mpr isEarliestLongest.isCut
  rw [splitComparison?_eq_some_iff.mpr otherIs.isCut] at cut
  have comparison : other.comparison = lexeme.comparison :=
    (Prod.mk.inj (Prod.mk.inj (Option.some.inj cut)).2).1
  cases lexeme
  cases other
  simp_all

/-- A search for every spelling on its own finds the earliest and longest lexeme. -/
theorem lexeme?_eq_some_iff :
    dialect.lexeme? text = some lexeme ↔ dialect.IsEarliestLongest text lexeme := by
  refine ⟨isEarliestLongest_of_lexeme?, fun isEarliestLongest => ?_⟩
  obtain ⟨entry, listed, begins⟩ := isEarliestLongest.place.1
  obtain ⟨found, member, _⟩ := exists_find_of_prefix_drop listed begins
  cases search : dialect.lexeme? text with
  | none =>
      rw [lexeme?, List.argmin_eq_none] at search
      simp [search] at member
  | some other => rw [(isEarliestLongest_of_lexeme? search).unique isEarliestLongest]

/-- The equals sign stands before the comparison that would be longer. -/
example : compact.lexeme? "a=>=b".toList = some ⟨1, 1, .equal⟩ := by
  decide

end Search

/-! ## Operator characters -/

/-- The character opens a comparison in the compact dialect. -/
def isOperator (character : Char) : Bool :=
  character == '=' || character == '<' || character == '>'

/-- The comparison that an operator character spells, with an equals sign after it or without. -/
def ofOperator (widened : Bool) : Char → Comparison
  | '<' => if widened then .atMost else .less
  | '>' => if widened then .atLeast else .greater
  | _ => .equal

/-- The comparison that an operator character opens, and what follows it.  An equals sign directly
after the character belongs to the comparison. -/
def takeOperator (character : Char) : List Char → Comparison × List Char
  | '=' :: after => (ofOperator true character, after)
  | after => (ofOperator false character, after)

/-- Cuts at the first operator character. -/
def cutAtOperator? : List Char → Option (List Char × Comparison × List Char)
  | [] => none
  | character :: rest =>
      if isOperator character then
        some ([], takeOperator character rest)
      else
        (cutAtOperator? rest).map fun (before, found) => (character :: before, found)

theorem isOperator_eq_true_iff {character : Char} :
    isOperator character = true ↔ character = '=' ∨ character = '<' ∨ character = '>' := by
  simp [isOperator, or_assoc]

/-- A compact comparison is at the front exactly when an operator character is. -/
theorem leadingComparison?_compact_cons
    (character : Char)
    (rest : List Char) :
    compact.leadingComparison? (character :: rest) =
      if isOperator character then some (takeOperator character rest) else none := by
  by_cases operator : isOperator character = true
  · rw [if_pos operator, leadingComparison?, spellings_compact, takeOperator.eq_def]
    split
    · rcases isOperator_eq_true_iff.mp operator with rfl | rfl | rfl <;> rfl
    · rename_i single
      have unwidened : Text.stripStart? ['='] rest = none := by
        rw [Text.stripStart?_eq_none_iff]
        rintro ⟨after, rfl⟩
        exact single after rfl
      rcases isOperator_eq_true_iff.mp operator with rfl | rfl | rfl <;>
        simp [Text.stripStart?, unwidened, ofOperator]
  · rw [if_neg operator, leadingComparison?_eq_none_iff, spelledAt_compact_iff]
    simpa [isOperator_eq_true_iff] using operator

/-- The scan for compact spellings is one for operator characters. -/
theorem splitComparison?_compact (text : List Char) :
    compact.splitComparison? text = cutAtOperator? text := by
  induction text with
  | nil => rfl
  | cons character rest step =>
      rw [splitComparison?, cutAtOperator?, leadingComparison?_compact_cons, step]
      by_cases operator : isOperator character = true <;> simp [operator]

/-- A text is not cut exactly when no spelling stands in it.  Otherwise it is cut at the longest of
the spellings that stand at the earliest place, which is also what a search for each spelling on its
own finds.  In the compact dialect it is cut at the first operator character, to which an equals
sign directly after it belongs. -/
theorem splits_at_longest_of_earliest (dialect : Dialect) (text : List Char) :
    (dialect.splitComparison? text = none ↔
      ∀ entry ∈ dialect.spellings, ¬entry.1 <:+: text) ∧
    (∀ found, dialect.splitComparison? text = some found ↔
      ∃ lexeme, dialect.IsEarliestLongest text lexeme ∧ found = lexeme.cut text) ∧
    (∀ lexeme, dialect.lexeme? text = some lexeme ↔ dialect.IsEarliestLongest text lexeme) ∧
    compact.splitComparison? text = cutAtOperator? text := by
  refine ⟨?absent, ?found, ?searched, ?compact⟩
  case absent =>
    rw [splitComparison?_eq_none_iff]
    simp only [SpelledAt, Text.infix_iff_exists_prefix_drop, not_exists, not_and]
    exact ⟨fun unspelled entry listed place => unspelled place entry listed,
      fun unspelled place entry listed => unspelled entry listed place⟩
  case found =>
    rintro ⟨before, comparison, after⟩
    rw [splitComparison?_eq_some_iff]
    refine ⟨IsCut.exists_isEarliestLongest, ?_⟩
    rintro ⟨lexeme, isEarliestLongest, cut⟩
    cases cut
    exact isEarliestLongest.isCut
  case searched => exact fun lexeme => lexeme?_eq_some_iff
  case compact => exact splitComparison?_compact text

end Dialect
end ContentAccess
