import ContentAccess.Proofs.Rule.Comparison
import ContentAccess.Proofs.Rule.Header

/-!
# Commas at the end

Operands are what commas separate, and commas after the last operand do not count.  A rule ends in
its operands, so commas may be put at its end as well: no stage of reading looks for a comma before
the operands, and each leaves one at the end of its text to the stage after it.
-/

namespace ContentAccess

/-! ## One more character at the end -/

namespace Text

variable {character : Char}

/-- A character that is no separator stays at the end of what follows the first separator. -/
theorem splitFirst?_concat
    {separator : Char}
    (different : character ≠ separator)
    (text : List Char) :
    splitFirst? separator (text ++ [character]) =
      (splitFirst? separator text).map fun (before, after) => (before, after ++ [character]) := by
  induction text with
  | nil => simp [splitFirst?, different]
  | cons first rest step =>
      by_cases equal : first = separator
      · simp [equal]
      · simp [splitFirst?, equal, step, Function.comp_def]

/-- A character that a word does not contain stays at the end of what follows the word. -/
theorem stripStart?_concat
    {beginning : List Char}
    (absent : character ∉ beginning)
    (text : List Char) :
    stripStart? beginning (text ++ [character]) =
      (stripStart? beginning text).map fun rest => rest ++ [character] := by
  induction beginning generalizing text with
  | nil => rfl
  | cons expected beginning step =>
      rw [List.mem_cons, not_or] at absent
      cases text with
      | nil =>
          have different : expected ≠ character := fun same => absent.1 same.symm
          simp [stripStart?, different]
      | cons first rest =>
          by_cases equal : expected = first
          · simp [stripStart?, equal, step absent.2]
          · simp [stripStart?, equal]

end Text

/-! ## A comma after each stage -/

namespace Dialect

/-- No spelling contains a comma. -/
theorem comma_not_mem_spelling
    {dialect : Dialect}
    {entry : List Char × Comparison}
    (listed : entry ∈ dialect.spellings) :
    ',' ∉ entry.1 := by
  revert entry
  cases dialect <;> decide

theorem leadingComparison?_concat_comma
    (dialect : Dialect)
    (text : List Char) :
    dialect.leadingComparison? (text ++ [',']) =
      (dialect.leadingComparison? text).map fun (comparison, after) =>
        (comparison, after ++ [',']) := by
  rw [leadingComparison?, leadingComparison?, List.map_findSome?]
  -- The spellings are tried one after another, and the comma decides about none of them.
  have free (entry) (listed : entry ∈ dialect.spellings) := comma_not_mem_spelling listed
  generalize dialect.spellings = spellings at free
  induction spellings with
  | nil => rfl
  | cons entry others step =>
      obtain ⟨spelling, comparison⟩ := entry
      have front := Text.stripStart?_concat (free _ List.mem_cons_self) text
      have further := step fun other listed => free other (List.mem_cons_of_mem _ listed)
      simp only [List.findSome?_cons, Function.comp_apply, front, further]
      cases Text.stripStart? spelling text <;> rfl

theorem splitComparison?_concat_comma
    (dialect : Dialect)
    (text : List Char) :
    dialect.splitComparison? (text ++ [',']) =
      (dialect.splitComparison? text).map fun (before, comparison, after) =>
        (before, comparison, after ++ [',']) := by
  induction text with
  | nil => cases dialect <;> rfl
  | cons character rest step =>
      have front := dialect.leadingComparison?_concat_comma (character :: rest)
      rw [List.cons_append] at front
      rw [List.cons_append, splitComparison?, splitComparison?, front, step]
      cases dialect.leadingComparison? (character :: rest) with
      | some found => rfl
      | none => simp [Function.comp_def]

theorem header?_concat_comma (text : List Char) :
    header? (text ++ [',']) =
      (header? text).map fun (digits, body) => (digits, body ++ [',']) := by
  cases text with
  | nil => rfl
  | cons letter rest =>
      by_cases isV : letter = 'v'
      · subst isV
        simp only [header?, List.cons_append, Text.splitFirst?_concat (by decide : ',' ≠ ':')]
        cases Text.splitFirst? ':' rest with
        | none => rfl
        | some parts => by_cases numeral : Text.isDigits parts.1 = true <;> simp [numeral]
      · simp [header?, isV]

theorem infer?_concat_comma (text : List Char) :
    infer? (text ++ [',']) = infer? text := by
  simp [infer?, List.find?_append]

theorem recognize_concat_comma (encoded : String) :
    recognize (encoded ++ ",") =
      (fun (dialect, body) => (dialect, body ++ [','])) <$>
        (recognize encoded).mapError (AccessError.quoting (encoded ++ ",")) := by
  have characters : (encoded ++ ",").toList = encoded.toList ++ [','] := String.toList_append
  rw [recognize, recognize, characters, header?_concat_comma, infer?_concat_comma]
  cases header? encoded.toList with
  | some parts =>
      simp only [Option.map_some]
      cases (Text.word32? parts.1).bind fun number => ofVersion? number.toNat <;> rfl
  | none =>
      simp only [Option.map_none]
      cases infer? encoded.toList <;> rfl

end Dialect

theorem readAccess_concat_comma
    (dialect : Dialect)
    (encoded : String)
    (body : List Char) :
    readAccess dialect (encoded ++ ",") (body ++ [',']) =
      (fun (access, rest) => (access, rest ++ [','])) <$>
        (readAccess dialect encoded body).mapError (AccessError.quoting (encoded ++ ",")) := by
  have notSeparator : ',' ≠ dialect.separator := by cases dialect <;> decide
  rw [readAccess_eq_mapError dialect (encoded ++ ",") encoded, readAccess, readAccess,
    Text.splitFirst?_concat notSeparator]
  cases Text.splitFirst? dialect.separator body with
  | none => rfl
  | some parts =>
      simp only [Option.map_some]
      cases Access.read (String.ofList parts.1) <;> rfl

theorem takeNegation_concat_comma (text : List Char) :
    takeNegation (text ++ [',']) = ((takeNegation text).1, (takeNegation text).2 ++ [',']) := by
  cases text with
  | nil => rfl
  | cons character rest =>
      by_cases marked : character = '!'
      · subst marked
        rfl
      · simp [takeNegation, marked]

theorem operands_concat_comma (text : List Char) :
    operands (text ++ [',']) = operands text := by
  obtain ⟨⟨count, joined⟩, readable⟩ := operands_eq_iff.mp (Eq.refl (operands text))
  refine operands_eq_iff.mpr ⟨⟨count + 1, ?_⟩, readable⟩
  rw [List.replicate_succ', ← List.append_assoc, ← joined]

/-! ## Commas after a rule -/

namespace MetadataRule

theorem assembled_concat_comma
    (encoded anchorPath : String)
    (access : Access)
    (operandType : OperandType)
    (negated : Bool)
    (found : Option (List Char × Comparison × List Char)) :
    assembled encoded anchorPath access operandType negated
        (found.map fun (before, comparison, after) => (before, comparison, after ++ [','])) =
      assembled encoded anchorPath access operandType negated found := by
  cases found with
  | none => rfl
  | some found => simp only [Option.map_some, assembled, operands_concat_comma]

/-- A comma at the end of a rule makes no difference, except that errors quote it. -/
theorem read_concat_comma (encoded anchorPath : String) :
    read (encoded ++ ",") anchorPath =
      (read encoded anchorPath).mapError (AccessError.quoting (encoded ++ ",")) := by
  -- Every stage hands the comma on to the next one, until the operands drop it.
  rw [read_eq, read_eq, Dialect.recognize_concat_comma, bind_map_left, mapError_bind]
  congr 1
  funext recognized
  obtain ⟨dialect, body⟩ := recognized
  simp only [readAccess_concat_comma, bind_map_left, mapError_bind]
  congr 1
  funext opened
  obtain ⟨access, rest⟩ := opened
  have notSeparator : ',' ≠ dialect.typeSeparator := by cases dialect <;> decide
  simp only [Text.splitFirst?_concat notSeparator]
  cases Text.splitFirst? dialect.typeSeparator rest with
  | none => rfl
  | some parts =>
      simp only [Option.map_some, mapError_bind, OperandType.mapError_quoting_read,
        takeNegation_concat_comma, Dialect.splitComparison?_concat_comma, assembled_concat_comma]
      congr 1
      funext operandType
      exact assembled_eq_mapError ..

/-- Any number of commas may stand at the end of a rule. -/
theorem read_append_commas_eq_ok_iff
    (encoded anchorPath : String)
    (rule : MetadataRule)
    (count : Nat) :
    read (encoded ++ String.ofList (List.replicate count ',')) anchorPath = .ok rule ↔
      read encoded anchorPath = .ok rule := by
  induction count with
  | zero => simp
  | succ count step =>
      have oneMore : encoded ++ String.ofList (List.replicate (count + 1) ',') =
          encoded ++ String.ofList (List.replicate count ',') ++ "," := by
        rw [List.replicate_succ', String.ofList_append, String.append_assoc]
      rw [oneMore, read_concat_comma, mapError_eq_ok_iff, step]

end MetadataRule

/-! ## What a text lists -/

/-- These are the values that the text lists. -/
structure ListsValues (text : List Char) (values : List String) : Prop where
  separated : ∀ value ∈ values, ',' ∉ value.toList
  /-- The last value is not empty; others may be. -/
  closed : values.getLast? ≠ some ""
  empty_iff : values = [] ↔ ∀ character ∈ text, character = ','
  /-- Besides the values there are only the commas between them and after the last one. -/
  spelled : values ≠ [] → ∃ count, text =
    Text.joined ',' (values.map String.toList) ++ List.replicate count ','

theorem operands_eq_iff_listsValues
    {text : List Char}
    {values : List String} :
    operands text = values ↔ ListsValues text values := by
  constructor
  · rintro rfl
    obtain ⟨spelled, separated, closed⟩ := operands_eq_iff.mp (Eq.refl (operands text))
    exact ⟨separated, closed, operands_eq_nil_iff, fun _ => spelled⟩
  · intro lists
    by_cases empty : values = []
    · rw [empty, operands_eq_nil_iff]
      exact lists.empty_iff.mp empty
    · exact operands_eq_iff.mpr ⟨lists.spelled empty, lists.separated, lists.closed⟩

/-- Empty values stay where another value follows. -/
example : operands ",a,,b,,".toList = ["", "a", "", "b"] := by
  decide

/-- A text lists exactly one sequence of values.  Values that commas put together are listed by that
text exactly when none of them contains a comma and the last one is not empty.  Commas at the end of
a rule change nothing about what it is read as. -/
theorem drops_only_closing_commas :
    (∀ text values, operands text = values ↔ ListsValues text values) ∧
    (∀ values, operands (Text.joined ',' (values.map String.toList)) = values ↔
      values = [] ∨ (∀ value ∈ values, ',' ∉ value.toList) ∧ values.getLast? ≠ some "") ∧
    ∀ (encoded anchorPath : String) (rule : MetadataRule) (count : Nat),
      MetadataRule.read (encoded ++ String.ofList (List.replicate count ',')) anchorPath = .ok rule ↔
        MetadataRule.read encoded anchorPath = .ok rule := by
  refine ⟨fun text values => operands_eq_iff_listsValues, fun values => ?_,
    MetadataRule.read_append_commas_eq_ok_iff⟩
  rw [operands_joined_iff]
  constructor
  · exact .inr
  · rintro (rfl | readable)
    · simp
    · exact readable

end ContentAccess
