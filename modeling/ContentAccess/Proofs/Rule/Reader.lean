import ContentAccess.Proofs.Outcome
import ContentAccess.Rule.Reader

/-!
# Reading by stages

Reading a rule succeeds exactly when each stage finds its part in what the stage
before it left over.
-/

namespace ContentAccess

/-- The access is taken off up to the first separator. -/
theorem readAccess_eq_ok_iff
    {dialect : Dialect}
    {encoded : String}
    {body rest : List Char}
    {access : Access} :
    readAccess dialect encoded body = .ok (access, rest) ↔
      ∃ word, Text.splitFirst? dialect.separator body = some (word, rest) ∧
        Access.read (String.ofList word) = .ok access := by
  unfold readAccess
  cases Text.splitFirst? dialect.separator body with
  | none => simp
  | some parts =>
      obtain ⟨word, following⟩ := parts
      simp only [bind_eq_ok_iff, pure_eq_ok_iff, Prod.mk.injEq, Option.some.injEq]
      constructor
      · rintro ⟨given, read, rfl, rfl⟩
        exact ⟨word, ⟨rfl, rfl⟩, read⟩
      · rintro ⟨_, ⟨rfl, rfl⟩, read⟩
        exact ⟨access, read, rfl, rfl⟩

/-- No access is taken off when there is no separator, or no access before it. -/
theorem readAccess_eq_error_iff
    {dialect : Dialect}
    {encoded : String}
    {body : List Char}
    {error : AccessError} :
    readAccess dialect encoded body = .error error ↔
      (Text.splitFirst? dialect.separator body = none ∧
        .malformedRule encoded .accessSeparator = error) ∨
      ∃ word rest, Text.splitFirst? dialect.separator body = some (word, rest) ∧
        Access.read (String.ofList word) = .error error := by
  unfold readAccess
  cases Text.splitFirst? dialect.separator body with
  | none => simp [throw_eq_error_iff]
  | some parts =>
      obtain ⟨word, following⟩ := parts
      simp only [bind_eq_error_iff, pure_ne_error, and_false, exists_false, or_false,
        reduceCtorEq, false_and, false_or, Option.some.injEq, Prod.mk.injEq]
      constructor
      · intro unread
        exact ⟨word, following, ⟨rfl, rfl⟩, unread⟩
      · rintro ⟨_, _, ⟨rfl, rfl⟩, unread⟩
        exact unread

namespace MetadataRule

/-- A metadata rule is read when its dialect, its access, its operand type, its
negation mark, its comparison and its operands are found one after another. -/
theorem read_eq_ok_iff
    {encoded anchorPath : String}
    {rule : MetadataRule} :
    read encoded anchorPath = .ok rule ↔
      ∃ dialect body accessWord rest typeWord condition expression property listed,
        Dialect.recognize encoded = .ok (dialect, body) ∧
        Text.splitFirst? dialect.separator body = some (accessWord, rest) ∧
        Access.read (String.ofList accessWord) = .ok rule.access ∧
        Text.splitFirst? dialect.typeSeparator rest = some (typeWord, condition) ∧
        OperandType.read (String.ofList typeWord) = .ok rule.operandType ∧
        takeNegation condition = (rule.negated, expression) ∧
        dialect.splitComparison? expression = some (property, rule.comparison, listed) ∧
        property ≠ [] ∧ operands listed ≠ [] ∧ rule.property = String.ofList property ∧
        rule.values = operands listed ∧ rule.anchorPath = anchorPath := by
  unfold read
  simp only [bind_eq_ok_iff, Prod.exists, readAccess_eq_ok_iff]
  constructor
  · rintro ⟨dialect, body, recognized, access, rest, ⟨accessWord, accessCut, accessRead⟩, read⟩
    cases typeCut : Text.splitFirst? dialect.typeSeparator rest with
    | none => simp [typeCut] at read
    | some parts =>
        obtain ⟨typeWord, condition⟩ := parts
        simp only [typeCut, bind_eq_ok_iff] at read
        obtain ⟨operandType, typeRead, read⟩ := read
        cases negation : takeNegation condition with
        | mk negated expression =>
            rw [negation] at read
            cases cut : dialect.splitComparison? expression with
            | none => simp [cut] at read
            | some found =>
                obtain ⟨property, comparison, listed⟩ := found
                by_cases unnamed : property = []
                · simp [cut, unnamed] at read
                · by_cases unvalued : operands listed = []
                  · simp only [cut, List.isEmpty_iff, unnamed, unvalued, if_true, if_false,
                      bind_eq_ok_iff, throw_ne_ok, false_and, exists_false] at read
                  · simp only [cut, List.isEmpty_iff, unnamed, unvalued, if_false,
                      pure_eq_ok_iff] at read
                    subst read
                    exact ⟨dialect, body, accessWord, rest, typeWord, condition, expression,
                      property, listed, recognized, accessCut, accessRead, typeCut, typeRead,
                      negation, cut, unnamed, unvalued, rfl, rfl, rfl⟩
  · rintro ⟨dialect, body, accessWord, rest, typeWord, condition, expression, property, listed,
      recognized, accessCut, accessRead, typeCut, typeRead, negation, cut, named, valued,
      propertyRead, valuesRead, rfl⟩
    refine ⟨dialect, body, recognized, rule.access, rest, ⟨accessWord, accessCut, accessRead⟩, ?_⟩
    simp only [typeCut, bind_eq_ok_iff]
    refine ⟨rule.operandType, typeRead, ?_⟩
    simp only [negation, cut, List.isEmpty_iff, named, valued, if_false, pure_eq_ok_iff]
    rw [← propertyRead, ← valuesRead]

end MetadataRule

namespace LevelRule

/-- A level rule is read when its dialect, its access, its negation mark, its
comparison and its level are found one after another. -/
theorem read_eq_ok_iff
    {encoded anchorPath : String}
    {rule : LevelRule} :
    read encoded anchorPath = .ok rule ↔
      ∃ dialect body accessWord rest condition written,
        Dialect.recognize encoded = .ok (dialect, body) ∧
        Text.splitFirst? dialect.separator body = some (accessWord, rest) ∧
        Access.read (String.ofList accessWord) = .ok rule.access ∧
        takeNegation rest = (rule.negated, condition) ∧
        dialect.leadingComparison? (expression dialect condition) =
          some (rule.comparison, written) ∧
        Text.word32? (Text.trimmed written) = some rule.level ∧
        rule.anchorPath = anchorPath := by
  unfold read
  simp only [bind_eq_ok_iff, Prod.exists, readAccess_eq_ok_iff]
  constructor
  · rintro ⟨dialect, body, recognized, access, rest, ⟨accessWord, accessCut, accessRead⟩, read⟩
    cases negation : takeNegation rest with
    | mk negated condition =>
        rw [negation] at read
        cases leading : dialect.leadingComparison? (expression dialect condition) with
        | none => simp [leading] at read
        | some found =>
            obtain ⟨comparison, written⟩ := found
            cases numeral : Text.word32? (Text.trimmed written) with
            | none => simp [leading, numeral] at read
            | some level =>
                simp only [leading, numeral, pure_eq_ok_iff] at read
                subst read
                exact ⟨dialect, body, accessWord, rest, condition, written, recognized,
                  accessCut, accessRead, negation, leading, numeral, rfl⟩
  · rintro ⟨dialect, body, accessWord, rest, condition, written, recognized, accessCut,
      accessRead, negation, leading, numeral, rfl⟩
    refine ⟨dialect, body, recognized, rule.access, rest, ⟨accessWord, accessCut, accessRead⟩, ?_⟩
    simp only [negation, leading, numeral, pure_eq_ok_iff]

end LevelRule
end ContentAccess
