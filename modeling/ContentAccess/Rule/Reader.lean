import ContentAccess.Rule.Basic
import ContentAccess.Rule.Dialect
import ContentAccess.Text.Blank

/-!
# Reading rules

Both readers work from the front and report the first part that is wrong.
-/

namespace ContentAccess

/-- Takes the access off the front of a rule. -/
def readAccess (dialect : Dialect) (encoded : String) (body : List Char) :
    Except AccessError (Access × List Char) := do
  match Text.splitFirst? dialect.separator body with
  | none => throw (.malformedRule encoded .accessSeparator)
  | some (word, rest) => return (← Access.read (String.ofList word), rest)

/-- Takes an exclamation mark off the front, and says whether there was one. -/
def takeNegation : List Char → Bool × List Char
  | '!' :: rest => (true, rest)
  | text => (false, text)

/-- The operands between commas; empty operands at the end do not count. -/
def operands (text : List Char) : List String :=
  (Text.dropEnding List.isEmpty (Text.pieces ',' text)).map String.ofList

namespace MetadataRule

/-- Reads a metadata rule declared on `anchorPath`. -/
def read (encoded anchorPath : String) : Except AccessError MetadataRule := do
  let (dialect, body) ← Dialect.recognize encoded
  let (access, rest) ← readAccess dialect encoded body
  match Text.splitFirst? dialect.typeSeparator rest with
  | none => throw (.malformedRule encoded .typeSeparator)
  | some (word, condition) =>
      let operandType ← OperandType.read (String.ofList word)
      let (negated, expression) := takeNegation condition
      match dialect.splitComparison? expression with
      | none => throw (.malformedRule encoded .operator)
      | some (property, comparison, listed) =>
          if property.isEmpty then
            throw (.malformedRule encoded .propertyName)
          let values := operands listed
          if values.isEmpty then
            throw (.malformedRule encoded .values)
          return {
            access, negated, operandType, comparison, values, anchorPath
            property := String.ofList property }

end MetadataRule

namespace LevelRule

/-- The operator and level of a rule.  In the legacy dialect the separator after
the access also opens the operator, so an underscore is put back. -/
def expression (dialect : Dialect) (text : List Char) : List Char :=
  match dialect, text with
  | .compact, _ => text
  | .legacy, '_' :: _ => text
  | .legacy, _ => '_' :: text

/-- Reads a level rule declared on `anchorPath`. -/
def read (encoded anchorPath : String) : Except AccessError LevelRule := do
  let (dialect, body) ← Dialect.recognize encoded
  let (access, rest) ← readAccess dialect encoded body
  let (negated, condition) := takeNegation rest
  match dialect.leadingComparison? (expression dialect condition) with
  | none => throw (.malformedRule encoded .operator)
  | some (comparison, written) =>
      match Text.word32? (Text.trimmed written) with
      | none => throw (.invalidLevel (String.ofList written))
      | some level => return { access, negated, comparison, level, anchorPath }

end LevelRule
end ContentAccess
