import ContentAccess.Rule.Vocabulary
import ContentAccess.Text.Numeral

/-!
# Dialects of the rule language

The legacy dialect separates the parts of a rule by underscores and writes
comparisons as words.  The compact dialect uses `#`, `$` and symbols.  A header
such as `v2:` names the dialect; without one, the first separator tells it.
-/

namespace ContentAccess

/-- A way of writing rules. -/
inductive Dialect where
  | legacy
  | compact
  deriving DecidableEq, Repr

namespace Dialect

/-- The dialect that rules are shown in. -/
def current : Dialect :=
  compact

/-- The written name. -/
def name : Dialect → String
  | legacy => "legacy"
  | compact => "compact"

/-- The number in the header. -/
def version : Dialect → Nat
  | legacy => 1
  | compact => 2

/-- The dialect with this number. -/
def ofVersion? : Nat → Option Dialect
  | 1 => some legacy
  | 2 => some compact
  | _ => none

/-- The dialect of this exact name. -/
def ofName? (text : String) : Option Dialect :=
  [legacy, compact].find? fun dialect => dialect.name == text

/-- The character after the access of a rule. -/
def separator : Dialect → Char
  | legacy => '_'
  | compact => '#'

/-- The character after the operand type of a metadata rule. -/
def typeSeparator : Dialect → Char
  | legacy => '_'
  | compact => '$'

/-- How the dialect writes a comparison. -/
def token : Dialect → Comparison → String
  | legacy, .equal => "_EQUALS_"
  | legacy, .atLeast => "_GREATER_THAN_EQUALS_"
  | legacy, .atMost => "_LESS_THAN_EQUALS_"
  | legacy, .greater => "_GREATER_THEN_"
  | legacy, .less => "_LESS_THEN_"
  | compact, .equal => "=="
  | compact, .atLeast => ">="
  | compact, .atMost => "<="
  | compact, .greater => ">"
  | compact, .less => "<"

/-- All spellings that are read as a comparison; of two spellings where one
begins with the other, the longer comes first. -/
def spellings (dialect : Dialect) : List (List Char × Comparison) :=
  let written := [.atLeast, .atMost, .equal, .greater, .less].map fun comparison =>
    ((dialect.token comparison).toList, comparison)
  match dialect with
  | legacy => written
  | compact => written ++ [(['='], .equal)]

/-- The comparison whose longest spelling stands at the front, and what follows. -/
def leadingComparison? (dialect : Dialect) (text : List Char) :
    Option (Comparison × List Char) :=
  dialect.spellings.findSome? fun (spelling, comparison) =>
    (Text.stripStart? spelling text).map fun rest => (comparison, rest)

/-- Cuts at the earliest comparison: what stands before it, the comparison, and
what follows. -/
def splitComparison? (dialect : Dialect) :
    List Char → Option (List Char × Comparison × List Char)
  | [] => none
  | character :: rest =>
      match dialect.leadingComparison? (character :: rest) with
      | some (comparison, following) => some ([], comparison, following)
      | none =>
          (dialect.splitComparison? rest).map fun (before, found) => (character :: before, found)

/-- The digits of a version header and the text after it. -/
def header? : List Char → Option (List Char × List Char)
  | 'v' :: rest =>
      match Text.splitFirst? ':' rest with
      | some (digits, body) => if Text.isDigits digits then some (digits, body) else none
      | none => none
  | _ => none

/-- The dialect whose separator comes first in the text. -/
def infer? (text : List Char) : Option Dialect :=
  match text.find? fun character => character == '#' || character == '_' with
  | some character => if character = '#' then some compact else some legacy
  | none => none

/-- The dialect of an encoded rule, and the rule without its header. -/
def recognize (encoded : String) : Except AccessError (Dialect × List Char) :=
  match header? encoded.toList with
  | some (digits, body) =>
      match (Text.word32? digits).bind fun number => ofVersion? number.toNat with
      | some dialect => .ok (dialect, body)
      | none => .error (.unsupportedDialect (String.ofList ('v' :: digits)))
  | none =>
      match infer? encoded.toList with
      | some dialect => .ok (dialect, encoded.toList)
      | none => .error (.malformedRule encoded .accessSeparator)

@[simp] theorem ofVersion?_version (dialect : Dialect) :
    ofVersion? dialect.version = some dialect := by
  cases dialect <;> rfl

@[simp] theorem splitComparison?_nil (dialect : Dialect) :
    dialect.splitComparison? [] = none := rfl

end Dialect
end ContentAccess
