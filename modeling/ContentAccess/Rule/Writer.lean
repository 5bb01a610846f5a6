import ContentAccess.Rule.Basic
import ContentAccess.Rule.Dialect

/-!
# Writing rules

A rule is written without a version header.  Rules show themselves in the
current dialect.
-/

namespace ContentAccess

/-- The mark of a negated rule. -/
def negationMark (negated : Bool) : List Char :=
  if negated then ['!'] else []

namespace MetadataRule

/-- The characters of a rule in a dialect. -/
def characters (dialect : Dialect) (rule : MetadataRule) : List Char :=
  rule.access.name.toList ++ dialect.separator ::
    rule.operandType.name.toList ++ dialect.typeSeparator ::
    negationMark rule.negated ++ rule.property.toList ++
    (dialect.token rule.comparison).toList ++
    Text.joined ',' (rule.values.map String.toList)

/-- The rule written in a dialect. -/
def write (dialect : Dialect) (rule : MetadataRule) : String :=
  String.ofList (rule.characters dialect)

instance : ToString MetadataRule where
  toString := write .current

end MetadataRule

namespace LevelRule

/-- The characters of a rule in a dialect.  The underscore that opens a legacy
operator is also the separator after the access, so a negation mark takes its
place inside the operator. -/
def characters (dialect : Dialect) (rule : LevelRule) : List Char :=
  let token := (dialect.token rule.comparison).toList
  let level := Text.decimalDigits rule.level.toNat
  match dialect, rule.negated with
  | .legacy, false => rule.access.name.toList ++ token ++ level
  | .legacy, true =>
      rule.access.name.toList ++ '_' :: '!' :: token.dropWhile (· == '_') ++ level
  | .compact, negated =>
      rule.access.name.toList ++ '#' :: negationMark negated ++ token ++ level

/-- The rule written in a dialect. -/
def write (dialect : Dialect) (rule : LevelRule) : String :=
  String.ofList (rule.characters dialect)

instance : ToString LevelRule where
  toString := write .current

end LevelRule
end ContentAccess
