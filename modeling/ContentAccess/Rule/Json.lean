import ContentAccess.Json.Value
import ContentAccess.Rule.Basic

/-!
# Rules as JSON

A rule as a JSON record.  Every field is needed, and other members are skipped.
-/

namespace ContentAccess

/-- The access of this name. -/
def Access.ofJson? (json : Json) : Option Access :=
  json.choice?.bind ofName?

/-- The operand type of this name. -/
def OperandType.ofJson? (json : Json) : Option OperandType :=
  json.choice?.bind ofName?

/-- The comparison of this name. -/
def Comparison.ofJson? (json : Json) : Option Comparison :=
  json.choice?.bind ofName?

/-- Reads a metadata rule from a record. -/
def MetadataRule.ofJson? (json : Json) : Option MetadataRule := do
  match ← json.fields?
      ["access", "negate", "value_type", "operator", "property", "values", "anchor_path"] with
  | [some access, some negated, some operandType, some comparison, some property, some values,
      some anchorPath] =>
      return {
        access := ← Access.ofJson? access
        negated := ← negated.boolean?
        operandType := ← OperandType.ofJson? operandType
        comparison := ← Comparison.ofJson? comparison
        property := ← property.text?
        values := ← values.texts?
        anchorPath := ← anchorPath.text? }
  | _ => none

/-- Reads a level rule from a record. -/
def LevelRule.ofJson? (json : Json) : Option LevelRule := do
  match ← json.fields? ["access", "negate", "operator", "level", "anchor_path"] with
  | [some access, some negated, some comparison, some level, some anchorPath] =>
      return {
        access := ← Access.ofJson? access
        negated := ← negated.boolean?
        comparison := ← Comparison.ofJson? comparison
        level := ← level.word32?
        anchorPath := ← anchorPath.text? }
  | _ => none

end ContentAccess
