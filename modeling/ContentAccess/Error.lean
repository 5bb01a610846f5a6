import ContentAccess.Text.Quoted

/-!
# Errors

What can be wrong with a rule text, a layout or a tree that is read in.  Each
error is a cause; `AccessError.message` is the only place that words it.
-/

namespace ContentAccess

/-- The part that an encoded rule lacks. -/
inductive RuleDefect where
  | accessSeparator
  | typeSeparator
  | operator
  | propertyName
  | values
  deriving DecidableEq, Repr

/-- What makes a layout unusable. -/
inductive LayoutFault where
  | relativeRoot (root : String)
  | missingLeafType
  | missingContainerType
  | missingMetadataNames
  deriving DecidableEq, Repr

/-- Why a rule, a layout or a tree cannot be had from its written form. -/
inductive AccessError where
  /-- The encoded rule lacks a part. -/
  | malformedRule (encoded : String) (defect : RuleDefect)
  /-- The version header names no known dialect. -/
  | unsupportedDialect (version : String)
  /-- The first word of a rule is no access. -/
  | unknownAccess (text : String)
  /-- The second word of a metadata rule is no operand type. -/
  | unknownOperandType (text : String)
  /-- The operand of a level rule is no level. -/
  | invalidLevel (text : String)
  /-- The layout is read but cannot be used. -/
  | invalidLayout (fault : LayoutFault)
  /-- A node below `parent` has a name that no path can spell. -/
  | invalidName (name : String) (parent : String)
  /-- The text is not YAML of the expected shape. -/
  | unreadableYaml
  /-- The text or value is not JSON of the expected shape. -/
  | unreadableJson
  deriving DecidableEq, Repr

namespace RuleDefect

/-- The defect in words. -/
def description : RuleDefect → String
  | accessSeparator => "missing access type separator"
  | typeSeparator => "missing value type separator"
  | operator => "missing operator"
  | propertyName => "missing property name"
  | values => "missing values"

end RuleDefect

namespace LayoutFault

/-- The fault in words. -/
def description : LayoutFault → String
  | relativeRoot root => "repository_root must be an absolute path, got '" ++ root ++ "'"
  | missingLeafType => "leaf_type is required"
  | missingContainerType => "at least one container type is required"
  | missingMetadataNames => "content_child and metadata_child are required"

end LayoutFault

namespace AccessError

/-- The error in words. -/
def message : AccessError → String
  | malformedRule encoded defect =>
      "Invalid rule syntax in '" ++ encoded ++ "': " ++ defect.description
  | unsupportedDialect version => "Unsupported rule encoding: " ++ version
  | unknownAccess text => "Unknown access type: " ++ text
  | unknownOperandType text => "Unknown value type: " ++ text
  | invalidLevel text => "Invalid depth level: " ++ text
  | invalidLayout fault => "Configuration error: " ++ fault.description
  | invalidName name parent =>
      "Failed to parse: Invalid node name " ++ Text.quoted name ++ " under " ++ parent
  | unreadableYaml => "Failed to parse: not YAML of the expected shape"
  | unreadableJson => "Serialization error: not JSON of the expected shape"

end AccessError

end ContentAccess
