import ContentAccess.Layout.Basic
import ContentAccess.Yaml.Decode
import ContentAccess.Yaml.Writer

/-!
# Layouts as YAML
-/

namespace ContentAccess
namespace Layout

/-- Reads a layout from a mapping; missing fields are as in the standard layout. -/
def ofYaml (node : Yaml) : Yaml.Reading Layout :=
  node.readFields fieldNames (ofFields Yaml.readText Yaml.readTexts)

/-- Reads a usable layout from YAML text. -/
def readYaml (text : String) : Except AccessError Layout :=
  match Yaml.Reading.ofText? ofYaml text with
  | some layout => layout.checked
  | none => .error .unreadableYaml

/-- The layout as YAML text. -/
def toYaml (layout : Layout) : String :=
  String.ofList <|
    Yaml.textEntry "repository_root" layout.root ++
    Yaml.textEntry "leaf_type" layout.leafType ++
    Yaml.listEntry "container_types" layout.containerTypes ++
    Yaml.textEntry "content_child" layout.contentName ++
    Yaml.textEntry "metadata_child" layout.metadataName ++
    Yaml.textEntry "date_format" layout.dateFormat

end Layout
end ContentAccess
