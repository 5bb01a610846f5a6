import ContentAccess.Content.Snapshot
import ContentAccess.Error
import ContentAccess.Yaml.Decode

/-!
# Snapshots as YAML

A node is a mapping with a name, a type marker, properties and children, each of
which may be missing.
-/

namespace ContentAccess

/-- Reads a property value from a scalar that means a text or a sequence of
such scalars. -/
def PropertyValue.ofYaml (node : Yaml) : Yaml.Reading PropertyValue := do
  match ← node.content with
  | .sequence tag items =>
      if tag.any Yaml.Tag.isLocal then failure
      return multiple (← Yaml.Reading.inside (items.mapM Yaml.readMeantText))
  | content => return single (← content.readMeantText)

/-- Reads properties from a mapping; of two entries of one name the later counts. -/
def Properties.ofYaml (node : Yaml) : Yaml.Reading Properties :=
  return ofList (← node.readEntries PropertyValue.ofYaml)

namespace Snapshot

/-- Reads a snapshot from a mapping; missing fields are empty.  At most `levels`
snapshots may be inside one another. -/
def ofYaml (levels : Nat) (node : Yaml) : Yaml.Reading Snapshot :=
  match levels with
  | 0 => failure
  | levels + 1 =>
      node.readFields fieldNames fun fields =>
        match fields with
        | [name, typeMarker, properties, children] => return {
            name := ← name.elim (pure "") Yaml.readText
            typeMarker := ← typeMarker.elim (pure none) Yaml.readOptionalText
            properties := ← properties.elim (pure .empty) Properties.ofYaml
            children := ← children.elim (pure []) (Yaml.readItems (ofYaml levels)) }
        | _ => failure

/-- Reads a snapshot from YAML text.  Every snapshot takes up a level of nesting,
so that the limit on nesting is reached first. -/
def readYaml (text : String) : Except AccessError Snapshot :=
  match Yaml.Reading.ofText? (ofYaml (Yaml.depthLimit + 1)) text with
  | some snapshot => .ok snapshot
  | none => .error .unreadableYaml

end Snapshot
end ContentAccess
