import ContentAccess.Yaml.Directive

/-!
# Names in YAML documents

Directives give meaning to the handles of tags, and anchors name nodes.  Anchors
are numbered: one gets the number of names that were in use before it, and an
alias means the number that its name had last.
-/

namespace ContentAccess
namespace Yaml

/-- The names that are in use at a place of a document. -/
structure Names where
  /-- A directive gave the version. -/
  hasVersion : Bool
  /-- The handles that directives defined, with the octets they stand for. -/
  handles : List (String × List UInt8)
  /-- The numbers of anchors. -/
  anchors : List (String × Nat)

namespace Names

/-- The names before a document. -/
def empty : Names :=
  ⟨false, [], []⟩

/-- The handles that need no directive. -/
def commonHandles : List (String × List UInt8) :=
  [("!", Tag.bare.octets), ("!!", (Tag.common "").octets)]

/-- Follows a directive.  The version has to be a known one, and neither the
version nor a handle may be given twice. -/
def define? (names : Names) : Directive → Option Names
  | .version major minor =>
      if names.hasVersion || major ≠ 1 || (minor ≠ 1 && minor ≠ 2) then none
      else some { names with hasVersion := true }
  | .handle name start =>
      if (names.handles.lookup name).isSome then none
      else some { names with handles := (name, start) :: names.handles }

/-- The tag in full. -/
def tag? (names : Names) (tag : WrittenTag) : Option Tag :=
  match tag.handle with
  | none => some ⟨tag.rest⟩
  | some handle =>
      ((names.handles ++ commonHandles).lookup handle).map fun start => ⟨start ++ tag.rest⟩

/-- The number of an anchor of this name, and the names from there on. -/
def anchor (names : Names) (name : String) : Nat × Names :=
  let number := names.anchors.length
  let others := names.anchors.filter fun entry => entry.1 != name
  (number, { names with anchors := (name, number) :: others })

/-- The number that the name of an alias has. -/
def number? (names : Names) (name : String) : Option Nat :=
  names.anchors.lookup name

end Names
end Yaml
end ContentAccess
