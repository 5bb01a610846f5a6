import ContentAccess.Text.Numeral
import ContentAccess.Yaml.Tag

/-!
# YAML directives

A line before a document that starts with a percent sign gives the version of the
language or says what a handle of tags stands for.
-/

namespace ContentAccess
namespace Yaml

/-- What a line before a document says. -/
inductive Directive where
  | version (major minor : Nat)
  | handle (name : String) (start : List UInt8)
  deriving DecidableEq, Repr

/-- Takes one to nine digits off the front. -/
def takeVersionPart? (text : Source) : Option (Nat × Source) :=
  let digits := text.takeWhile fun placed => placed.character.isDigit
  if digits.isEmpty || 9 < digits.length then none
  else some (Text.decimalValue (digits.map Placed.character), text.drop digits.length)

/-- Takes a version off the front. -/
def takeVersion? (text : Source) : Option (Directive × Source) := do
  let (major, rest) ← takeVersionPart? text
  if !startsWith '.' rest then none
  let (minor, rest) ← takeVersionPart? (rest.drop 1)
  return (.version major minor, rest)

/-- Takes a handle off the front: a mark, alone or with a name between it and
another mark. -/
def takeHandle? (text : Source) : Option (String × Source) :=
  if !startsWith '!' text then none
  else
    let (name, rest) := takeName (text.drop 1)
    if startsWith '!' rest then some ("!" ++ name ++ "!", rest.drop 1)
    else if name.isEmpty then some ("!", rest)
    else none

/-- Takes a handle and the address it stands for off the front. -/
def takeHandleMeaning? (text : Source) : Option (Directive × Source) := do
  let (name, rest) ← takeHandle? text
  if !(front? rest).any isSpace then none
  let (start, rest) ← takeSomeAddress? true (skipSpaces rest)
  if !startsGap rest then none
  return (.handle name start, rest)

/-- Takes a directive and the rest of its line off the front, after the percent
sign. -/
def takeDirective? (text : Source) : Option (Directive × Source) := do
  let (name, rest) := takeName text
  if !startsGap rest then none
  let (directive, rest) ←
    if name == "YAML" then takeVersion? (skipSpaces rest)
    else if name == "TAG" then takeHandleMeaning? (skipSpaces rest)
    else none
  return (directive, ← takeLineEnd? rest)

end Yaml
end ContentAccess
