/-!
# YAML source

The characters of a YAML text, each with its place.  Line ends are all written
as `\n`, so that a line ends with one character.
-/

namespace ContentAccess
namespace Yaml

/-- A character at its place in a text. -/
structure Placed where
  character : Char
  line : Nat
  column : Nat
  /-- Number of octets before it, in UTF-8. -/
  index : Nat
  deriving Repr

/-- A text with places. -/
abbrev Source := List Placed

/-- The character may stand in a YAML text. -/
def isAllowed (character : Char) : Bool :=
  let code := character.toNat
  code == 0x09 || code == 0x0a || code == 0x0d || (0x20 ≤ code && code ≤ 0x7e) ||
    code == 0x85 || (0xa0 ≤ code && code != 0xfffe && code != 0xffff)

/-- The character ends a line. -/
def isBreak (character : Char) : Bool :=
  character == '\n' || character == '\u2028' || character == '\u2029'

/-- The character is a blank or a tab. -/
def isSpace (character : Char) : Bool :=
  character == ' ' || character == '\t'

/-- The text with every line end written as `\n`.  The two separators of lines
and paragraphs stay as they are. -/
def withPlainBreaks : List Char → List Char
  | '\r' :: '\n' :: rest => '\n' :: withPlainBreaks rest
  | '\r' :: rest => '\n' :: withPlainBreaks rest
  | '\u0085' :: rest => '\n' :: withPlainBreaks rest
  | character :: rest => character :: withPlainBreaks rest
  | [] => []

/-- The characters with their places. -/
def placedFrom (line column index : Nat) : List Char → Source
  | [] => []
  | character :: rest =>
      let after := index + character.utf8Size
      ⟨character, line, column, index⟩ ::
        if isBreak character then placedFrom (line + 1) 0 after rest
        else placedFrom line (column + 1) after rest

/-- The source of a text without forbidden characters. -/
def source? (text : String) : Option Source :=
  if text.toList.all isAllowed then some (placedFrom 0 0 0 (withPlainBreaks text.toList))
  else none

/-- The character at the front. -/
def front? : Source → Option Char
  | [] => none
  | placed :: _ => some placed.character

/-- The front of the text is this character. -/
def startsWith (character : Char) (text : Source) : Bool :=
  front? text == some character

/-- A line end is at the front. -/
def startsBreak (text : Source) : Bool :=
  (front? text).any isBreak

/-- A blank, a tab, a line end or the end of the text is at the front. -/
def startsGap (text : Source) : Bool :=
  (front? text).all fun character => isSpace character || isBreak character

/-- The column of the front. -/
def column (text : Source) : Nat :=
  match text with
  | [] => 0
  | placed :: _ => placed.column

/-- Three characters `mark` stand alone at the start of a line. -/
def startsMarker (mark : Char) : Source → Bool
  | first :: second :: third :: rest =>
      first.column == 0 && first.character == mark && second.character == mark &&
        third.character == mark && startsGap rest
  | _ => false

/-- The marker of the start or of the end of a document is at the front. -/
def startsDocumentMarker (text : Source) : Bool :=
  startsMarker '-' text || startsMarker '.' text

/-- The text from the next line end on. -/
def skipLine : Source → Source
  | [] => []
  | placed :: rest => if isBreak placed.character then placed :: rest else skipLine rest

/-- The text without blanks and tabs at the front. -/
def skipSpaces (text : Source) : Source :=
  text.dropWhile fun placed => isSpace placed.character

/-- Takes the rest of a line, which may hold a comment and nothing else. -/
def takeLineEnd? (text : Source) : Option Source :=
  let text := skipSpaces text
  let text := if startsWith '#' text then skipLine text else text
  if text.isEmpty then some [] else if startsBreak text then some (text.drop 1) else none

/-- The character may stand in the name of an anchor, a directive or a handle. -/
def isNameCharacter (character : Char) : Bool :=
  character.isAlphanum || character == '-' || character == '_'

/-- The name at the front, which may be empty, and what follows. -/
def takeName (text : Source) : String × Source :=
  let name := text.takeWhile fun placed => isNameCharacter placed.character
  (String.ofList (name.map Placed.character), text.drop name.length)

end Yaml
end ContentAccess
