import ContentAccess.Yaml.Schema
import ContentAccess.Yaml.Source

/-!
# Writing YAML scalars

A text is written plain where it reads back as the same text, as a block when it
has several lines, and else between quotes: single ones, unless it holds
characters that only an escape can show.  Further lines are indented by two.
-/

namespace ContentAccess
namespace Yaml

/-- How a scalar is written. -/
inductive ScalarStyle where
  | plain
  | singleQuoted
  | doubleQuoted
  | block
  deriving DecidableEq, Repr

/-- The character can be written as it is. -/
def isPrintable (character : Char) : Bool :=
  let code := character.toNat
  code == 0x0a || (0x20 ≤ code && code ≤ 0x7e) ||
    (0xa0 ≤ code && code != 0xfeff && code != 0xfffe && code != 0xffff)

/-- The text would be taken for something else if it were written plain. -/
def isAmbiguous (text : String) : Bool :=
  !isText text || isZeroPadded text.toList

/-- A character that `first` accepts has one behind it that `second` accepts. -/
def hasNeighbours (first second : Char → Bool) : List Char → Bool
  | left :: right :: rest =>
      (first left && second right) || hasNeighbours first second (right :: rest)
  | _ => false

/-- A blank, a tab or a line end. -/
def isGap (character : Char) : Bool :=
  isSpace character || isBreak character

/-- The text starts with a character that has a meaning of its own there. -/
def startsWithIndicator : List Char → Bool
  | [] => false
  | character :: rest =>
      "#,[]\x7b\x7d&*!|>'\"%@\x60".toList.contains character ||
        ((character == '?' || character == ':' || character == '-') && rest.head?.all isGap)

/-- The text holds a colon that would end a key or a hash that would start a
comment, or looks like a marker between documents. -/
def holdsIndicator (text : List Char) : Bool :=
  hasNeighbours (· == ':') isGap text || text.getLast? == some ':' ||
    hasNeighbours isGap (· == '#') text ||
    text.take 3 == ['-', '-', '-'] || text.take 3 == ['.', '.', '.']

/-- The text can be written plain. -/
def allowsPlain (text : List Char) : Bool :=
  text.all (fun character => isPrintable character && !isBreak character) &&
    text.head? != some ' ' && text.getLast? != some ' ' &&
    !startsWithIndicator text && !holdsIndicator text

/-- The text can be written between single quotes. -/
def allowsSingleQuotes (text : List Char) : Bool :=
  text.all isPrintable && !hasNeighbours (· == ' ') isBreak text &&
    !hasNeighbours isBreak (· == ' ') text

/-- The text can be written as a block. -/
def allowsBlock (text : List Char) : Bool :=
  text.all isPrintable && !hasNeighbours (· == ' ') isBreak text && text.getLast? != some ' '

/-- How a text is written. -/
def styleOf (text : String) : ScalarStyle :=
  let characters := text.toList
  if characters.contains '\n' then
    if allowsBlock characters then .block else .doubleQuoted
  else if !isAmbiguous text && allowsPlain characters then .plain
  else if allowsSingleQuotes characters then .singleQuoted
  else .doubleQuoted

/-- The digits of a number in base sixteen, in upper case, as many as `width`
says. -/
def paddedHex (width value : Nat) : List Char :=
  let digits := (Nat.toDigits 16 value).map Char.toUpper
  List.replicate (width - digits.length) '0' ++ digits

/-- A character between double quotes. -/
def doubleQuotedCharacter (character : Char) : List Char :=
  match character with
  | '\x00' => ['\\', '0']
  | '\x07' => ['\\', 'a']
  | '\x08' => ['\\', 'b']
  | '\t' => ['\\', 't']
  | '\n' => ['\\', 'n']
  | '\x0b' => ['\\', 'v']
  | '\x0c' => ['\\', 'f']
  | '\r' => ['\\', 'r']
  | '\x1b' => ['\\', 'e']
  | '"' => ['\\', '"']
  | '\\' => ['\\', '\\']
  | '\u0085' => ['\\', 'N']
  | '\u2028' => ['\\', 'L']
  | '\u2029' => ['\\', 'P']
  | character =>
      let code := character.toNat
      if isPrintable character then [character]
      else if code ≤ 0xff then '\\' :: 'x' :: paddedHex 2 code
      else if code ≤ 0xffff then '\\' :: 'u' :: paddedHex 4 code
      else '\\' :: 'U' :: paddedHex 8 code

/-- The text with two blanks at the start of every line that is not empty, if
`atStart` says that a line starts at the front. -/
def indented (atStart : Bool) : List Char → List Char
  | [] => []
  | character :: rest =>
      if isBreak character then character :: indented true rest
      else if atStart then ' ' :: ' ' :: character :: indented false rest
      else character :: indented false rest

/-- The text between single quotes, where a quote is written twice. -/
def singleQuoted (text : List Char) : List Char :=
  let body := text.flatMap fun character =>
    if character = '\'' then ['\'', '\''] else [character]
  let closing := if text.getLast?.any isBreak then [' ', ' ', '\''] else ['\'']
  '\'' :: indented false body ++ closing

/-- The indicators of a block: indentation, if the text starts with white space,
and what becomes of the line ends at its end. -/
def blockHeader (text : List Char) : List Char :=
  let indentation :=
    if text.head?.any fun character => character == ' ' || isBreak character then ['2'] else []
  let chomping :=
    match text.reverse with
    | [] => ['-']
    | [last] => if isBreak last then ['+'] else ['-']
    | last :: previous :: _ =>
        if !isBreak last then ['-'] else if isBreak previous then ['+'] else []
  '|' :: indentation ++ chomping

/-- The text as a block of lines; it ends with a line end. -/
def block (text : List Char) : List Char :=
  let lines := blockHeader text ++ '\n' :: indented true text
  if text.getLast?.any isBreak then lines else lines ++ ['\n']

/-- A scalar and the end of its line. -/
def scalarLine (text : String) : List Char :=
  let characters := text.toList
  match styleOf text with
  | .plain => characters ++ ['\n']
  | .singleQuoted => singleQuoted characters ++ ['\n']
  | .doubleQuoted => '"' :: characters.flatMap doubleQuotedCharacter ++ ['"', '\n']
  | .block => block characters

/-- An entry of a mapping whose value is a text. -/
def textEntry (key text : String) : List Char :=
  key.toList ++ ':' :: ' ' :: scalarLine text

/-- An entry of a mapping whose value is a list of texts. -/
def listEntry (key : String) (texts : List String) : List Char :=
  if texts.isEmpty then
    key.toList ++ ": []\n".toList
  else
    key.toList ++ ':' :: '\n' :: texts.flatMap fun text => '-' :: ' ' :: scalarLine text

end Yaml
end ContentAccess
