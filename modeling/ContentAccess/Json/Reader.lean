import ContentAccess.Json.Value
import ContentAccess.Text.Numeral

/-!
# Reading JSON text

The reader takes strict JSON.  Two things are well formed and yet cannot be
read: a string with an unpaired surrogate escape, and an array or object that
lies too deep.  Both become `Json.unreadable`, so that a reader that skips the
value does not mind.
-/

namespace ContentAccess
namespace Json

/-- The largest number of arrays and objects inside one another. -/
def depthLimit : Nat := 127

/-- The text after blanks, tabs and line ends. -/
def skipSpace (text : List Char) : List Char :=
  text.dropWhile fun character =>
    character == ' ' || character == '\t' || character == '\n' || character == '\r'

/-- The value of a hexadecimal digit. -/
def hexDigit? (digit : Char) : Option Nat :=
  if digit.isDigit then some (digit.toNat - '0'.toNat)
  else if 'a' ≤ digit ∧ digit ≤ 'f' then some (digit.toNat - 'a'.toNat + 10)
  else if 'A' ≤ digit ∧ digit ≤ 'F' then some (digit.toNat - 'A'.toNat + 10)
  else none

/-- The value of a run of hexadecimal digits. -/
def hexValue? (digits : List Char) : Option Nat :=
  digits.foldlM (fun value digit => (hexDigit? digit).map (16 * value + ·)) 0

/-- The character that a backslash and this letter stand for. -/
def escaped? : Char → Option Char
  | '"' => some '"'
  | '\\' => some '\\'
  | '/' => some '/'
  | 'b' => some '\x08'
  | 'f' => some '\x0c'
  | 'n' => some '\n'
  | 'r' => some '\r'
  | 't' => some '\t'
  | _ => none

/-- The code units of a string up to its closing quote, and the text after it.
An escape by number gives its unit as it is; a surrogate is not yet paired. -/
def units? : List Char → Option (List Nat × List Char)
  | [] => none
  | '"' :: rest => some ([], rest)
  | '\\' :: 'u' :: first :: second :: third :: fourth :: rest => do
      let unit ← hexValue? [first, second, third, fourth]
      let (units, following) ← units? rest
      return (unit :: units, following)
  | '\\' :: letter :: rest => do
      let character ← escaped? letter
      let (units, following) ← units? rest
      return (character.toNat :: units, following)
  | character :: rest =>
      if character.toNat < 0x20 then
        none
      else do
        let (units, following) ← units? rest
        return (character.toNat :: units, following)

/-- The unit is the first half of a surrogate pair. -/
def isLeading (unit : Nat) : Bool :=
  0xd800 ≤ unit && unit < 0xdc00

/-- The unit is the second half of a surrogate pair. -/
def isTrailing (unit : Nat) : Bool :=
  0xdc00 ≤ unit && unit < 0xe000

/-- The characters of code units; an unpaired surrogate gives none. -/
def characters? : List Nat → Option (List Char)
  | [] => some []
  | leading :: trailing :: rest =>
      if isLeading leading then
        if isTrailing trailing then
          (characters? rest).map
            (Char.ofNat (0x10000 + (leading - 0xd800) * 0x400 + (trailing - 0xdc00)) :: ·)
        else
          none
      else if isTrailing leading then
        none
      else
        (characters? (trailing :: rest)).map (Char.ofNat leading :: ·)
  | [unit] => if isLeading unit || isTrailing unit then none else some [Char.ofNat unit]

/-- A string after its opening quote: its text, unless it cannot be read, and
what follows. -/
def stringAfterQuote? (text : List Char) : Option (Option String × List Char) := do
  let (units, following) ← units? text
  return ((characters? units).map String.ofList, following)

/-- A number: whole digits, then optionally a fraction and an exponent. -/
def number? (text : List Char) : Option (Json × List Char) := do
  let (negative, text) := match text with
    | '-' :: rest => (true, rest)
    | _ => (false, text)
  let whole := text.takeWhile Char.isDigit
  let text := text.dropWhile Char.isDigit
  if whole.isEmpty || (whole.head? == some '0' && 1 < whole.length) then none
  let (fraction, text) ← match text with
    | '.' :: rest =>
        if (rest.takeWhile Char.isDigit).isEmpty then none
        else some (true, rest.dropWhile Char.isDigit)
    | _ => some (false, text)
  let (exponent, text) ← match text with
    | 'e' :: rest | 'E' :: rest =>
        let rest := match rest with
          | '+' :: digits | '-' :: digits => digits
          | _ => rest
        if (rest.takeWhile Char.isDigit).isEmpty then none
        else some (true, rest.dropWhile Char.isDigit)
    | _ => some (false, text)
  let value := Text.decimalValue whole
  if fraction || exponent || (negative && value == 0) then
    return (decimal, text)
  else if negative then
    return (integer (-(value : Int)), text)
  else
    return (integer value, text)

/-- An array or object, if there is room for it. -/
def nested (room : Nat) (json : Json) : Json :=
  match room with
  | 0 => unreadable
  | _ => json

/-- An object, if all of its keys can be read. -/
def ofMembers (members : List (Option String × Json)) : Json :=
  match members.mapM fun (key, value) => key.map fun key => (key, value) with
  | some members => object members
  | none => unreadable

mutual

/-- Reads a value at the front of the text.  `room` counts the arrays and
objects that may still be opened, `fuel` the steps that may be taken. -/
def value? (fuel room : Nat) (text : List Char) : Option (Json × List Char) :=
  match fuel with
  | 0 => none
  | fuel + 1 =>
      match skipSpace text with
      | 'n' :: 'u' :: 'l' :: 'l' :: rest => some (null, rest)
      | 't' :: 'r' :: 'u' :: 'e' :: rest => some (boolean true, rest)
      | 'f' :: 'a' :: 'l' :: 's' :: 'e' :: rest => some (boolean false, rest)
      | '"' :: rest => do
          let (text, following) ← stringAfterQuote? rest
          return (text.elim unreadable string, following)
      | '[' :: rest =>
          match skipSpace rest with
          | ']' :: following => some (nested room (array []), following)
          | _ => do
              let (items, following) ← items? fuel (room - 1) rest
              return (nested room (array items), following)
      | '{' :: rest =>
          match skipSpace rest with
          | '}' :: following => some (nested room (object []), following)
          | _ => do
              let (members, following) ← members? fuel (room - 1) rest
              return (nested room (ofMembers members), following)
      | text => number? text

/-- Reads the items of an array up to its closing bracket. -/
def items? (fuel room : Nat) (text : List Char) : Option (List Json × List Char) :=
  match fuel with
  | 0 => none
  | fuel + 1 => do
      let (item, following) ← value? fuel room text
      match skipSpace following with
      | ']' :: following => return ([item], following)
      | ',' :: following =>
          let (items, following) ← items? fuel room following
          return (item :: items, following)
      | _ => none

/-- Reads the members of an object up to its closing brace. -/
def members? (fuel room : Nat) (text : List Char) :
    Option (List (Option String × Json) × List Char) :=
  match fuel with
  | 0 => none
  | fuel + 1 =>
      match skipSpace text with
      | '"' :: rest => do
          let (key, following) ← stringAfterQuote? rest
          match skipSpace following with
          | ':' :: following =>
              let (value, following) ← value? fuel room following
              match skipSpace following with
              | '}' :: following => return ([(key, value)], following)
              | ',' :: following =>
                  let (members, following) ← members? fuel room following
                  return ((key, value) :: members, following)
              | _ => none
          | _ => none
      | _ => none

end

/-- Reads a text that holds one JSON value.  Each step takes at least one
character, so two steps for each are enough. -/
def parse? (text : String) : Option Json :=
  let characters := text.toList
  match value? (2 * characters.length + 2) depthLimit characters with
  | some (json, rest) => if (skipSpace rest).isEmpty then some json else none
  | none => none

end Json
end ContentAccess
