import ContentAccess.Json.Reader
import ContentAccess.Yaml.Source

/-!
# YAML scalars

Scalars are written plain, between single or double quotes, or as a block of
lines.  Each reader starts behind the character that opens the scalar, if there
is one, and gives the text of the scalar and what follows.
-/

namespace ContentAccess
namespace Yaml

/-- What stands between two words of a scalar. -/
structure Gap where
  /-- Blanks before the first line end. -/
  spaces : List Char
  /-- Line ends. -/
  breaks : List Char

namespace Gap

/-- There is nothing between the words. -/
def isEmpty (gap : Gap) : Bool :=
  gap.spaces.isEmpty && gap.breaks.isEmpty

/-- The line ends there. -/
def hasBreak (gap : Gap) : Bool :=
  !gap.breaks.isEmpty

/-- What the gap stands for.  Blanks around line ends do not count, one line end
is a blank, and of several line ends the first does not count. -/
def folded (gap : Gap) : List Char :=
  match gap.breaks with
  | [] => gap.spaces
  | ['\n'] => [' ']
  | '\n' :: others => others
  | breaks => breaks

end Gap

/-- Takes blanks and line ends off the front.  On further lines a tab may not
stand before the column `indent`. -/
def takeGap? (indent : Int) (broken : Bool) : Source → Option (Gap × Source)
  | [] => some (⟨[], []⟩, [])
  | placed :: rest =>
      if isSpace placed.character then
        if broken && placed.character == '\t' && placed.column < indent then
          none
        else do
          let (gap, after) ← takeGap? indent broken rest
          return (if broken then gap else { gap with spaces := placed.character :: gap.spaces },
            after)
      else if isBreak placed.character then do
        let (gap, after) ← takeGap? indent true rest
        return ({ gap with breaks := placed.character :: gap.breaks }, after)
      else
        some (⟨[], []⟩, placed :: rest)

/-- The character has a meaning of its own inside brackets. -/
def isFlowIndicator (character : Char) : Bool :=
  character == ',' || character == '[' || character == ']' || character == '\x7b' ||
    character == '\x7d'

/-- Takes a word of a plain scalar off the front.  Inside brackets a colon may
not stand right before another indicator. -/
def takePlainWord? (inFlow : Bool) : Source → Option (List Char × Source)
  | [] => some ([], [])
  | placed :: rest =>
      let character := placed.character
      if isSpace character || isBreak character then
        some ([], placed :: rest)
      else if inFlow && character == ':' &&
          (front? rest).any fun next => isFlowIndicator next || next == '?' then
        none
      else if (character == ':' && startsGap rest) || (inFlow && isFlowIndicator character) then
        some ([], placed :: rest)
      else do
        let (word, after) ← takePlainWord? inFlow rest
        return (character :: word, after)

/-- Reads a plain scalar: words with gaps between them.  The last part of the
result says whether a line ended behind the scalar. -/
def takePlain? (inFlow : Bool) (indent : Int) :
    Nat → Source → Option (List Char × Source × Bool)
  | 0, _ => none
  | fuel + 1, text => do
      let (word, rest) ← takePlainWord? inFlow text
      let (gap, after) ← takeGap? indent false rest
      if gap.isEmpty then
        return (word, after, false)
      else if after.isEmpty || (!inFlow && column after < indent) || startsDocumentMarker after ||
          startsWith '#' after then
        return (word, after, gap.hasBreak)
      else
        let (others, last, broken) ← takePlain? inFlow indent fuel after
        if others.isEmpty then return (word, last, gap.hasBreak)
        else return (word ++ gap.folded ++ others, last, broken)

/-- Reads a plain scalar at the front. -/
def plain? (inFlow : Bool) (indent : Int) (text : Source) :
    Option (List Char × Source × Bool) :=
  takePlain? inFlow indent (text.length + 1) text

/-- Takes a word between single quotes; two quotes stand for one. -/
def takeSingleQuotedWord : Source → List Char × Source
  | [] => ([], [])
  | [placed] =>
      if isSpace placed.character || isBreak placed.character || placed.character == '\'' then
        ([], [placed])
      else
        ([placed.character], [])
  | placed :: next :: rest =>
      if isSpace placed.character || isBreak placed.character then
        ([], placed :: next :: rest)
      else if placed.character == '\'' then
        if next.character == '\'' then
          let (word, after) := takeSingleQuotedWord rest
          ('\'' :: word, after)
        else
          ([], placed :: next :: rest)
      else
        let (word, after) := takeSingleQuotedWord (next :: rest)
        (placed.character :: word, after)

/-- The character that a backslash and this letter stand for. -/
def escaped? : Char → Option Char
  | '0' => some '\x00'
  | 'a' => some '\x07'
  | 'b' => some '\x08'
  | 't' | '\t' => some '\t'
  | 'n' => some '\n'
  | 'v' => some '\x0b'
  | 'f' => some '\x0c'
  | 'r' => some '\r'
  | 'e' => some '\x1b'
  | ' ' => some ' '
  | '"' => some '"'
  | '/' => some '/'
  | '\\' => some '\\'
  | 'N' => some '\u0085'
  | '_' => some '\u00a0'
  | 'L' => some '\u2028'
  | 'P' => some '\u2029'
  | _ => none

/-- The number of hexadecimal digits after a backslash and this letter. -/
def escapeLength? : Char → Option Nat
  | 'x' => some 2
  | 'u' => some 4
  | 'U' => some 8
  | _ => none

/-- The character of this code point. -/
def characterOfCode? (code : Nat) : Option Char :=
  if code.isValidChar then some (Char.ofNat code) else none

/-- Takes a word between double quotes.  The last part of the result says
whether an escaped line end closed it. -/
def takeDoubleQuotedWord? : Nat → Source → Option (List Char × Source × Bool)
  | 0, _ => none
  | _, [] => some ([], [], false)
  | fuel + 1, placed :: rest =>
      let character := placed.character
      if isSpace character || isBreak character || character == '"' then
        some ([], placed :: rest, false)
      else if character == '\\' then
        match rest with
        | [] => none
        | letter :: rest =>
            if isBreak letter.character then
              some ([], rest, true)
            else
              match escapeLength? letter.character with
              | some length => do
                  let digits := (rest.take length).map Placed.character
                  if digits.length < length then none
                  let code ← Json.hexValue? digits
                  let meant ← characterOfCode? code
                  let (word, after, escaped) ← takeDoubleQuotedWord? fuel (rest.drop length)
                  return (meant :: word, after, escaped)
              | none => do
                  let meant ← escaped? letter.character
                  let (word, after, escaped) ← takeDoubleQuotedWord? fuel rest
                  return (meant :: word, after, escaped)
      else do
        let (word, after, escaped) ← takeDoubleQuotedWord? fuel rest
        return (character :: word, after, escaped)

/-- Reads what follows an opening quote, up to the closing one: words with gaps
between them.  After an escaped line end only further line ends count. -/
def takeQuoted? (single : Bool) : Nat → Source → Option (List Char × Source)
  | 0, _ => none
  | fuel + 1, text =>
      if text.isEmpty || startsDocumentMarker text then
        none
      else do
        let (word, rest, escaped) ←
          if single then
            let (word, rest) := takeSingleQuotedWord text
            some (word, rest, false)
          else
            takeDoubleQuotedWord? (text.length + 1) text
        if !escaped && startsWith (if single then '\'' else '"') rest then
          return (word, rest.drop 1)
        else
          let (gap, after) ← takeGap? 0 escaped rest
          let (others, last) ← takeQuoted? single fuel after
          return (word ++ (if escaped then gap.breaks else gap.folded) ++ others, last)

/-- Reads a quoted scalar after its opening quote. -/
def quoted? (single : Bool) (text : Source) : Option (List Char × Source) :=
  takeQuoted? single (text.length + 1) text

/-- What becomes of the line ends at the end of a block. -/
inductive Chomping where
  | strip
  | clip
  | keep
  deriving DecidableEq

/-- Reads the indicators after the character that opens a block: chomping, and a
number of columns or zero, in any order. -/
def takeBlockHeader? (text : Source) : Option (Chomping × Nat × Source) :=
  let chomping? : Source → Chomping × Source := fun text =>
    match front? text with
    | some '+' => (.keep, text.drop 1)
    | some '-' => (.strip, text.drop 1)
    | _ => (.clip, text)
  let indentation? : Source → Option (Nat × Source) := fun text =>
    match front? text with
    | some character =>
        if character == '0' then none
        else if character.isDigit then some (character.toNat - '0'.toNat, text.drop 1)
        else some (0, text)
    | none => some (0, text)
  match front? text with
  | some '+' | some '-' => do
      let (chomping, text) := chomping? text
      let (columns, text) ← indentation? text
      return (chomping, columns, text)
  | _ => do
      let (columns, after) ← indentation? text
      if columns == 0 then
        return (.clip, 0, text)
      let (chomping, rest) := chomping? after
      return (chomping, columns, rest)

/-- Takes empty lines and indentation off the front: the line ends, the largest
column that indentation reached, and what follows.  With `indent` zero all
blanks are indentation; a tab is none. -/
def takeBreaks? (indent : Nat) : Source → Option (List Char × Nat × Source)
  | [] => some ([], 0, [])
  | placed :: rest =>
      let indenting := indent == 0 || placed.column < indent
      if placed.character == ' ' && indenting then
        takeBreaks? indent rest
      else if placed.character == '\t' && indenting then
        none
      else if isBreak placed.character then do
        let (breaks, reached, after) ← takeBreaks? indent rest
        return (placed.character :: breaks, max placed.column reached, after)
      else
        some ([], placed.column, placed :: rest)

/-- The lines of a block after the first one.  `pending` holds the line end
before the front and those of empty lines behind it, and `spaced` says whether
the line before started with a blank. -/
def takeBlockLines? (literal : Bool) (chomping : Chomping) (indent : Nat) :
    Nat → List Char → List Char → Bool → Source → Option (List Char × Source)
  | 0, _, _, _, _ => none
  | fuel + 1, pending, empties, spaced, text =>
      if text.isEmpty || column text != indent then
        let kept := match chomping with
          | .strip => []
          | .clip => pending
          | .keep => pending ++ empties
        some (kept, text)
      else do
        let spacedNow := (front? text).any isSpace
        let joint :=
          if !literal && pending == ['\n'] && !spaced && !spacedNow then
            if empties.isEmpty then [' '] else empties
          else
            pending ++ empties
        let line := (text.takeWhile fun placed => !isBreak placed.character).map Placed.character
        let rest := skipLine text
        let (breaks, _, after) ← takeBreaks? indent (rest.drop 1)
        let (others, last) ← takeBlockLines? literal chomping indent fuel
          ((rest.take 1).map Placed.character) breaks spacedNow after
        return (joint ++ line ++ others, last)

/-- Reads a block scalar after the character that opens it.  `parent` is the
indentation around it. -/
def block? (literal : Bool) (parent : Int) (text : Source) : Option (List Char × Source) := do
  let (chomping, columns, text) ← takeBlockHeader? text
  let text ← takeLineEnd? text
  let given := if columns == 0 then 0 else (max parent 0).toNat + columns
  let (breaks, reached, after) ← takeBreaks? given text
  let indent := if given == 0 then max (max reached (parent + 1).toNat) 1 else given
  takeBlockLines? literal chomping indent (after.length + 1) [] breaks false after

end Yaml
end ContentAccess
