import ContentAccess.Yaml.Names
import ContentAccess.Yaml.Scalar

/-!
# YAML tokens

Lexing turns the layout of a text into brackets: tokens open and close a block
where its indentation begins and ends.  A colon makes a key of what stands before
it on the line, so the place of every possible key is kept until it is decided.
Names of anchors and handles of tags are replaced by what they stand for.
-/

namespace ContentAccess
namespace Yaml

/-- A piece of a YAML text. -/
inductive Token where
  | documentStart
  | documentEnd
  | blockSequenceStart
  | blockMappingStart
  | blockEnd
  | flowSequenceStart
  | flowSequenceEnd
  | flowMappingStart
  | flowMappingEnd
  | blockEntry
  | flowEntry
  | key
  | value
  | directive
  | anchor (number : Nat)
  | aliasOf (anchor : Nat)
  | tag (tag : Tag)
  | scalar (isPlain : Bool) (text : String)
  deriving DecidableEq, Repr

/-- The name of an anchor at the front; only a gap or some indicators may follow it. -/
def anchorName? (text : Source) : Option (String × Source) :=
  let (name, rest) := takeName text
  let ends := startsGap rest || (front? rest).any "?:,]\x7d%@\x60".toList.contains
  if name.isEmpty || !ends then none else some (name, rest)

/-- What may turn out to be a key: where it is, and which token it would come before. -/
structure PossibleKey where
  /-- Nothing but a key may stand here. -/
  required : Bool
  token : Nat
  line : Nat
  column : Nat
  index : Nat

/-- What is known between two tokens. -/
structure Lexer where
  rest : Source
  tokens : Array Token
  /-- The column of the innermost block, or less than zero. -/
  indent : Int
  /-- The columns of the blocks around it. -/
  outer : List Int
  /-- A key may start here. -/
  keyAllowed : Bool
  /-- The possible key of every flow collection, from the innermost on, and of
  the block around them. -/
  keys : List (Option PossibleKey)
  /-- The names that are in use. -/
  names : Names

namespace Lexer

/-- The start of a text. -/
def start (text : Source) : Lexer where
  rest := text
  tokens := #[]
  indent := -1
  outer := []
  keyAllowed := true
  keys := [none]
  names := .empty

/-- The front is inside brackets. -/
def inFlow (lexer : Lexer) : Bool :=
  1 < lexer.keys.length

/-- Adds a token. -/
def emit (lexer : Lexer) (token : Token) : Lexer :=
  { lexer with tokens := lexer.tokens.push token }

/-- Adds a token before one that is already there. -/
def emitAt (lexer : Lexer) (position : Nat) (token : Token) : Lexer :=
  { lexer with tokens := lexer.tokens.insertIdxIfInBounds position token }

/-- Goes on behind so many characters. -/
def skip (lexer : Lexer) (count : Nat) : Lexer :=
  { lexer with rest := lexer.rest.drop count }

/-- Says whether a key may start at the front. -/
def allowKey (lexer : Lexer) (allowed : Bool) : Lexer :=
  { lexer with keyAllowed := allowed }

/-- Opens a block at a column to the right of the innermost block. -/
def openBlock (lexer : Lexer) (column position : Nat) (token : Token) : Lexer :=
  if !lexer.inFlow && lexer.indent < column then
    ({ lexer with indent := column, outer := lexer.indent :: lexer.outer }).emitAt position token
  else
    lexer

/-- Closes the blocks to the right of a column. -/
def closeBlocks (lexer : Lexer) (column : Int) : Lexer :=
  if lexer.inFlow then
    lexer
  else
    let closed := (lexer.indent :: lexer.outer).takeWhile (column < ·)
    let kept := (lexer.indent :: lexer.outer).drop closed.length
    { lexer with
      indent := kept.headD (-1)
      outer := kept.tail
      tokens := lexer.tokens ++ Array.replicate closed.length .blockEnd }

/-- Gives up the innermost possible key; a required one must not be given up. -/
def forgetKey (lexer : Lexer) : Option Lexer :=
  match lexer.keys with
  | some key :: outer => if key.required then none else some { lexer with keys := none :: outer }
  | _ => some lexer

/-- Notes that a key may start at the front. -/
def noteKey (lexer : Lexer) : Option Lexer :=
  match lexer.keyAllowed, lexer.rest with
  | true, placed :: _ => do
      let lexer ← lexer.forgetKey
      let key : PossibleKey := {
        required := !lexer.inFlow && lexer.indent == placed.column
        token := lexer.tokens.size
        line := placed.line
        column := placed.column
        index := placed.index }
      return { lexer with keys := some key :: lexer.keys.tail }
  | _, _ => some lexer

/-- Gives up the possible keys on earlier lines and those that are too long. -/
def forgetOldKeys (lexer : Lexer) (line index : Nat) : Option Lexer := do
  let isOld : PossibleKey → Bool := fun key => key.line < line || key.index + 1024 < index
  let keys ← lexer.keys.mapM fun key =>
    match key with
    | some key =>
        if isOld key then if key.required then none else some none else some (some key)
    | none => some none
  return { lexer with keys }

/-- What follows white space, comments and line ends, with byte order marks at the
start of lines, and whether a key may start there.  A tab may not indent. -/
def afterSpace (inFlow keyAllowed inComment : Bool) : Source → Bool × Source
  | [] => (keyAllowed, [])
  | placed :: rest =>
      if isBreak placed.character then
        afterSpace inFlow (keyAllowed || !inFlow) false rest
      else if inComment || placed.character == ' ' ||
          (placed.character == '\ufeff' && placed.column == 0) ||
          (placed.character == '\t' && (inFlow || !keyAllowed)) then
        afterSpace inFlow keyAllowed inComment rest
      else if placed.character == '#' then
        afterSpace inFlow keyAllowed true rest
      else
        (keyAllowed, placed :: rest)

/-- Goes on behind white space. -/
def skipSpace (lexer : Lexer) : Lexer :=
  let (keyAllowed, rest) := afterSpace lexer.inFlow lexer.keyAllowed false lexer.rest
  { lexer with keyAllowed, rest }

/-- Adds a token of a scalar that was read. -/
def emitScalar (lexer : Lexer) (isPlain : Bool) (text : List Char) (rest : Source) : Lexer :=
  ({ lexer with rest }).emit (.scalar isPlain (String.ofList text))

/-- An opening bracket at the front. -/
def openFlow (lexer : Lexer) (token : Token) : Option Lexer := do
  let lexer ← lexer.noteKey
  return (({ lexer with keys := none :: lexer.keys }.allowKey true).skip 1).emit token

/-- A closing bracket at the front. -/
def closeFlow (lexer : Lexer) (token : Token) : Option Lexer := do
  let lexer ← lexer.forgetKey
  let keys := if lexer.inFlow then lexer.keys.tail else lexer.keys
  return (({ lexer with keys }.allowKey false).skip 1).emit token

/-- A comma between brackets. -/
def takeFlowEntry (lexer : Lexer) : Option Lexer := do
  let lexer ← lexer.forgetKey
  return ((lexer.allowKey true).skip 1).emit .flowEntry

/-- A dash that starts an item of a block. -/
def takeBlockEntry (lexer : Lexer) : Option Lexer := do
  if !lexer.inFlow && !lexer.keyAllowed then none
  let lexer := lexer.openBlock (column lexer.rest) lexer.tokens.size .blockSequenceStart
  let lexer ← lexer.forgetKey
  return ((lexer.allowKey true).skip 1).emit .blockEntry

/-- A question mark that starts a key. -/
def takeKey (lexer : Lexer) : Option Lexer := do
  if !lexer.inFlow && !lexer.keyAllowed then none
  let lexer := lexer.openBlock (column lexer.rest) lexer.tokens.size .blockMappingStart
  let lexer ← lexer.forgetKey
  return ((lexer.allowKey !lexer.inFlow).skip 1).emit .key

/-- A colon that starts a value.  If a key may have started before it, that is
now a key. -/
def takeValue (lexer : Lexer) : Option Lexer :=
  match lexer.keys with
  | some key :: outer =>
      let lexer := { lexer with keys := none :: outer }.emitAt key.token .key
      let lexer := lexer.openBlock key.column key.token .blockMappingStart
      some (((lexer.allowKey false).skip 1).emit .value)
  | _ =>
      if !lexer.inFlow && !lexer.keyAllowed then
        none
      else
        let lexer := lexer.openBlock (column lexer.rest) lexer.tokens.size .blockMappingStart
        some (((lexer.allowKey !lexer.inFlow).skip 1).emit .value)

/-- A block scalar at the front. -/
def takeBlock (lexer : Lexer) (literal : Bool) : Option Lexer := do
  let lexer ← lexer.forgetKey
  let (text, rest) ← block? literal lexer.indent (lexer.rest.drop 1)
  return (lexer.allowKey true).emitScalar false text rest

/-- A quoted scalar at the front. -/
def takeQuoted (lexer : Lexer) (single : Bool) : Option Lexer := do
  let lexer ← lexer.noteKey
  let (text, rest) ← quoted? single (lexer.rest.drop 1)
  return (lexer.allowKey false).emitScalar false text rest

/-- A plain scalar at the front. -/
def takePlain (lexer : Lexer) : Option Lexer := do
  let lexer ← lexer.noteKey
  let (text, rest, broken) ← plain? lexer.inFlow (lexer.indent + 1) lexer.rest
  return (lexer.allowKey broken).emitScalar true text rest

/-- A marker between documents at the front. -/
def takeDocumentMarker (lexer : Lexer) (token : Token) : Option Lexer := do
  let lexer ← (lexer.closeBlocks (-1)).forgetKey
  return ((lexer.allowKey false).skip 3).emit token

/-- An anchor or an alias at the front. -/
def takeAnchor (lexer : Lexer) (isAlias : Bool) : Option Lexer := do
  let lexer ← lexer.noteKey
  let (name, rest) ← anchorName? (lexer.rest.drop 1)
  let (token, names) ←
    if isAlias then
      (lexer.names.number? name).map fun number => (Token.aliasOf number, lexer.names)
    else
      let (number, names) := lexer.names.anchor name
      some (.anchor number, names)
  return ({ lexer with rest, names }.allowKey false).emit token

/-- A tag at the front. -/
def takeTag (lexer : Lexer) : Option Lexer := do
  let lexer ← lexer.noteKey
  let (written, rest) ← takeTag? lexer.inFlow (lexer.rest.drop 1)
  return ({ lexer with rest }.allowKey false).emit (.tag (← lexer.names.tag? written))

/-- A directive at the front. -/
def takeDirective (lexer : Lexer) : Option Lexer := do
  let lexer ← (lexer.closeBlocks (-1)).forgetKey
  let (directive, rest) ← takeDirective? (lexer.rest.drop 1)
  let names ← lexer.names.define? directive
  return ({ lexer with rest, names }.allowKey false).emit .directive

/-- A plain scalar may start with this character. -/
def startsPlain (lexer : Lexer) (character : Char) (rest : Source) : Bool :=
  if character == '-' then
    !(front? rest).any isSpace
  else if character == '?' || character == ':' then
    !lexer.inFlow && !startsGap rest
  else
    !("-?:,[]\x7b\x7d#&*!|>'\"%@\x60".toList.contains character || isSpace character)

/-- Reads the next token behind white space. -/
def next (lexer : Lexer) : Option Lexer := do
  match lexer.rest with
  | [] => none
  | placed :: rest =>
      let lexer ← lexer.forgetOldKeys placed.line placed.index
      let lexer := lexer.closeBlocks placed.column
      let character := placed.character
      if placed.column == 0 && character == '%' then lexer.takeDirective
      else if startsMarker '-' lexer.rest then lexer.takeDocumentMarker .documentStart
      else if startsMarker '.' lexer.rest then lexer.takeDocumentMarker .documentEnd
      else if character == '[' then lexer.openFlow .flowSequenceStart
      else if character == '\x7b' then lexer.openFlow .flowMappingStart
      else if character == ']' then lexer.closeFlow .flowSequenceEnd
      else if character == '\x7d' then lexer.closeFlow .flowMappingEnd
      else if character == ',' then lexer.takeFlowEntry
      else if character == '-' && startsGap rest then lexer.takeBlockEntry
      else if character == '?' && (lexer.inFlow || startsGap rest) then lexer.takeKey
      else if character == ':' && (lexer.inFlow || startsGap rest) then lexer.takeValue
      else if character == '*' then lexer.takeAnchor true
      else if character == '&' then lexer.takeAnchor false
      else if character == '!' then lexer.takeTag
      else if character == '|' && !lexer.inFlow then lexer.takeBlock true
      else if character == '>' && !lexer.inFlow then lexer.takeBlock false
      else if character == '\'' then lexer.takeQuoted true
      else if character == '"' then lexer.takeQuoted false
      else if lexer.startsPlain character rest then lexer.takePlain
      else none

/-- Reads all tokens; every step goes on by a character at least. -/
def run : Nat → Lexer → Option (List Token)
  | 0, _ => none
  | fuel + 1, lexer => do
      let lexer := lexer.skipSpace
      if lexer.rest.isEmpty then
        let lexer ← (lexer.closeBlocks (-1)).forgetKey
        return lexer.tokens.toList
      run fuel (← lexer.next)

end Lexer

/-- The tokens of a text. -/
def tokens? (text : String) : Option (List Token) := do
  let text ← source? text
  Lexer.run (text.length + 1) (.start text)

end Yaml
end ContentAccess
