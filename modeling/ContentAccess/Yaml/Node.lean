import ContentAccess.Yaml.Token

/-!
# YAML nodes

The tokens of a text make up one document, and the document is a node: a scalar,
a sequence of nodes, or a mapping from nodes to nodes.  A node may be anchored,
and an alias stands for an anchored node.
-/

namespace ContentAccess

/-- A node of a YAML document. -/
inductive Yaml where
  /-- A scalar, with quotes or as a block unless it is plain. -/
  | scalar (tag : Option Yaml.Tag) (isPlain : Bool) (text : String)
  | sequence (tag : Option Yaml.Tag) (items : List Yaml)
  | mapping (tag : Option Yaml.Tag) (entries : List (Yaml × Yaml))
  /-- A node that the number of an anchor means. -/
  | anchored (anchor : Nat) (node : Yaml)
  /-- What the number of an anchor means. -/
  | aliasOf (anchor : Nat)
  deriving Repr, Inhabited

namespace Yaml

/-- A node where nothing is written. -/
def nothing : Yaml :=
  scalar none true ""

/-- Where a node is written, which tokens may come instead of it. -/
inductive Position where
  | blockItem
  | indentlessItem
  | blockKey
  | blockValue
  | flowItem
  | flowKey
  | flowValue
  | flowPairKey
  | flowPairValue
  deriving DecidableEq

/-- A node at this position is empty before this token. -/
def Position.endsAt : Position → Token → Bool
  | blockItem, .blockEntry | blockItem, .blockEnd => true
  | indentlessItem, .blockEntry | indentlessItem, .key | indentlessItem, .value
  | indentlessItem, .blockEnd => true
  | blockKey, .key | blockKey, .value | blockKey, .blockEnd => true
  | blockValue, .key | blockValue, .value | blockValue, .blockEnd => true
  | flowKey, .value | flowKey, .flowEntry | flowKey, .flowMappingEnd => true
  | flowValue, .flowEntry | flowValue, .flowMappingEnd => true
  | flowPairKey, .value | flowPairKey, .flowEntry | flowPairKey, .flowSequenceEnd => true
  | flowPairValue, .flowEntry | flowPairValue, .flowSequenceEnd => true
  | _, _ => false

/-- Blocks may be written at this position. -/
def Position.inBlock : Position → Bool
  | blockItem | indentlessItem | blockKey | blockValue => true
  | _ => false

/-- A sequence may be written at this position without more indentation. -/
def Position.allowsIndentless : Position → Bool
  | blockKey | blockValue => true
  | _ => false

/-- What is written before the content of a node. -/
structure Properties where
  anchor : Option Nat
  tag : Option Tag

namespace Properties

/-- Takes an anchor and a tag, in any order, off the front. -/
def take : List Token → Properties × List Token
  | .anchor anchor :: .tag tag :: rest => (⟨some anchor, some tag⟩, rest)
  | .tag tag :: .anchor anchor :: rest => (⟨some anchor, some tag⟩, rest)
  | .anchor anchor :: rest => (⟨some anchor, none⟩, rest)
  | .tag tag :: rest => (⟨none, some tag⟩, rest)
  | tokens => (⟨none, none⟩, tokens)

/-- Nothing is written before the content. -/
def isEmpty (properties : Properties) : Bool :=
  properties.anchor.isNone && properties.tag.isNone

/-- The tag of a scalar; a mark alone is none. -/
def scalarTag (properties : Properties) : Option Tag :=
  properties.tag.filter (· != .bare)

end Properties

/-- The node under an anchor, if there is one. -/
def withAnchor (anchor : Option Nat) (node : Yaml) : Yaml :=
  match anchor with
  | some anchor => anchored anchor node
  | none => node

mutual

/-- Reads the node at a position, or nothing. -/
def nodeOrNothing? (fuel : Nat) (position : Position) (tokens : List Token) :
    Option (Yaml × List Token) :=
  match fuel with
  | 0 => none
  | fuel + 1 =>
      if tokens.head?.any position.endsAt then some (nothing, tokens)
      else node? fuel position tokens

/-- Reads the node at a position. -/
def node? (fuel : Nat) (position : Position) (tokens : List Token) :
    Option (Yaml × List Token) :=
  match fuel with
  | 0 => none
  | fuel + 1 =>
      match tokens with
      | .aliasOf anchor :: rest => some (aliasOf anchor, rest)
      | _ => do
          let (properties, rest) := Properties.take tokens
          let (node, rest) ← content? fuel position properties rest
          return (withAnchor properties.anchor node, rest)

/-- Reads the content of a node at a position.  Behind properties it may be
missing. -/
def content? (fuel : Nat) (position : Position) (properties : Properties)
    (tokens : List Token) : Option (Yaml × List Token) :=
  match fuel with
  | 0 => none
  | fuel + 1 =>
      let missing : Option (Yaml × List Token) :=
        if properties.isEmpty then none else some (scalar properties.tag true "", tokens)
      match tokens with
      | .scalar isPlain text :: rest => some (scalar properties.scalarTag isPlain text, rest)
      | .flowSequenceStart :: rest => do
          let (items, rest) ← flowItems? fuel true rest
          return (sequence properties.tag items, rest)
      | .flowMappingStart :: rest => do
          let (entries, rest) ← flowEntries? fuel true rest
          return (mapping properties.tag entries, rest)
      | .blockSequenceStart :: rest =>
          if position.inBlock then do
            let (items, rest) ← blockItems? fuel rest
            return (sequence properties.tag items, rest)
          else
            missing
      | .blockMappingStart :: rest =>
          if position.inBlock then do
            let (entries, rest) ← blockEntries? fuel rest
            return (mapping properties.tag entries, rest)
          else
            missing
      | .blockEntry :: _ =>
          if position.allowsIndentless then do
            let (items, rest) ← indentlessItems? fuel tokens
            return (sequence properties.tag items, rest)
          else
            missing
      | _ => missing

/-- Reads the items of a block sequence up to its end. -/
def blockItems? (fuel : Nat) (tokens : List Token) : Option (List Yaml × List Token) :=
  match fuel with
  | 0 => none
  | fuel + 1 =>
      match tokens with
      | .blockEntry :: rest => do
          let (item, rest) ← nodeOrNothing? fuel .blockItem rest
          let (items, rest) ← blockItems? fuel rest
          return (item :: items, rest)
      | .blockEnd :: rest => some ([], rest)
      | _ => none

/-- Reads the items of a sequence without indentation of its own. -/
def indentlessItems? (fuel : Nat) (tokens : List Token) : Option (List Yaml × List Token) :=
  match fuel with
  | 0 => none
  | fuel + 1 =>
      match tokens with
      | .blockEntry :: rest => do
          let (item, rest) ← nodeOrNothing? fuel .indentlessItem rest
          let (items, rest) ← indentlessItems? fuel rest
          return (item :: items, rest)
      | _ => some ([], tokens)

/-- Reads the entries of a block mapping up to its end. -/
def blockEntries? (fuel : Nat) (tokens : List Token) :
    Option (List (Yaml × Yaml) × List Token) :=
  match fuel with
  | 0 => none
  | fuel + 1 =>
      match tokens with
      | .key :: rest => do
          let (key, rest) ← nodeOrNothing? fuel .blockKey rest
          let (value, rest) ← match rest with
            | .value :: rest => nodeOrNothing? fuel .blockValue rest
            | _ => some (nothing, rest)
          let (entries, rest) ← blockEntries? fuel rest
          return ((key, value) :: entries, rest)
      | .blockEnd :: rest => some ([], rest)
      | _ => none

/-- Reads the items of a sequence in brackets up to the closing bracket.  An item
with a colon is a mapping of one entry. -/
def flowItems? (fuel : Nat) (isFirst : Bool) (tokens : List Token) :
    Option (List Yaml × List Token) :=
  match fuel with
  | 0 => none
  | fuel + 1 =>
      match tokens with
      | .flowSequenceEnd :: rest => some ([], rest)
      | _ => do
          let tokens ← match isFirst, tokens with
            | true, _ => some tokens
            | false, .flowEntry :: rest => some rest
            | false, _ => none
          match tokens with
          | .flowSequenceEnd :: rest => return ([], rest)
          | .key :: rest =>
              let (item, rest) ← flowPair? fuel rest
              let (items, rest) ← flowItems? fuel false rest
              return (item :: items, rest)
          | _ =>
              let (item, rest) ← node? fuel .flowItem tokens
              let (items, rest) ← flowItems? fuel false rest
              return (item :: items, rest)

/-- Reads a mapping of one entry between brackets.  A token that comes instead of
its key counts as the key. -/
def flowPair? (fuel : Nat) (tokens : List Token) : Option (Yaml × List Token) :=
  match fuel with
  | 0 => none
  | fuel + 1 => do
      let (key, rest) ←
        if tokens.head?.any (Position.endsAt .flowPairKey) then some (nothing, tokens.drop 1)
        else node? fuel .flowPairKey tokens
      let (value, rest) ← match rest with
        | .value :: rest => nodeOrNothing? fuel .flowPairValue rest
        | _ => some (nothing, rest)
      return (mapping none [(key, value)], rest)

/-- Reads the entries of a mapping in braces up to the closing brace. -/
def flowEntries? (fuel : Nat) (isFirst : Bool) (tokens : List Token) :
    Option (List (Yaml × Yaml) × List Token) :=
  match fuel with
  | 0 => none
  | fuel + 1 =>
      match tokens with
      | .flowMappingEnd :: rest => some ([], rest)
      | _ => do
          let tokens ← match isFirst, tokens with
            | true, _ => some tokens
            | false, .flowEntry :: rest => some rest
            | false, _ => none
          match tokens with
          | .flowMappingEnd :: rest => return ([], rest)
          | .key :: rest =>
              let (key, rest) ← nodeOrNothing? fuel .flowKey rest
              let (value, rest) ← match rest with
                | .value :: rest => nodeOrNothing? fuel .flowValue rest
                | _ => some (nothing, rest)
              let (entries, rest) ← flowEntries? fuel false rest
              return ((key, value) :: entries, rest)
          | _ =>
              let (key, rest) ← node? fuel .flowItem tokens
              let (entries, rest) ← flowEntries? fuel false rest
              return ((key, nothing) :: entries, rest)

end

/-- Reads the node of a document.  Directives come before a document whose start
is marked. -/
def ofTokens? (tokens : List Token) : Option Yaml := do
  let content := tokens.dropWhile (· == .directive)
  if content.length < tokens.length && content.head? != some .documentStart then none
  let fuel := 5 * content.length + 5
  let (node, rest) ← match content with
    | [] => some (nothing, [])
    | .documentStart :: [] => some (nothing, [])
    | .documentStart :: .documentStart :: _ => none
    | .documentStart :: .documentEnd :: rest => some (nothing, .documentEnd :: rest)
    | .documentStart :: rest => node? fuel .blockItem rest
    | _ => node? fuel .blockItem content
  if rest.all (· == .documentEnd) then some node else none

end Yaml
end ContentAccess
