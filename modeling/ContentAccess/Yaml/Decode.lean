import ContentAccess.Record
import ContentAccess.Yaml.Document
import ContentAccess.Yaml.Schema

/-!
# Values of YAML nodes

Readers for the shapes that layouts and trees are made of.  Where the shape is
known to be a text, every scalar will do; where nothing is written, a sequence
or a mapping is empty.  An alias is followed only when its value is read, so
nodes that nobody asks for may be nested and repeated without limit.
-/

namespace ContentAccess
namespace Yaml

/-- The largest number of sequences and mappings inside one another. -/
def depthLimit : Nat := 128

/-- Where a node is read. -/
structure Surroundings where
  document : Document
  /-- How many sequences and mappings may still be entered inside one another. -/
  room : Nat

/-- Reading values from a document.  The state says how often aliases may still be
followed. -/
abbrev Reading := ReaderT Surroundings (StateT Nat Option)

namespace Reading

/-- Reads inside a sequence or a mapping. -/
def inside (reading : Reading α) : Reading α := fun surroundings =>
  match surroundings.room with
  | 0 => failure
  | room + 1 => reading { surroundings with room }

/-- The node that an alias stands for. -/
def follow (anchor : Nat) : Reading Yaml := do
  match ← get with
  | 0 => failure
  | left + 1 =>
      set left
      (← read).document.node? anchor

/-- Reads the outermost node of a document. -/
def ofDocument? (reader : Yaml → Reading α) (document : Document) : Option α :=
  ((reader document.root).run ⟨document, depthLimit⟩).run' document.followLimit

/-- Reads the outermost node of the document that a text holds. -/
def ofText? (reader : Yaml → Reading α) (text : String) : Option α :=
  (Document.parse? text).bind (ofDocument? reader)

end Reading

/-- The node without its anchors. -/
def withoutAnchor : Yaml → Yaml
  | anchored _ node => withoutAnchor node
  | node => node

/-- The scalar, sequence or mapping that is written or meant at a node. -/
def content (node : Yaml) : Reading Yaml :=
  match node.withoutAnchor with
  | aliasOf anchor => do return (← Reading.follow anchor).withoutAnchor
  | node => return node

/-- Nothing is written at the node, apart from a tag. -/
def isNothing : Yaml → Bool
  | scalar _ isPlain text => isPlain && text.isEmpty
  | _ => false

/-- Reads the text of a scalar. -/
def readText (node : Yaml) : Reading String := do
  match ← node.content with
  | scalar _ _ text => return text
  | _ => failure

/-- Reads the text of a scalar that means a text. -/
def readMeantText (node : Yaml) : Reading String := do
  match ← node.content with
  | scalar tag isPlain text => if meansText tag isPlain text then return text else failure
  | _ => failure

/-- Reads the text of a scalar that may be null. -/
def readOptionalText (node : Yaml) : Reading (Option String) := do
  match ← node.content with
  | scalar tag isPlain text => optionalText? tag isPlain text
  | _ => failure

/-- Reads the items of a sequence, each in the same way. -/
def readItems (readItem : Yaml → Reading α) (node : Yaml) : Reading (List α) := do
  match ← node.content with
  | sequence _ items => Reading.inside (items.mapM readItem)
  | node => if node.isNothing then return [] else failure

/-- Reads the texts of a sequence of scalars. -/
def readTexts (node : Yaml) : Reading (List String) :=
  node.readItems readText

/-- Reads a mapping by its keys and values. -/
def readMapping (read : List (Yaml × Yaml) → Reading α) (node : Yaml) : Reading α := do
  match ← node.content with
  | mapping _ entries => Reading.inside (read entries)
  | node => if node.isNothing then read [] else failure

/-- Reads the entries of a mapping from texts, each value in the same way. -/
def readEntries (readValue : Yaml → Reading α) (node : Yaml) : Reading (List (String × α)) :=
  node.readMapping fun entries =>
    entries.mapM fun (key, value) => return (← key.readText, ← readValue value)

/-- Reads a record by the values of the fields of these names. -/
def readFields (names : List String) (read : List (Option Yaml) → Reading α) (node : Yaml) :
    Reading α :=
  node.readMapping fun entries => do
    let entries ← entries.mapM fun (key, value) => return (← key.readText, value)
    read (← Record.fields? names entries)

end Yaml
end ContentAccess
