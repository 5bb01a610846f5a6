import ContentAccess.Yaml.Node

/-!
# YAML documents

A document is read as a whole before its aliases are followed: an alias means the
last node of the document whose anchor has its number, and how often aliases may
be followed depends on the size of the document.
-/

namespace ContentAccess
namespace Yaml

mutual

/-- The size of a node: one for a scalar or an alias, and two for a sequence or a
mapping besides what it holds. -/
def size : Yaml → Nat
  | scalar .. | aliasOf _ => 1
  | sequence _ items => 2 + sizeOfItems items
  | mapping _ entries => 2 + sizeOfEntries entries
  | anchored _ node => size node

/-- The size of nodes one after another. -/
def sizeOfItems : List Yaml → Nat
  | [] => 0
  | item :: rest => size item + sizeOfItems rest

/-- The size of keys and values. -/
def sizeOfEntries : List (Yaml × Yaml) → Nat
  | [] => 0
  | (key, value) :: rest => size key + size value + sizeOfEntries rest

end

mutual

/-- The anchored nodes in a node, in the order of their anchors. -/
def anchors : Yaml → List (Nat × Yaml)
  | scalar .. | aliasOf _ => []
  | sequence _ items => anchorsOfItems items
  | mapping _ entries => anchorsOfEntries entries
  | anchored anchor node => (anchor, node) :: anchors node

/-- The anchored nodes in nodes one after another. -/
def anchorsOfItems : List Yaml → List (Nat × Yaml)
  | [] => []
  | item :: rest => anchors item ++ anchorsOfItems rest

/-- The anchored nodes in keys and values. -/
def anchorsOfEntries : List (Yaml × Yaml) → List (Nat × Yaml)
  | [] => []
  | (key, value) :: rest => anchors key ++ anchors value ++ anchorsOfEntries rest

end

/-- A document. -/
structure Document where
  root : Yaml
  /-- The anchored nodes with the numbers of their anchors, the last one first. -/
  anchored : List (Nat × Yaml)
  /-- How often aliases may be followed. -/
  followLimit : Nat
  deriving Repr

namespace Document

/-- The document of an outermost node. -/
def ofRoot (root : Yaml) : Document where
  root := root
  anchored := root.anchors.reverse
  followLimit := 100 * root.size

/-- The node that the number of an anchor means. -/
def node? (document : Document) (anchor : Nat) : Option Yaml :=
  document.anchored.lookup anchor

/-- Reads a text that holds one document. -/
def parse? (text : String) : Option Document :=
  ((tokens? text).bind ofTokens?).map ofRoot

end Document
end Yaml
end ContentAccess
