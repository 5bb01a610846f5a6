import ContentAccess.Content.Node
import ContentAccess.Layout.Basic
import ContentAccess.Path

/-!
# Walks

What a node is under a layout, and which node above it decisions are made for.
Walks towards the root of the tree stop at the root of the repository.
-/

namespace ContentAccess

/-- What a node is, as far as decisions go. -/
inductive ContentKind where
  | leafResource
  | container
  | other
  deriving DecidableEq, Repr

/-- The written name. -/
def ContentKind.name : ContentKind → String
  | leafResource => "leaf_resource"
  | container => "container"
  | other => "other"

namespace Layout

open ContentNode

variable {Node : Type u} [ContentNode Node]

/-- The type marker of the node is that of leaf resources. -/
def isLeaf (layout : Layout) (node : Node) : Bool :=
  (typeMarker? node).any fun marker => Text.sameLetters marker layout.leafType

/-- The type marker of the node is one of those of containers. -/
def isContainer (layout : Layout) (node : Node) : Bool :=
  (typeMarker? node).any fun marker =>
    layout.containerTypes.any fun containerType => Text.sameLetters containerType marker

/-- What the node is; a leaf resource is no container. -/
def kind (layout : Layout) (node : Node) : ContentKind :=
  if layout.isLeaf node then .leafResource
  else if layout.isContainer node then .container
  else .other

/-- The node is the root of the repository. -/
def isRepositoryRoot (layout : Layout) (node : Node) : Bool :=
  Path.same (path node) layout.root

/-- The nearest leaf resource from the node upwards.  The root of the repository
ends the search, and counts only if the node is it. -/
def nearestLeaf? (layout : Layout) (node : Node) : Option Node :=
  if layout.isLeaf node then some node
  else if layout.isRepositoryRoot node then none
  else
    ((lineage node).tail.takeWhile fun above => !layout.isRepositoryRoot above).find? layout.isLeaf

/-- The nearest node from the node upwards that is a container or the root of
the repository. -/
def nearestContainer? (layout : Layout) (node : Node) : Option Node :=
  (lineage node).find? fun above => layout.isContainer above || layout.isRepositoryRoot above

/-- The node that decides for the node: its leaf resource, else its container,
else the node itself. -/
def lifted (layout : Layout) (node : Node) : Node :=
  ((layout.nearestLeaf? node).or (layout.nearestContainer? node)).getD node

/-- The metadata record of the node. -/
def metadata? (layout : Layout) (node : Node) : Option Node :=
  (child? node layout.contentName).bind fun content => child? content layout.metadataName

end Layout
end ContentAccess
