/-!
# Content nodes

What decisions need to know of a tree: the nodes it hands out, how to get from
one to another, and their properties.  Every tree with these operations and
without endless chains of parents will do.
-/

namespace ContentAccess

/-- The nodes of a content tree. -/
class ContentNode (Node : Type u) where
  /-- Absolute path; `/` for the root of the tree. -/
  path : Node → String
  /-- Last segment of the path. -/
  name : Node → String
  /-- What type the node is of, if it says so. -/
  typeMarker? : Node → Option String
  /-- The node above; none above the root. -/
  parent? : Node → Option Node
  /-- The child of this name. -/
  child? : Node → String → Option Node
  /-- The nodes below, in the order of the tree. -/
  children : Node → List Node
  /-- There is a property of this name. -/
  hasProperty : Node → String → Bool
  /-- There is a property of this name, and its value is a list. -/
  hasSeveral : Node → String → Bool
  /-- The value of a property that is not a list. -/
  value? : Node → String → Option String
  /-- The values of a property that is a list. -/
  values : Node → String → List String
  /-- Going up comes to an end. -/
  parents_end : WellFounded fun above node => parent? node = some above

namespace ContentNode

variable {Node : Type u} [ContentNode Node]

/-- The node and all nodes above it, from the node to the root. -/
def lineage (node : Node) : List Node :=
  match _above : parent? node with
  | some parent => node :: lineage parent
  | none => [node]
termination_by parents_end.wrap node
decreasing_by exact _above

/-- A root has no one above it. -/
theorem lineage_of_root {node : Node} (root : parent? node = none) : lineage node = [node] := by
  rw [lineage]
  split
  · rename_i parent above
    rw [root] at above
    contradiction
  · rfl

/-- The lineage of a node goes on with that of its parent. -/
theorem lineage_of_parent {node parent : Node} (above : parent? node = some parent) :
    lineage node = node :: lineage parent := by
  rw [lineage]
  split
  · rename_i other otherAbove
    rw [above] at otherAbove
    cases otherAbove
    rfl
  · rename_i root
    rw [above] at root
    contradiction

end ContentNode
end ContentAccess
