import ContentAccess.Proofs.Content.Shape

/-!
# Trees that answer alike

Two trees answer alike when their nodes are related so that the operations give the same
texts and related nodes.  Walks from related nodes lead to related nodes.  Nothing is asked
of the one value of a property with several values, nor of the several values of a property
with one.
-/

namespace ContentAccess

namespace ContentNode

variable {First : Type u} {Second : Type v} [ContentNode First] [ContentNode Second]

/-! ## Nodes that look alike -/

/-- Two nodes have the same path and type marker, which is all that a walk up looks at. -/
structure LookAlike (one : First) (other : Second) : Prop where
  path : path one = path other
  typeMarker : typeMarker? one = typeMarker? other

namespace LookAlike

variable {one : First} {other : Second} {layout : Layout}

theorem isLeaf_eq
    (alike : LookAlike one other) :
    layout.isLeaf one = layout.isLeaf other := by
  rw [Layout.isLeaf, Layout.isLeaf, alike.typeMarker]

theorem isContainer_eq
    (alike : LookAlike one other) :
    layout.isContainer one = layout.isContainer other := by
  rw [Layout.isContainer, Layout.isContainer, alike.typeMarker]

theorem isRepositoryRoot_eq
    (alike : LookAlike one other) :
    layout.isRepositoryRoot one = layout.isRepositoryRoot other := by
  rw [Layout.isRepositoryRoot, Layout.isRepositoryRoot, alike.path]

end LookAlike

/-! ## Simulations -/

/-- Related nodes of two trees answer alike, and that for their type markers too. -/
structure Simulation (related : First → Second → Prop) : Prop extends SameShape related where
  typeMarker : ∀ one other, related one other → typeMarker? one = typeMarker? other

namespace Simulation

variable {related : First → Second → Prop} {one : First} {other : Second}

/-! ## Walks -/

theorem sameRoles
    (simulation : Simulation related)
    (layout : Layout) :
    SameRoles related layout layout := by
  have lookAlike (one : First) (other : Second) (alike : related one other) :
      LookAlike one other :=
    ⟨simulation.path one other alike, simulation.typeMarker one other alike⟩
  exact ⟨fun one other alike => (lookAlike one other alike).isLeaf_eq,
    fun one other alike => (lookAlike one other alike).isContainer_eq,
    fun one other alike => (lookAlike one other alike).isRepositoryRoot_eq⟩

theorem kind_eq
    (simulation : Simulation related)
    (alike : related one other)
    (layout : Layout) :
    layout.kind one = layout.kind other :=
  (simulation.sameRoles layout).kind_eq alike

theorem rel_nearestLeaf?
    (simulation : Simulation related)
    (alike : related one other)
    (layout : Layout) :
    Option.Rel related (layout.nearestLeaf? one) (layout.nearestLeaf? other) :=
  simulation.toSameShape.rel_nearestLeaf? (simulation.sameRoles layout) alike

theorem rel_nearestContainer?
    (simulation : Simulation related)
    (alike : related one other)
    (layout : Layout) :
    Option.Rel related (layout.nearestContainer? one) (layout.nearestContainer? other) :=
  simulation.toSameShape.rel_nearestContainer? (simulation.sameRoles layout) alike

theorem related_lifted
    (simulation : Simulation related)
    (alike : related one other)
    (layout : Layout) :
    related (layout.lifted one) (layout.lifted other) :=
  simulation.toSameShape.related_lifted (simulation.sameRoles layout) alike

theorem rel_metadata?
    (simulation : Simulation related)
    (alike : related one other)
    (layout : Layout) :
    Option.Rel related (layout.metadata? one) (layout.metadata? other) :=
  simulation.toSameShape.rel_metadata? alike layout

end Simulation
end ContentNode
end ContentAccess
