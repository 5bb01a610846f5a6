import ContentAccess.Matcher.Basic
import ContentAccess.Rule.Reader

/-!
# Restrictions

A restriction is a named list of values, stored beside an access control entry.
The names of two kinds of restrictions are known; their value is an encoded
rule.
-/

namespace ContentAccess

/-- A named list of values. -/
structure Restriction where
  name : String
  values : List String
  deriving DecidableEq, Repr

namespace Restriction

open ContentNode

variable {Node : Type u} [ContentNode Node]

/-- The value, when there is exactly one. -/
def single? (restriction : Restriction) : Option String :=
  match restriction.values with
  | [value] => some value
  | _ => none

/-- The restriction that a node stores as the property of this name. -/
def ofNode? (node : Node) (name : String) : Option Restriction :=
  if !hasProperty node name then none
  else if hasSeveral node name then some ⟨name, ContentNode.values node name⟩
  else (value? node name).map fun value => ⟨name, [value]⟩

end Restriction

/-- A known kind of restriction. -/
inductive RestrictionKind where
  | metadata
  | level
  deriving DecidableEq, Repr

namespace RestrictionKind

variable {Node : Type u} [ContentNode Node]

/-- All kinds. -/
def all : List RestrictionKind :=
  [metadata, level]

/-- The name of restrictions of this kind. -/
def storedName : RestrictionKind → String
  | metadata => "rep:hasPropertyValues"
  | level => "rep:subFolder"

/-- Restrictions of this kind may have several values. -/
def isMultiple (_kind : RestrictionKind) : Bool :=
  false

/-- Restrictions of this kind have to be there. -/
def isMandatory (_kind : RestrictionKind) : Bool :=
  false

/-- The matcher of a rule declared on `anchorPath`. -/
def decode (kind : RestrictionKind) (layout : Layout) (anchorPath encoded : String) :
    Except AccessError Matcher :=
  match kind with
  | metadata => return .metadata ⟨← MetadataRule.read encoded anchorPath, layout⟩
  | level => return .level ⟨← LevelRule.read encoded anchorPath⟩

/-- The matcher of a restriction; one without an anchor path or without exactly
one value applies everywhere. -/
def matcherOf (kind : RestrictionKind) (layout : Layout) (anchorPath : Option String)
    (restriction : Option Restriction) : Except AccessError Matcher :=
  match anchorPath, restriction.bind Restriction.single? with
  | some anchorPath, some encoded => kind.decode layout anchorPath encoded
  | _, _ => .ok .everything

/-- The matcher of the first restriction of this kind. -/
def matcherAmong (kind : RestrictionKind) (layout : Layout) (anchorPath : Option String)
    (restrictions : List Restriction) : Except AccessError Matcher :=
  kind.matcherOf layout anchorPath
    (restrictions.find? fun restriction => restriction.name == kind.storedName)

/-- The matcher of the restriction of this kind that a node stores. -/
def matcherAt (kind : RestrictionKind) (layout : Layout) (anchorPath : Option String)
    (entry : Node) : Except AccessError Matcher :=
  kind.matcherOf layout anchorPath (Restriction.ofNode? entry kind.storedName)

end RestrictionKind

/-- The matcher of a restriction of any kind; unknown ones apply everywhere. -/
def Restriction.matcher (layout : Layout) (anchorPath : Option String)
    (restriction : Restriction) : Except AccessError Matcher :=
  match RestrictionKind.all.find? fun kind => kind.storedName == restriction.name with
  | some kind => kind.matcherAmong layout anchorPath [restriction]
  | none => .ok .everything

end ContentAccess
