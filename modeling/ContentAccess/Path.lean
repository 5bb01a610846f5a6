import ContentAccess.Text.Split

/-!
# Paths

Paths are compared segment by segment.  Slashes at the end do not count, so `/`
is the path of the root.
-/

namespace ContentAccess
namespace Path

/-- The path without slashes at the end. -/
def bare (path : String) : List Char :=
  Text.dropEnding (· == '/') path.toList

/-- The non-empty texts between slashes. -/
def segments (path : String) : List String :=
  ((Text.pieces '/' path.toList).filter fun segment => !segment.isEmpty).map String.ofList

/-- The path of a child. -/
def child (path name : String) : String :=
  if path = "/" then "/" ++ name else path ++ "/" ++ name

/-- Two paths are the same up to slashes at the end. -/
def same (first second : String) : Bool :=
  bare first == bare second

/-- What the candidate has beyond the anchor, when it is the anchor or lies
below it. -/
def beyond? (anchor candidate : String) : Option (List Char) :=
  match Text.stripStart? (bare anchor) (bare candidate) with
  | some [] => some []
  | some ('/' :: rest) => some ('/' :: rest)
  | _ => none

/-- The candidate is the anchor or lies below it. -/
def isWithin (anchor candidate : String) : Bool :=
  (beyond? anchor candidate).isSome

/-- The number of levels from the anchor down to the candidate. -/
def levelsBelow? (anchor candidate : String) : Option Nat :=
  (beyond? anchor candidate).map fun rest => rest.count '/'

@[simp] theorem isSome_levelsBelow? (anchor candidate : String) :
    (levelsBelow? anchor candidate).isSome = isWithin anchor candidate := by
  simp [levelsBelow?, isWithin]

end Path
end ContentAccess
