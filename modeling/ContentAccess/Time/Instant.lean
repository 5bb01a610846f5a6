/-!
# Instants

A point in time, by whole seconds since the start of 1970 in universal time and
a number of nanoseconds.  During a leap second the nanoseconds go on beyond a
thousand million, so the order of instants is that of the pairs.
-/

namespace ContentAccess

/-- A point in time. -/
structure Instant where
  seconds : Int
  nanoseconds : Nat
  deriving DecidableEq, Repr

namespace Instant

/-- Earlier instants come first. -/
def order (first second : Instant) : Ordering :=
  (compare first.seconds second.seconds).then (compare first.nanoseconds second.nanoseconds)

end Instant
end ContentAccess
