import Mathlib.Data.Prod.Lex
import Mathlib.Order.Lattice
import ContentAccess.Time.Instant

/-!
# The order of instants

Instants are in the order of their seconds, and within a second in that of their nanoseconds.
-/

namespace ContentAccess
namespace Instant

/-- The seconds of an instant, then its nanoseconds. -/
def key (instant : Instant) : ℤ ×ₗ ℕ :=
  toLex (instant.seconds, instant.nanoseconds)

theorem key_injective : Function.Injective key := by
  intro first second equal
  cases first
  cases second
  simpa [key] using equal

instance : LinearOrder Instant :=
  LinearOrder.lift' key key_injective

/-- Comparing seconds and then nanoseconds is comparing instants. -/
theorem order_eq_compare (first second : Instant) : first.order second = compare first second := by
  have lexicographic : first.order second = compare first.key second.key := by
    rw [Prod.Lex.compare_def]
    rfl
  rw [lexicographic]
  rfl

end Instant
end ContentAccess
