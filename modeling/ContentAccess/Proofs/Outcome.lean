/-!
# Steps that may fail

A sequence of steps succeeds exactly when every step does, each on what the
steps before it gave.  Failures can be changed step by step.
-/

namespace ContentAccess

/-- Two steps succeed exactly when the first does and the second does on what the
first gave. -/
@[simp] theorem bind_eq_ok_iff
    {first : Except ε α}
    {second : α → Except ε β}
    {result : β} :
    first >>= second = .ok result ↔
      ∃ given, first = .ok given ∧ second given = .ok result := by
  cases first with
  | error failure => simp [bind, Except.bind]
  | ok given => simp [bind, Except.bind]

/-- Two steps fail exactly when the first does, or the second does on what the
first gave. -/
theorem bind_eq_error_iff
    {first : Except ε α}
    {second : α → Except ε β}
    {failure : ε} :
    first >>= second = .error failure ↔
      first = .error failure ∨ ∃ given, first = .ok given ∧ second given = .error failure := by
  cases first with
  | error earlier => simp [bind, Except.bind]
  | ok given => simp [bind, Except.bind]

/-- A step that fails does not succeed. -/
@[simp] theorem throw_ne_ok
    {failure : ε}
    {result : α} :
    (throw failure : Except ε α) ≠ .ok result := by
  simp [throw, throwThe, MonadExceptOf.throw]

/-- A step that fails has the failure that it is given. -/
theorem throw_eq_error_iff
    {given failure : ε} :
    (throw given : Except ε α) = .error failure ↔ given = failure := by
  simp [throw, throwThe, MonadExceptOf.throw]

/-- Nothing is done after a step that fails. -/
theorem throw_bind_eq_error_iff
    {given failure : ε}
    {second : α → Except ε β} :
    (throw given >>= second) = .error failure ↔ given = failure := by
  simp [bind_eq_error_iff, throw_eq_error_iff]

/-- A step that only gives a value succeeds with it. -/
@[simp] theorem pure_eq_ok_iff
    {given result : α} :
    (pure given : Except ε α) = .ok result ↔ given = result := by
  simp [pure, Except.pure]

/-- A step that only gives a value does not fail. -/
theorem pure_ne_error
    {given : α}
    {failure : ε} :
    (pure given : Except ε α) ≠ .error failure := by
  simp [pure, Except.pure]

/-- Changing failures does not make a success. -/
@[simp] theorem mapError_eq_ok_iff
    {change : ε → ε'}
    {outcome : Except ε α}
    {result : α} :
    outcome.mapError change = .ok result ↔ outcome = .ok result := by
  cases outcome with
  | error failure =>
      change Except.error (change failure) = .ok result ↔ _
      simp
  | ok given =>
      change Except.ok given = .ok result ↔ _
      simp

/-- The failure of two steps is that of the first or that of the second. -/
theorem mapError_bind
    (change : ε → ε')
    (first : Except ε α)
    (second : α → Except ε β) :
    (first >>= second).mapError change =
      first.mapError change >>= fun given => (second given).mapError change := by
  cases first <;> rfl

end ContentAccess
