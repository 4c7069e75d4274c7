/-!
# Results and failures

What a chain of steps gives is told by what its steps give, and failures under another name are the
same failures.

## Main results

* `bind_eq_ok_iff`, `bind_eq_error_iff` - what a chain of steps gives
* `mapError_eq_ok`, `mapError_eq_error` - failures under another name
-/

namespace Supervisor

variable {ε ε' α β : Type} {x : Except ε α}

/-- A chain of steps succeeds exactly if every step does. -/
theorem bind_eq_ok_iff {f : α → Except ε β} {b : β} :
    x >>= f = .ok b ↔ ∃ a, x = .ok a ∧ f a = .ok b := by
  cases x <;> simp [bind, Except.bind]

/-- A chain of steps fails with the failure of its first step that fails. -/
theorem bind_eq_error_iff {f : α → Except ε β} {e : ε} :
    x >>= f = .error e ↔ x = .error e ∨ ∃ a, x = .ok a ∧ f a = .error e := by
  cases x <;> simp [bind, Except.bind]

theorem mapError_eq_ok {f : ε → ε'} {a : α} : x.mapError f = .ok a ↔ x = .ok a := by
  cases x with
  | error e => constructor <;> intro gave <;> cases gave
  | ok b =>
    change Except.ok b = .ok a ↔ Except.ok b = .ok a
    rw [Except.ok.injEq, Except.ok.injEq]

theorem mapError_eq_error {f : ε → ε'} {e' : ε'} :
    x.mapError f = .error e' ↔ ∃ e, x = .error e ∧ f e = e' := by
  constructor
  · intro failed
    cases x with
    | error e =>
      cases failed
      exact ⟨e, rfl, rfl⟩
    | ok a => cases failed
  · rintro ⟨e, rfl, rfl⟩
    rfl

theorem eq_ok_of_toOption {a : α} (given : x.toOption = some a) : x = .ok a := by
  cases x <;> cases given
  rfl

theorem exists_of_isOk (ok : x.isOk = true) : ∃ a, x = .ok a := by
  cases x with
  | error e => cases ok
  | ok a => exact ⟨a, rfl⟩

/-- Results can be compared. -/
instance decidableEqExcept [DecidableEq ε] [DecidableEq α] : DecidableEq (Except ε α)
  | .ok a, .ok b => decidable_of_iff (a = b) ⟨congrArg _, Except.ok.inj⟩
  | .error e, .error e' => decidable_of_iff (e = e') ⟨congrArg _, Except.error.inj⟩
  | .ok _, .error _ => .isFalse nofun
  | .error _, .ok _ => .isFalse nofun

end Supervisor
