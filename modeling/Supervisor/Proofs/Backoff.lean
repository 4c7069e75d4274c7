import Supervisor.Connect

/-!
# Waits between starts

Two bounds meet in a wait: the square of the number of starts stops at 32 bits, and the product with
the unit stops at the longest span. Neither makes a later wait shorter.

## Main results

* `Duration.toNanos_ofParts` - what is carried from nanoseconds to seconds is not lost
* `Duration.toNanos_mul` - a multiple of a span is exact up to the longest one
* `Retry.square_lt_square` - squares differ as long as they fit, and once more
* `Retry.backoff_spec` - how long the waits are, and that they grow
-/

namespace Supervisor

namespace Duration

theorem toNanos_longest : longest.toNanos = secondsLimit * nanosPerSecond - 1 := by decide +kernel

/-- No span is longer than the longest one. -/
theorem toNanos_le_longest (d : Duration) : d.toNanos ≤ longest.toNanos := by
  have seconds : d.secs * nanosPerSecond + nanosPerSecond ≤ secondsLimit * nanosPerSecond := by
    rw [← Nat.succ_mul]
    exact Nat.mul_le_mul_right _ d.secs_lt
  have nanos := d.nanos_lt
  rw [toNanos_longest, toNanos]
  omega

/-- What makes whole seconds is carried, and nothing else changes unless there are too many. -/
theorem toNanos_ofParts (secs nanos : Nat) :
    (ofParts secs nanos).toNanos = min (secs * nanosPerSecond + nanos) longest.toNanos := by
  have carried : (secs + nanos / nanosPerSecond) * nanosPerSecond + nanos % nanosPerSecond =
      secs * nanosPerSecond + nanos := by
    rw [Nat.add_mul, Nat.add_assoc, Nat.div_add_mod']
  unfold ofParts
  split
  · next fits =>
    have whole := toNanos_le_longest ⟨_, _, fits, Nat.mod_lt nanos (by decide)⟩
    rw [toNanos, carried] at whole
    rw [toNanos, carried, Nat.min_eq_left whole]
  · next many =>
    have long : secondsLimit * nanosPerSecond ≤ secs * nanosPerSecond + nanos := by
      rw [← carried]
      exact Nat.le_add_right_of_le (Nat.mul_le_mul_right _ (Nat.not_lt.1 many))
    rw [toNanos_longest, Nat.min_eq_right (Nat.le_trans (Nat.sub_le _ _) long)]

/-- A multiple of a span is exact, unless it is longer than the longest one. -/
theorem toNanos_mul (d : Duration) (k : Nat) :
    (d.mul k).toNanos = min (d.toNanos * k) longest.toNanos := by
  have product : d.secs * k * nanosPerSecond + d.nanos * k = d.toNanos * k := by
    rw [toNanos, Nat.add_mul, Nat.mul_right_comm]
  rw [mul, toNanos_ofParts, product]

end Duration

namespace Retry

variable {r : Retry} {a b : UInt32}

theorem square_le_square (le : a ≤ b) : square a ≤ square b := by
  have le : a.toNat ≤ b.toNat := UInt32.le_iff_toNat_le.1 le
  have products : a.toNat * a.toNat ≤ b.toNat * b.toNat := Nat.mul_le_mul le le
  unfold square
  omega

/-- Squares grow up to the first number whose square does not fit, because that square is cut by no
more than one. -/
theorem square_lt_square (lt : a < b) (le : b ≤ 65536) : square a < square b := by
  have lt : a.toNat < b.toNat := UInt32.lt_iff_toNat_lt.1 lt
  have le : b.toNat ≤ 65536 := UInt32.le_iff_toNat_le.1 le
  have products : a.toNat * a.toNat < b.toNat * b.toNat := Nat.mul_self_lt_mul_self lt
  have fits : a.toNat * a.toNat ≤ 65535 * 65535 := Nat.mul_self_le_mul_self (by omega)
  unfold square
  omega

theorem toNanos_backoff (r : Retry) (a : UInt32) :
    (r.backoff a).toNanos = min (r.baseDelay.toNanos * square a) Duration.longest.toNanos :=
  Duration.toNanos_mul r.baseDelay (square a)

/-- A wait is the unit times the square of its number, where the square stops at 32 bits and the
product at the longest span; the nanoseconds that are carried from fit 64 bits. Later waits are never
shorter, and the first 65536 of them are longer than those before as long as the unit is not zero and
the longest span is not reached. -/
theorem backoff_spec (r : Retry) :
    (∀ a, (r.backoff a).toNanos =
        min (r.baseDelay.toNanos * min (a.toNat * a.toNat) 4294967295) Duration.longest.toNanos ∧
      r.baseDelay.nanos * square a < 18446744073709551616) ∧
    (∀ a b, a ≤ b → (r.backoff a).toNanos ≤ (r.backoff b).toNanos) ∧
    ∀ a b, a < b → b ≤ 65536 → 0 < r.baseDelay.toNanos →
      (r.backoff a).toNanos < Duration.longest.toNanos →
      (r.backoff a).toNanos < (r.backoff b).toNanos := by
  refine ⟨fun a => ⟨toNanos_backoff r a, ?_⟩, ?_, ?_⟩
  · have small : square a ≤ 4294967295 := Nat.min_le_right _ _
    calc r.baseDelay.nanos * square a
        ≤ nanosPerSecond * 4294967295 := Nat.mul_le_mul (Nat.le_of_lt r.baseDelay.nanos_lt) small
      _ < 18446744073709551616 := by decide
  · intro a b le
    have product := Nat.mul_le_mul_left r.baseDelay.toNanos (square_le_square le)
    rw [toNanos_backoff, toNanos_backoff]
    omega
  · -- The earlier wait is the product itself; the later one is longer, whether it was cut or not.
    intro a b lt le positive short
    have product := Nat.mul_lt_mul_of_pos_left (square_lt_square lt le) positive
    rw [toNanos_backoff] at short
    rw [toNanos_backoff, toNanos_backoff]
    omega

/-- With the usual unit the last wait that is longer than the one before is the one after 65536
starts, whose square does not fit. -/
theorem backoff_of_last_square :
    (default.backoff 65535).toNanos < (default.backoff 65536).toNanos ∧
      (default.backoff 65536).toNanos ≤ (default.backoff 4294967295).toNanos := by
  obtain ⟨-, monotone, strict⟩ := backoff_spec default
  exact ⟨strict 65535 65536 (by decide) (by decide) (by decide +kernel) (by decide +kernel),
    monotone 65536 4294967295 (by decide)⟩

end Retry

end Supervisor
