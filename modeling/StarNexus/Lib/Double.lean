import Mathlib.Algebra.Order.Ring.Int
import Mathlib.Data.Nat.Log

/-!
# Whole numbers in double precision

A `float64` that holds a whole number holds one with at most 53 significant bits: conversions, sums and differences of whole
numbers are rounded to the nearest of these, ties to even.  Up to `2 ^ 53` nothing is lost.
-/

namespace StarNexus.Lib

/-- The nearest multiple of `2 ^ e`, ties to even. -/
def nearestMultiple (n e : ℕ) : ℕ :=
  let q := n / 2 ^ e
  let r := n % 2 ^ e
  if 2 * r < 2 ^ e ∨ 2 * r = 2 ^ e ∧ q % 2 = 0 then q * 2 ^ e else (q + 1) * 2 ^ e

def double (n : ℤ) : ℤ :=
  if n.natAbs ≤ 2 ^ 53 then n else n.sign * (nearestMultiple n.natAbs (Nat.log2 n.natAbs - 52) : ℤ)

lemma double_eq_self {n : ℤ} (h : -2 ^ 53 ≤ n ∧ n ≤ 2 ^ 53) : double n = n := if_pos (by omega)

/-- The first whole number that is not representable is a tie. -/
example : double (2 ^ 53 + 1) = 2 ^ 53 ∧ double (2 ^ 53 + 3) = 2 ^ 53 + 4 := by decide

end StarNexus.Lib
