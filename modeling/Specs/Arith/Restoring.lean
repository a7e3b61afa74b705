import Mathlib.Algebra.Order.Ring.Nat
import Mathlib.Logic.Function.Iterate
import Mathlib.Tactic.Ring

/-!
# Restoring division

One register of `2 * w` bits holds the remainder in its upper half and collects the
quotient in its lower half.  It starts with twice the dividend.  A step subtracts the
divisor from the upper half if it fits, shifts the register, and puts the quotient bit
in at the bottom.
-/

namespace Specs.Arith.Restoring

variable {w d x k v : ℕ}

def next (w d v : ℕ) : ℕ := if d * 2 ^ w ≤ v then 2 * (v - d * 2 ^ w) + 1 else 2 * v

/-- The register after `k` steps, with `q` the quotient of the bits seen so far. -/
structure Partial (w d x k v q : ℕ) : Prop where
  quotient_lt : q < 2 ^ k
  bound : v < 2 * (d * 2 ^ w)
  equation : v + 2 * (d * 2 ^ w) * q = 2 ^ (k + 1) * x + q

theorem Partial.start (hx : x < 2 ^ w) (hd : 0 < d) : Partial w d x 0 (2 * x) 0 where
  quotient_lt := Nat.zero_lt_one
  bound := by
    have hle : 2 ^ w ≤ d * 2 ^ w := Nat.le_mul_of_pos_left _ hd
    omega
  equation := by ring

theorem Partial.next {q : ℕ} (h : Partial w d x k v q) :
    ∃ q', Partial w d x (k + 1) (Restoring.next w d v) q' := by
  have hlt := h.quotient_lt
  have hbound := h.bound
  have hdouble : 2 ^ (k + 1) = 2 * 2 ^ k := by ring
  have hdividend : 2 ^ (k + 1 + 1) * x = 2 * (2 ^ (k + 1) * x) := by ring
  by_cases hfits : d * 2 ^ w ≤ v
  · refine ⟨2 * q + 1, ?_, ?_, ?_⟩
    · omega
    · rw [Restoring.next, if_pos hfits]
      omega
    · have hproduct : 2 * (d * 2 ^ w) * (2 * q + 1) =
          2 * (2 * (d * 2 ^ w) * q) + 2 * (d * 2 ^ w) := by ring
      rw [Restoring.next, if_pos hfits, hproduct, hdividend]
      have hequation := h.equation
      omega
  · refine ⟨2 * q, ?_, ?_, ?_⟩
    · omega
    · rw [Restoring.next, if_neg hfits]
      omega
    · have hproduct : 2 * (d * 2 ^ w) * (2 * q) = 2 * (2 * (d * 2 ^ w) * q) := by ring
      rw [Restoring.next, if_neg hfits, hproduct, hdividend]
      have hequation := h.equation
      omega

theorem exists_partial (hx : x < 2 ^ w) (hd : 0 < d) (k : ℕ) :
    ∃ q, Partial w d x k ((Restoring.next w d)^[k] (2 * x)) q := by
  induction k with
  | zero => exact ⟨0, Partial.start hx hd⟩
  | succ k ih =>
      obtain ⟨q, hq⟩ := ih
      rw [Function.iterate_succ_apply']
      exact hq.next

/-- The upper half never holds twice the divisor. -/
theorem iterate_lt (hx : x < 2 ^ w) (hd : 0 < d) (k : ℕ) :
    (Restoring.next w d)^[k] (2 * x) < 2 * (d * 2 ^ w) := by
  obtain ⟨q, hq⟩ := exists_partial hx hd k
  exact hq.bound

/-- After as many steps as the dividend has bits, the register holds the quotient and twice
the remainder. -/
theorem iterate_eq (hx : x < 2 ^ w) (hd : 0 < d) :
    (Restoring.next w d)^[w] (2 * x) = 2 * (x % d) * 2 ^ w + x / d := by
  obtain ⟨q, hq⟩ := exists_partial hx hd w
  set v := (Restoring.next w d)^[w] (2 * x)
  have hequation : v + 2 * 2 ^ w * (d * q) = 2 * 2 ^ w * x + q := by
    rw [← pow_succ']
    calc v + 2 ^ (w + 1) * (d * q) = v + 2 * (d * 2 ^ w) * q := by ring
      _ = 2 ^ (w + 1) * x + q := hq.equation
  have hbound : v < 2 * 2 ^ w * d := by
    calc v < 2 * (d * 2 ^ w) := hq.bound
      _ = 2 * 2 ^ w * d := by ring
  have hlt := hq.quotient_lt
  -- The multiples of `2 * 2 ^ w` in the equation decide which quotient it is.
  have hle : d * q ≤ x := by
    have hmul : 2 * 2 ^ w * (d * q) < 2 * 2 ^ w * (x + 1) := by
      rw [Nat.mul_add, Nat.mul_one]
      omega
    exact Nat.le_of_lt_succ (Nat.lt_of_mul_lt_mul_left hmul)
  have hrest : x < d * q + d := by
    have hmul : 2 * 2 ^ w * x < 2 * 2 ^ w * (d * q + d) := by
      rw [Nat.mul_add]
      omega
    exact Nat.lt_of_mul_lt_mul_left hmul
  have hdiv : x / d = q := by
    apply Nat.div_eq_of_lt_le
    · rwa [Nat.mul_comm]
    · rwa [Nat.succ_mul, Nat.mul_comm]
  have hmod : d * q + x % d = x := by
    rw [← hdiv]
    exact Nat.div_add_mod x d
  have hproduct : 2 * 2 ^ w * x = 2 * 2 ^ w * (d * q) + 2 * (x % d) * 2 ^ w := by
    calc 2 * 2 ^ w * x = 2 * 2 ^ w * (d * q + x % d) := by rw [hmod]
      _ = 2 * 2 ^ w * (d * q) + 2 * (x % d) * 2 ^ w := by ring
  rw [hdiv]
  omega

end Specs.Arith.Restoring
