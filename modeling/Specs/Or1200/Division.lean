import Specs.Arith.Restoring
import Specs.Or1200.Multicycle

/-!
# Results of divisions

The divider tests the sign of the difference of two words, which is right as long as
the divisor is at most `2 ^ 31`.  Magnitudes of signed numbers are.  Of the greater
unsigned divisors, all but one give a wrong quotient.
-/

namespace Specs.Or1200

open Specs.Arith

namespace MultMac

theorem toNat_divLoad (x : BitVec 32) : (divLoad x).toNat = 2 * x.toNat := by
  rw [divLoad, Bits.toNat_append_eq, Bits.toNat_append_eq, BitVec.toNat_ofNat,
    BitVec.toNat_ofNat]
  omega

theorem toNat_divTmp (v : BitVec 64) (y : BitVec 32) :
    (divTmp v y).toNat = (2 ^ 32 - y.toNat + v.toNat / 2 ^ 32) % 2 ^ 32 := by
  have hv := v.isLt
  have hhigh : v.toNat / 2 ^ 32 < 2 ^ 32 := by omega
  rw [divTmp, BitVec.toNat_sub, BitVec.extractLsb'_toNat, Nat.shiftRight_eq_div_pow,
    Nat.mod_eq_of_lt hhigh]

theorem toNat_divStep (v : BitVec 64) (y : BitVec 32) :
    (divStep y v).toNat =
      if 2 ^ 31 ≤ (divTmp v y).toNat then 2 * (v.toNat % 2 ^ 63)
      else (divTmp v y).toNat * 2 ^ 33 + v.toNat % 2 ^ 32 * 2 + 1 := by
  rw [divStep]
  by_cases hmsb : (divTmp v y).msb = true
  · have hle := (Alu.msb_eq_true_iff _).mp hmsb
    rw [if_pos hmsb, if_pos hle, Bits.toNat_append_eq, BitVec.extractLsb'_toNat,
      Nat.shiftRight_zero, BitVec.toNat_ofNat]
    omega
  · have hlt : (divTmp v y).toNat < 2 ^ 31 := by
      rw [← Nat.not_le, ← Alu.msb_eq_true_iff]
      exact hmsb
    rw [if_neg hmsb, if_neg (Nat.not_le.mpr hlt), Bits.toNat_append_eq, Bits.toNat_append_eq,
      BitVec.extractLsb'_toNat, BitVec.extractLsb'_toNat, Nat.shiftRight_zero,
      Nat.shiftRight_zero, Nat.mod_eq_of_lt hlt, BitVec.toNat_ofNat]
    omega

/-! ## Divisors up to `2 ^ 31` -/

/-- For such a divisor a step of the divider is a step of restoring division. -/
theorem toNat_divStep_eq_next {v : BitVec 64} {y : BitVec 32} (hy : y.toNat ≤ 2 ^ 31)
    (hv : v.toNat < 2 * (y.toNat * 2 ^ 32)) :
    (divStep y v).toNat = Restoring.next 32 y.toNat v.toNat := by
  rw [toNat_divStep, Restoring.next, toNat_divTmp]
  by_cases hfits : y.toNat * 2 ^ 32 ≤ v.toNat
  · have htmp : (2 ^ 32 - y.toNat + v.toNat / 2 ^ 32) % 2 ^ 32 =
        v.toNat / 2 ^ 32 - y.toNat := by omega
    have hlt : ¬2 ^ 31 ≤ v.toNat / 2 ^ 32 - y.toNat := by omega
    rw [if_pos hfits, htmp, if_neg hlt]
    omega
  · have htmp : 2 ^ 31 ≤ (2 ^ 32 - y.toNat + v.toNat / 2 ^ 32) % 2 ^ 32 := by omega
    rw [if_neg hfits, if_pos htmp]
    omega

theorem toNat_iterate_divStep {x y : BitVec 32} (hy : y.toNat ≤ 2 ^ 31) (hpos : 0 < y.toNat)
    (k : ℕ) :
    ((divStep y)^[k] (divLoad x)).toNat =
      (Restoring.next 32 y.toNat)^[k] (2 * x.toNat) := by
  induction k with
  | zero => exact toNat_divLoad x
  | succ k ih =>
      have hbound := Restoring.iterate_lt x.isLt hpos k
      rw [← ih] at hbound
      rw [Function.iterate_succ_apply', Function.iterate_succ_apply',
        toNat_divStep_eq_next hy hbound, ih]

/-- The low word of the register of the divider. -/
def quotient (x y : BitVec 32) : BitVec 32 :=
  ((divStep y)^[32] (divLoad x)).extractLsb' 0 32

theorem quotient_of_le {x y : BitVec 32} (hy : y.toNat ≤ 2 ^ 31) (hpos : y ≠ 0#32) :
    quotient x y = x / y := by
  have hpos' : 0 < y.toNat := by
    rw [Nat.pos_iff_ne_zero]
    intro hzero
    exact hpos (BitVec.eq_of_toNat_eq hzero)
  have hlt : x.toNat / y.toNat < 2 ^ 32 := (Nat.div_le_self _ _).trans_lt x.isLt
  apply BitVec.eq_of_toNat_eq
  rw [quotient, BitVec.extractLsb'_toNat, Nat.shiftRight_zero, toNat_iterate_divStep hy hpos',
    Restoring.iterate_eq x.isLt hpos', BitVec.toNat_udiv, Nat.add_comm, Nat.add_mul_mod_self_right,
    Nat.mod_eq_of_lt hlt]

/-! ## Greater divisors -/

/-- A quotient bit is never changed again. -/
theorem getLsbD_divStep (y : BitVec 32) (v : BitVec 64) {k : ℕ} (hk : k + 1 < 32) :
    (divStep y v).getLsbD (k + 1) = v.getLsbD k := by
  have hlow : k < 32 := by omega
  have hword : k < 63 := by omega
  rw [divStep]
  split
  · rw [BitVec.getLsbD_append]
    simp [hword]
  · rw [BitVec.getLsbD_append, BitVec.getLsbD_append]
    simp [hlow]

theorem getLsbD_iterate_divStep (y : BitVec 32) (v : BitVec 64) {n k : ℕ} (hk : k + n < 32) :
    ((divStep y)^[n] v).getLsbD (k + n) = v.getLsbD k := by
  induction n with
  | zero => rfl
  | succ n ih =>
      have hk' : k + n + 1 < 32 := hk
      rw [Function.iterate_succ_apply', ← Nat.add_assoc, getLsbD_divStep y _ hk']
      exact ih ((Nat.lt_succ_self _).trans hk')

theorem divTmp_divLoad_lt_iff {x y : BitVec 32} (hy : 2 ^ 31 < y.toNat) :
    (divTmp (divLoad x) y).toNat < 2 ^ 31 ↔ ¬(y.toNat = 2 ^ 31 + 1 ∧ 2 ^ 31 ≤ x.toNat) := by
  have hx := x.isLt
  have hlt := y.isLt
  rw [toNat_divTmp, toNat_divLoad]
  omega

/-- The first difference comes out positive, so the quotient gets its top bit. -/
theorem quotient_ne_of_lt {x y : BitVec 32} (hy : 2 ^ 31 < y.toNat)
    (h : (divTmp (divLoad x) y).toNat < 2 ^ 31) : quotient x y ≠ x / y := by
  intro hright
  have hfirst : (divStep y (divLoad x)).getLsbD 0 = true := by
    rw [BitVec.getLsbD, toNat_divStep, if_neg (Nat.not_le.mpr h), Nat.testBit_zero,
      decide_eq_true_eq]
    omega
  have htop : (quotient x y).getLsbD 31 = true := by
    have hkept := getLsbD_iterate_divStep y (divStep y (divLoad x)) (n := 31) (k := 0) (by decide)
    rw [quotient, BitVec.getLsbD_extractLsb']
    exact hkept.trans hfirst
  have hge : 2 ^ 31 ≤ (quotient x y).toNat := Nat.ge_two_pow_of_testBit htop
  rw [hright, BitVec.toNat_udiv] at hge
  have hx := x.isLt
  have hsmall : x.toNat / y.toNat < 2 := Nat.div_lt_of_lt_mul (by omega)
  omega

/-- With the divisor `2 ^ 31 + 1` and a dividend that is not less than `2 ^ 31`, the first
steps only shift. -/
theorem toNat_iterate_divStep_of_eq {x y : BitVec 32} (hy : y.toNat = 2 ^ 31 + 1)
    (hx : 2 ^ 31 ≤ x.toNat) {k : ℕ} (hk : k ≤ 31) :
    ((divStep y)^[k] (divLoad x)).toNat = 2 ^ (k + 1) * x.toNat := by
  induction k with
  | zero => exact toNat_divLoad x
  | succ k ih =>
      have hlt := x.isLt
      have hpow : 2 ^ (k + 1) ≤ 2 ^ 31 := Nat.pow_le_pow_right (by decide) hk
      have hbig : 2 * 2 ^ 31 ≤ 2 ^ (k + 1) * x.toNat := by
        apply Nat.mul_le_mul _ hx
        exact Nat.le_self_pow (Nat.succ_ne_zero k) 2
      have hsmall : 2 ^ (k + 1) * x.toNat ≤ 2 ^ 31 * x.toNat := Nat.mul_le_mul_right _ hpow
      rw [Function.iterate_succ_apply', toNat_divStep, toNat_divTmp,
        ih (Nat.le_of_succ_le hk), hy, Nat.pow_succ 2 (k + 1), Nat.mul_right_comm]
      have hmsb : 2 ^ 31 ≤ (2 ^ 32 - (2 ^ 31 + 1) + 2 ^ (k + 1) * x.toNat / 2 ^ 32) % 2 ^ 32 := by
        omega
      rw [if_pos hmsb]
      omega

theorem quotient_of_eq {x y : BitVec 32} (hy : y.toNat = 2 ^ 31 + 1) (hx : 2 ^ 31 ≤ x.toNat) :
    quotient x y = x / y := by
  have hlt := x.isLt
  have hshifted := toNat_iterate_divStep_of_eq hy hx (Nat.le_refl 31)
  apply BitVec.eq_of_toNat_eq
  rw [quotient, BitVec.extractLsb'_toNat, Nat.shiftRight_zero, BitVec.toNat_udiv, hy,
    Function.iterate_succ_apply' (divStep y) 31, toNat_divStep, toNat_divTmp, hshifted, hy]
  rcases Nat.lt_or_eq_of_le hx with hgt | heq
  · have hone : x.toNat / (2 ^ 31 + 1) = 1 := by omega
    have htmp : ¬2 ^ 31 ≤
        (2 ^ 32 - (2 ^ 31 + 1) + 2 ^ (31 + 1) * x.toNat / 2 ^ 32) % 2 ^ 32 := by omega
    rw [hone, if_neg htmp]
    omega
  · rw [← heq]
    rfl

/-- The quotients that the divider computes. -/
theorem quotient_eq_iff {x y : BitVec 32} (hpos : y ≠ 0#32) :
    quotient x y = x / y ↔
      y.toNat ≤ 2 ^ 31 ∨ (y.toNat = 2 ^ 31 + 1 ∧ 2 ^ 31 ≤ x.toNat) := by
  constructor
  · intro hright
    by_contra hnot
    obtain ⟨hgreat, hother⟩ := not_or.mp hnot
    have hgreat' : 2 ^ 31 < y.toNat := Nat.not_le.mp hgreat
    exact quotient_ne_of_lt hgreat' ((divTmp_divLoad_lt_iff hgreat').mpr hother) hright
  · rintro (hle | ⟨hy, hx⟩)
    · exact quotient_of_le hle hpos
    · exact quotient_of_eq hy hx

/-! ## Results -/

theorem signed_eq (v : BitVec 32) (i : In) :
    signed v i = if i.a.msb = i.b.msb then v else -v := by
  rw [signed, BitVec.neg_eq_not_add]
  cases i.a.msb <;> cases i.b.msb <;> rfl

theorem toNat_abs_le (v : BitVec 32) : v.abs.toNat ≤ 2 ^ 31 := by
  have hlt := v.isLt
  rw [BitVec.toNat_abs]
  split
  · next hmsb =>
      have hle := (Alu.msb_eq_true_iff v).mp hmsb
      omega
  · next hmsb =>
      have hle := (Alu.msb_eq_false_iff v).mp (Bool.eq_false_iff.mpr hmsb)
      omega

theorem abs_ne_zero {v : BitVec 32} (h : v ≠ 0#32) : v.abs ≠ 0#32 := by
  rw [BitVec.abs_eq]
  split
  · exact BitVec.neg_ne_iff_ne_neg.mpr (by simpa using h)
  · exact h

/-- The division of the magnitudes with the sign put back is division towards zero. -/
theorem signed_udiv_abs (i : In) : signed (i.a.abs / i.b.abs) i = i.a.sdiv i.b := by
  rw [signed_eq, BitVec.sdiv_eq, BitVec.abs_eq, BitVec.abs_eq]
  cases ha : i.a.msb <;> cases hb : i.b.msb <;> rfl

end MultMac

namespace Execute

open Specs.Sync

theorem Timed.aluDataout_of_sdiv {s : State} {i : In} (h : Timed s)
    (hmoves : exFreeze s i = false) (hop : s.aluOp = aluopDiv) :
    aluDataout s i = (operandA s).sdiv (operandB s) := by
  have hdiv : IsDiv s.aluOp := Or.inl hop
  obtain ⟨hzero, hne⟩ := h.divQuotR_of_moves hmoves hdiv
  have hresult : aluDataout s i =
      MultMac.signed (s.multMac.divQuotR.extractLsb' 0 32) (multMacIn s i) := by
    rw [aluDataout_of_aluOp (Or.inl hdiv)]
    exact MultMac.result_of_div hop s.multMac
  have hfactor : ∀ v, MultMac.factor s.aluOp v = v.abs := fun v ↦ if_pos (Or.inl hop)
  rw [hresult]
  by_cases hb : operandB s = 0#32
  · rw [hzero hb, hb, BitVec.sdiv_zero, MultMac.signed_eq]
    split <;> rfl
  · have hquotient := MultMac.quotient_of_le (x := (operandA s).abs)
      (MultMac.toNat_abs_le (operandB s)) (MultMac.abs_ne_zero hb)
    rw [hne hb, hfactor, hfactor]
    exact (congrArg (MultMac.signed · (multMacIn s i)) hquotient).trans
      (MultMac.signed_udiv_abs (multMacIn s i))

theorem Timed.aluDataout_of_udiv {s : State} {i : In} (h : Timed s)
    (hmoves : exFreeze s i = false) (hop : s.aluOp = aluopDivu) :
    aluDataout s i =
      if operandB s = 0#32 then 0#32 else MultMac.quotient (operandA s) (operandB s) := by
  have hdiv : IsDiv s.aluOp := Or.inr hop
  obtain ⟨hzero, hne⟩ := h.divQuotR_of_moves hmoves hdiv
  have hfactor : ∀ v, MultMac.factor s.aluOp v = v := by
    intro v
    rw [MultMac.factor, hop]
    rfl
  have hresult : aluDataout s i = s.multMac.divQuotR.extractLsb' 0 32 := by
    rw [aluDataout_of_aluOp (Or.inl hdiv)]
    exact MultMac.result_of_divu hop s.multMac
  rw [hresult]
  split
  · next hb => rw [hzero hb]; rfl
  · next hb =>
      rw [hne hb, hfactor, hfactor]
      rfl

theorem eq_intMin_iff (v : BitVec 32) : v = 0x80000000#32 ↔ v.toInt = -2 ^ 31 := by
  rw [← BitVec.toInt_inj]
  rfl

theorem eq_negOne_iff (v : BitVec 32) : v = 0xffffffff#32 ↔ v.toInt = -1 := by
  rw [← BitVec.toInt_inj]
  rfl

theorem multMacOvforw_of_div {s : State} {i : In} (hop : IsDiv s.aluOp) :
    multMacOvforw s i = true ↔
      operandB s = 0#32 ∨ ((operandA s).toInt = -2 ^ 31 ∧ (operandB s).toInt = -1) := by
  have hunit := (isDiv_iff s i).mpr hop
  have hovforw : multMacOvforw s i =
      (MultMac.divByZero (multMacIn s i) ||
        (operandA s == 0x80000000#32 && operandB s == 0xffffffff#32)) := by
    rw [multMacOvforw, MultMac.ovforw]
    have haluOp : (multMacIn s i).aluOp = s.aluOp := rfl
    rcases hop with hop | hop <;> rw [haluOp, hop] <;> rfl
  rw [hovforw, MultMac.divByZero, hunit, Bool.and_true, Bool.or_eq_true, Bool.and_eq_true,
    beq_iff_eq, beq_iff_eq, beq_iff_eq, eq_intMin_iff, eq_negOne_iff]
  rfl

/-- What a division that leaves EX leaves behind. -/
structure DivisionResult (s : State) (i : In) : Prop where
  sdiv : decodeAluOp (exInsn s) = aluopDiv → aluDataout s i = (operandA s).sdiv (operandB s)
  udiv : decodeAluOp (exInsn s) = aluopDivu →
    (aluDataout s i = operandA s / operandB s ↔
      (operandB s).toNat ≤ 2 ^ 31 ∨
        ((operandB s).toNat = 2 ^ 31 + 1 ∧ 2 ^ 31 ≤ (operandA s).toNat))
  ovforw : IsDiv (decodeAluOp (exInsn s)) →
    (multMacOvforw s i = true ↔
      operandB s = 0#32 ∨ ((operandA s).toInt = -2 ^ 31 ∧ (operandB s).toInt = -1))

/-- `l.addi r3,r0,100`, `l.addi r4,r0,-7`, and `l.div r5,r3,r4` or `l.divu r5,r3,r4`. -/
def divideBy (aluOp : BitVec 4) : List (BitVec 32) :=
  [or32Addi ++ 3#5 ++ 0#5 ++ 100#16, or32Addi ++ 4#5 ++ 0#5 ++ 0xfff9#16,
    or32Alu ++ 5#5 ++ 3#5 ++ 4#5 ++ 0#7 ++ aluOp]

end Execute

end Specs.Or1200
