import Mathlib.Algebra.Order.Ring.Abs
import Specs.Or1200.Multicycle

/-!
# Results of multiplications

The multiplier takes its factors as signed words, also when they are magnitudes or
unsigned numbers.  The low word of the product does not depend on this, but the
overflow flags look at the high word.
-/

namespace Specs.Or1200

namespace Gmultp2

theorem extractLsb'_signExtend (x : BitVec 32) : (x.signExtend 64).extractLsb' 0 32 = x := by
  apply BitVec.eq_of_getLsbD_eq
  intro k hk
  have hword : k < 64 := hk.trans (by decide)
  rw [BitVec.getLsbD_extractLsb', BitVec.getLsbD_signExtend]
  simp [hk, hword]

theorem extractLsb'_product (x y : BitVec 32) : (product x y).extractLsb' 0 32 = x * y := by
  rw [product, BitVec.extractLsb'_mul (by decide), extractLsb'_signExtend,
    extractLsb'_signExtend]

theorem abs_toInt_le (x : BitVec 32) : |x.toInt| ≤ 2 ^ 31 := by
  rw [abs_le]
  exact ⟨BitVec.le_toInt x, (BitVec.toInt_lt).le⟩

/-- The product of two signed words fits. -/
theorem toInt_product (x y : BitVec 32) : (product x y).toInt = x.toInt * y.toInt := by
  have hbound : |x.toInt * y.toInt| ≤ 2 ^ 31 * 2 ^ 31 := by
    rw [abs_mul]
    exact mul_le_mul (abs_toInt_le x) (abs_toInt_le y) (abs_nonneg _) (by decide)
  obtain ⟨hlow, hhigh⟩ := abs_le.mp hbound
  rw [product, BitVec.toInt_mul, BitVec.toInt_signExtend_of_le (by decide),
    BitVec.toInt_signExtend_of_le (by decide)]
  apply Int.bmod_eq_of_le_mul_two
  · omega
  · omega

theorem high_eq_zero_iff (v : BitVec 64) : v.extractLsb' 32 32 = 0#32 ↔ v.toNat < 2 ^ 32 := by
  have hlt := v.isLt
  rw [← BitVec.toNat_inj, BitVec.extractLsb'_toNat, Nat.shiftRight_eq_div_pow, BitVec.toNat_ofNat]
  omega

/-- The high word of a product is zero when the product is an unsigned word. -/
theorem high_product_eq_zero_iff (x y : BitVec 32) :
    (product x y).extractLsb' 32 32 = 0#32 ↔
      0 ≤ x.toInt * y.toInt ∧ x.toInt * y.toInt < 2 ^ 32 := by
  have hlt := (product x y).isLt
  rw [high_eq_zero_iff, ← toInt_product, BitVec.toInt_eq_toNat_cond]
  split <;> omega

end Gmultp2

namespace MultMac

/-- The product of the magnitudes with the sign put back is the product. -/
theorem signed_mul_abs (i : In) : signed (i.a.abs * i.b.abs) i = i.a * i.b := by
  rw [signed, BitVec.abs_eq, BitVec.abs_eq]
  cases i.a.msb <;> cases i.b.msb <;> simp [← BitVec.neg_eq_not_add]

/-- The overflow flag of a signed multiplication, for the product of the magnitudes. -/
def mulOverflows (a b : BitVec 32) (prod : BitVec 64) : Bool :=
  (prod.getLsbD 31 && !((a.msb ^^ b.msb) && prod.extractLsb' 0 31 == 0#31)) ||
    prod.extractLsb' 32 32 != 0#32

theorem mulOverflows_eq_true_iff (a b : BitVec 32) (prod : BitVec 64) :
    mulOverflows a b prod = true ↔
      (prod.toNat / 2 ^ 31 % 2 = 1 ∧ ¬(a.msb ≠ b.msb ∧ prod.toNat % 2 ^ 31 = 0)) ∨
        2 ^ 32 ≤ prod.toNat := by
  have hbit : prod.getLsbD 31 = true ↔ prod.toNat / 2 ^ 31 % 2 = 1 := by
    rw [BitVec.getLsbD, Nat.testBit_eq_decide_div_mod_eq, decide_eq_true_eq]
  have hlow : prod.extractLsb' 0 31 = 0#31 ↔ prod.toNat % 2 ^ 31 = 0 := by
    rw [← BitVec.toNat_inj, BitVec.extractLsb'_toNat, Nat.shiftRight_zero, BitVec.toNat_ofNat]
  rw [mulOverflows, Bool.or_eq_true, Bool.and_eq_true, Bool.not_eq_true', ← Bool.not_eq_true,
    Bool.and_eq_true, beq_iff_eq, hbit, hlow]
  simp only [bne_iff_ne, Ne, Gmultp2.high_eq_zero_iff, Nat.not_lt]

/-- The magnitude of a word as a signed number. -/
theorem toInt_abs_eq (v : BitVec 32) :
    v.abs.toInt = if v.toInt = -2 ^ 31 then -2 ^ 31 else |v.toInt| := by
  have hmin : v = BitVec.intMin 32 ↔ v.toInt = -2 ^ 31 := by
    rw [← BitVec.toInt_inj]
    rfl
  rw [BitVec.toInt_abs_eq_natAbs, Int.natCast_natAbs]
  simp only [hmin]
  rfl

theorem msb_eq_true_iff_neg (v : BitVec 32) : v.msb = true ↔ v.toInt < 0 := by
  rw [BitVec.toInt_neg_iff, BitVec.msb_eq_true_iff_two_mul_ge]

/-- The magnitude `2 ^ 31` is negative for the multiplier, so the flag is set for the least
number times 1. -/
theorem mulOverflows_product_iff (a b : BitVec 32) :
    mulOverflows a b (Gmultp2.product a.abs b.abs) = true ↔
      Alu.Overflows (a.toInt * b.toInt) ∨ (a.toInt = -2 ^ 31 ∧ b.toInt = 1) ∨
        (a.toInt = 1 ∧ b.toInt = -2 ^ 31) := by
  have hlt := (Gmultp2.product a.abs b.abs).isLt
  have hA := BitVec.le_toInt a
  have hB := BitVec.le_toInt b
  have hprod := Gmultp2.toInt_product a.abs b.abs
  have hsign : a.msb ≠ b.msb ↔ (a.toInt < 0 ∧ 0 ≤ b.toInt) ∨ (0 ≤ a.toInt ∧ b.toInt < 0) := by
    rw [← Int.not_lt, ← Int.not_lt, ← msb_eq_true_iff_neg, ← msb_eq_true_iff_neg]
    cases a.msb <;> cases b.msb <;> simp
  rw [toInt_abs_eq, toInt_abs_eq, BitVec.toInt_eq_toNat_cond] at hprod
  rw [mulOverflows_eq_true_iff, hsign, Alu.Overflows]
  generalize (Gmultp2.product a.abs b.abs).toNat = prod at hlt hprod ⊢
  generalize a.toInt = A at hA hprod ⊢
  generalize b.toInt = B at hB hprod ⊢
  by_cases hAmin : A = -2 ^ 31
  · rw [hAmin, if_pos rfl] at hprod
    rw [hAmin]
    by_cases hBmin : B = -2 ^ 31
    · rw [hBmin, if_pos rfl] at hprod
      rw [hBmin]
      omega
    · rw [if_neg hBmin] at hprod
      rcases abs_cases B with ⟨habs, hnonneg⟩ | ⟨habs, hneg⟩
      · rw [habs] at hprod
        omega
      · rw [habs] at hprod
        omega
  · rw [if_neg hAmin] at hprod
    by_cases hBmin : B = -2 ^ 31
    · rw [hBmin, if_pos rfl] at hprod
      rw [hBmin]
      rcases abs_cases A with ⟨habs, hnonneg⟩ | ⟨habs, hneg⟩
      · rw [habs] at hprod
        omega
      · rw [habs] at hprod
        omega
    · -- Both magnitudes are positive numbers of 31 bits.
      rw [if_neg hBmin, ← abs_mul] at hprod
      by_cases hdiff : (A < 0 ∧ 0 ≤ B) ∨ (0 ≤ A ∧ B < 0)
      · have hneg : A * B ≤ 0 := by
          rcases hdiff with ⟨ha, hb⟩ | ⟨ha, hb⟩
          · exact mul_nonpos_iff.mpr (Or.inr ⟨ha.le, hb⟩)
          · exact mul_nonpos_iff.mpr (Or.inl ⟨ha, hb.le⟩)
        rw [abs_of_nonpos hneg] at hprod
        generalize A * B = P at hneg hprod ⊢
        omega
      · have hnonneg : 0 ≤ A * B := by
          rcases le_or_gt 0 A with ha | ha
          · exact mul_nonneg ha (by omega)
          · exact mul_nonneg_of_nonpos_of_nonpos ha.le (by omega)
        rw [abs_of_nonneg hnonneg] at hprod
        generalize A * B = P at hnonneg hprod ⊢
        omega

/-- Two great unsigned factors whose complements have a product of one word. -/
def UnsignedSlips (a b : BitVec 32) : Prop :=
  (2 ^ 31 ≤ a.toNat ∧ b.toNat = 1) ∨ (a.toNat = 1 ∧ 2 ^ 31 ≤ b.toNat) ∨
    (2 ^ 31 ≤ a.toNat ∧ 2 ^ 31 ≤ b.toNat ∧ (2 ^ 32 - a.toNat) * (2 ^ 32 - b.toNat) < 2 ^ 32)

theorem UnsignedSlips.symm {a b : BitVec 32} (h : UnsignedSlips a b) : UnsignedSlips b a := by
  rcases h with ⟨ha, hb⟩ | ⟨ha, hb⟩ | ⟨ha, hb, hlt⟩
  · exact Or.inr (Or.inl ⟨hb, ha⟩)
  · exact Or.inl ⟨hb, ha⟩
  · exact Or.inr (Or.inr ⟨hb, ha, by rwa [Nat.mul_comm]⟩)

/-- One great factor. -/
theorem unsigned_mixed {a b : BitVec 32} (ha : 2 ^ 31 ≤ a.toNat) (hb : b.toNat < 2 ^ 31) :
    ((¬(0 ≤ a.toInt * b.toInt ∧ a.toInt * b.toInt < 2 ^ 32)) ↔ 2 ^ 32 ≤ a.toNat * b.toNat) ↔
      ¬UnsignedSlips a b := by
  have hlt := a.isLt
  have hA : a.toInt = a.toNat - 2 ^ 32 :=
    Alu.toInt_eq_of_msb_true ((Alu.msb_eq_true_iff a).mpr ha)
  have hB : b.toInt = b.toNat := Alu.toInt_eq_of_msb_false ((Alu.msb_eq_false_iff b).mpr hb)
  have hslips : UnsignedSlips a b ↔ b.toNat = 1 := by
    rw [UnsignedSlips]
    omega
  rw [hslips, hA, hB]
  rcases Nat.lt_or_ge 0 b.toNat with hpos | hzero
  · have hneg : ((a.toNat : ℤ) - 2 ^ 32) * b.toNat < 0 := by
      apply mul_neg_of_neg_of_pos
      · omega
      · exact_mod_cast hpos
    have hflag : ¬(0 ≤ ((a.toNat : ℤ) - 2 ^ 32) * b.toNat ∧
        ((a.toNat : ℤ) - 2 ^ 32) * b.toNat < 2 ^ 32) := fun h ↦ absurd h.1 (not_le.mpr hneg)
    rw [iff_true_left hflag]
    rcases Nat.lt_or_eq_of_le (Nat.succ_le_of_lt hpos) with hgt | hone
    · have hge : 2 ^ 31 * 2 ≤ a.toNat * b.toNat := Nat.mul_le_mul ha hgt
      omega
    · rw [← hone]
      omega
  · obtain hb0 : b.toNat = 0 := Nat.le_zero.mp hzero
    rw [hb0]
    omega

/-- When the overflow flag of an unsigned multiplication tells the truth. -/
theorem unsigned_exact_iff (a b : BitVec 32) :
    ((¬(0 ≤ a.toInt * b.toInt ∧ a.toInt * b.toInt < 2 ^ 32)) ↔ 2 ^ 32 ≤ a.toNat * b.toNat) ↔
      ¬UnsignedSlips a b := by
  rcases Nat.lt_or_ge a.toNat (2 ^ 31) with ha | ha
  · rcases Nat.lt_or_ge b.toNat (2 ^ 31) with hb | hb
    · have hslips : ¬UnsignedSlips a b := by
        rw [UnsignedSlips]
        omega
      rw [iff_true_right hslips, Alu.toInt_eq_of_msb_false ((Alu.msb_eq_false_iff a).mpr ha),
        Alu.toInt_eq_of_msb_false ((Alu.msb_eq_false_iff b).mpr hb), ← Nat.cast_mul]
      omega
    · have hsymm : UnsignedSlips a b ↔ UnsignedSlips b a := ⟨.symm, .symm⟩
      rw [hsymm, Nat.mul_comm, mul_comm a.toInt]
      exact unsigned_mixed hb ha
  · rcases Nat.lt_or_ge b.toNat (2 ^ 31) with hb | hb
    · exact unsigned_mixed ha hb
    · have hA := a.isLt
      have hB := b.isLt
      have hprod : a.toInt * b.toInt = ((2 ^ 32 - a.toNat) * (2 ^ 32 - b.toNat) : ℕ) := by
        rw [Alu.toInt_eq_of_msb_true ((Alu.msb_eq_true_iff a).mpr ha),
          Alu.toInt_eq_of_msb_true ((Alu.msb_eq_true_iff b).mpr hb), Nat.cast_mul,
          Nat.cast_sub hA.le, Nat.cast_sub hB.le, ← neg_mul_neg, neg_sub, neg_sub]
        rfl
      have hover : 2 ^ 32 ≤ a.toNat * b.toNat := by
        calc 2 ^ 32 ≤ 2 ^ 31 * 2 ^ 31 := by decide
          _ ≤ a.toNat * b.toNat := Nat.mul_le_mul ha hb
      have hslips : UnsignedSlips a b ↔ (2 ^ 32 - a.toNat) * (2 ^ 32 - b.toNat) < 2 ^ 32 := by
        rw [UnsignedSlips]
        omega
      rw [hprod, hslips, iff_true_right hover]
      omega

end MultMac

namespace Execute

open Specs.Sync

/-- What a multiplication that leaves EX leaves behind. -/
structure ProductResult (s : State) (i : In) : Prop where
  product : IsMul (decodeAluOp (exInsn s)) → aluDataout s i = operandA s * operandB s
  signed_ovforw : decodeAluOp (exInsn s) = aluopMul →
    (multMacOvforw s i = true ↔
      Alu.Overflows ((operandA s).toInt * (operandB s).toInt) ∨
        ((operandA s).toInt = -2 ^ 31 ∧ (operandB s).toInt = 1) ∨
          ((operandA s).toInt = 1 ∧ (operandB s).toInt = -2 ^ 31))
  unsigned_ovforw : decodeAluOp (exInsn s) = aluopMulu →
    ((multMacOvforw s i = true ↔ 2 ^ 32 ≤ (operandA s).toNat * (operandB s).toNat) ↔
      ¬MultMac.UnsignedSlips (operandA s) (operandB s))

theorem Timed.productResult {s : State} {i : In} (h : Timed s) (hdecoded : Decoded s)
    (hmoves : exFreeze s i = false) : ProductResult s i := by
  have haluOp := hdecoded.aluOp
  have hprod : ∀ hop : IsMul s.aluOp, s.multMac.mulProdR = _ :=
    fun hop ↦ h.mulProdR_of_moves hmoves hop
  constructor
  · intro hop
    rw [← haluOp] at hop
    rw [aluDataout_of_aluOp (Or.inr hop), multMacResult]
    rcases hop with hmul | hmulu
    · have hfactor : ∀ v, MultMac.factor s.aluOp v = v.abs := fun v ↦ if_pos (Or.inr hmul)
      rw [MultMac.result_of_mul hmul, hprod (Or.inl hmul), hfactor, hfactor,
        Gmultp2.extractLsb'_product]
      exact MultMac.signed_mul_abs (multMacIn s i)
    · have hfactor : ∀ v, MultMac.factor s.aluOp v = v := by
        intro v
        rw [MultMac.factor, hmulu]
        rfl
      rw [MultMac.result_of_mulu hmulu, hprod (Or.inr hmulu), hfactor, hfactor,
        Gmultp2.extractLsb'_product]
  · intro hmul
    rw [← haluOp] at hmul
    have hfactor : ∀ v, MultMac.factor s.aluOp v = v.abs := fun v ↦ if_pos (Or.inr hmul)
    have hovforw : multMacOvforw s i =
        MultMac.mulOverflows (operandA s) (operandB s) s.multMac.mulProdR := if_pos hmul
    rw [hovforw, hprod (Or.inl hmul), hfactor, hfactor]
    exact MultMac.mulOverflows_product_iff (operandA s) (operandB s)
  · intro hmulu
    rw [← haluOp] at hmulu
    have hfactor : ∀ v, MultMac.factor s.aluOp v = v := by
      intro v
      rw [MultMac.factor, hmulu]
      rfl
    have hovforw : multMacOvforw s i = (s.multMac.mulProdR.extractLsb' 32 32 != 0#32) := by
      have hunit : (multMacIn s i).aluOp = aluopMulu := hmulu
      rw [multMacOvforw, MultMac.ovforw, hunit]
      rfl
    rw [hovforw, hprod (Or.inr hmulu), hfactor, hfactor, bne_iff_ne, Ne,
      Gmultp2.high_product_eq_zero_iff]
    exact MultMac.unsigned_exact_iff (operandA s) (operandB s)

/-- `l.movhi r3,0x8000`, `l.addi r4,r0,1`, and `l.mul r5,r3,r4`. -/
def multiplyLeast : List (BitVec 32) :=
  [or32Movhi ++ 3#5 ++ 0#5 ++ 0x8000#16, or32Addi ++ 4#5 ++ 0#5 ++ 1#16,
    or32Alu ++ 5#5 ++ 3#5 ++ 4#5 ++ 0#1 ++ 3#2 ++ 0#4 ++ 6#4]

end Execute

end Specs.Or1200
