import Specs.Bits.Field
import Specs.Or1200.Defines

/-!
# Arithmetic and logic unit

`or1200_alu` is combinational.  One adder of 33 bits serves additions and
subtractions; the flags are derived from it and from one comparison.
-/

namespace Specs.Or1200.Alu

structure In where
  a : BitVec 32
  b : BitVec 32
  multMacResult : BitVec 32
  macrcOp : Bool
  aluOp : BitVec 5
  aluOp2 : BitVec 4
  compOp : BitVec 4
  carry : Bool
  flag : Bool
deriving DecidableEq, Inhabited

/-! ## Comparison and sum -/

/-- An operand of the comparison: for a signed one the sign bit is turned over. -/
def comp (v : BitVec 32) (i : In) : BitVec 32 :=
  BitVec.ofBool (v.msb ^^ i.compOp.getLsbD 3) ++ v.extractLsb' 0 31

def compA (i : In) : BitVec 32 := comp i.a i

def compB (i : In) : BitVec 32 := comp i.b i

def cySub (i : In) : Bool := decide (compA i < compB i)

def carryIn (i : In) : BitVec 33 :=
  if i.aluOp = aluopAddc then (BitVec.ofBool i.carry).setWidth 33 else 0

def bMux (i : In) : BitVec 32 := if i.aluOp = aluopSub then ~~~i.b + 1#32 else i.b

def sum (i : In) : BitVec 33 := i.a.setWidth 33 + (bMux i).setWidth 33 + carryIn i

def resultSum (i : In) : BitVec 32 := (sum i).extractLsb' 0 32

def cySum (i : In) : Bool := (sum i).getLsbD 32

def ovSum (i : In) : Bool :=
  (!i.a.msb && !(bMux i).msb && (resultSum i).msb) ||
    (!i.a.msb && (bMux i).msb && (resultSum i).msb && i.aluOp == aluopSub) ||
    (i.a.msb && (bMux i).msb && !(resultSum i).msb)

def resultAnd (i : In) : BitVec 32 := i.a &&& i.b

/-! ## Result -/

/-- The chain of conditionals of `l.ff1` and `l.fl1`: the first set bit among `ks`. -/
def firstSet (a : BitVec 32) (ks : List ℕ) : BitVec 32 :=
  ks.foldr (fun k rest ↦ if a.getLsbD k then BitVec.ofNat 32 (k + 1) else rest) 0

def ffl1 (i : In) : BitVec 32 :=
  if i.aluOp2 = 0 then firstSet i.a (List.range 32) else firstSet i.a (List.range 32).reverse

def shiftAmount (i : In) : ℕ := (i.b.extractLsb' 0 5).toNat

/-- Rotation is not implemented, so everything but the logical shifts is `l.sra`. -/
def shiftedRotated (i : In) : BitVec 32 :=
  if i.aluOp2 = shrotopSll then i.a <<< shiftAmount i
  else if i.aluOp2 = shrotopSrl then i.a >>> shiftAmount i
  else
    (bif i.a.msb then BitVec.allOnes 32 else 0#32) <<< (32 - shiftAmount i) |||
      i.a >>> shiftAmount i

def extended (i : In) : BitVec 32 :=
  if i.aluOp2 = exthbopHs then (i.a.extractLsb' 0 16).signExtend 32
  else if i.aluOp2 = exthbopBs then (i.a.extractLsb' 0 8).signExtend 32
  else if i.aluOp2 = exthbopHz then (i.a.extractLsb' 0 16).setWidth 32
  else if i.aluOp2 = exthbopBz then (i.a.extractLsb' 0 8).setWidth 32
  else i.a

def result (i : In) : BitVec 32 :=
  if i.aluOp = aluopFfl1 then ffl1 i
  else if i.aluOp = aluopShrot then shiftedRotated i
  else if i.aluOp = aluopAddc ∨ i.aluOp = aluopSub ∨ i.aluOp = aluopAdd then resultSum i
  else if i.aluOp = aluopXor then i.a ^^^ i.b
  else if i.aluOp = aluopOr then i.a ||| i.b
  else if i.aluOp = aluopExthb then extended i
  else if i.aluOp = aluopExtw then i.a
  else if i.aluOp = aluopMovhi then if i.macrcOp then i.multMacResult else i.b <<< 16
  else if i.aluOp = aluopDiv ∨ i.aluOp = aluopDivu ∨ i.aluOp = aluopMul ∨
      i.aluOp = aluopMulu then i.multMacResult
  else if i.aluOp = aluopCmov then if i.flag then i.a else i.b
  else resultAnd i

theorem result_of_multMac {i : In} (h : (i.aluOp = aluopDiv ∨ i.aluOp = aluopDivu) ∨
    (i.aluOp = aluopMul ∨ i.aluOp = aluopMulu)) : result i = i.multMacResult := by
  rcases h with (h | h) | (h | h) <;> rw [result, h] <;> rfl

theorem result_of_macrc {i : In} (h : i.aluOp = aluopMovhi) (hmacrc : i.macrcOp = true) :
    result i = i.multMacResult := by
  rw [result, h, hmacrc]
  rfl

/-! ## Flags -/

def flagcomp (i : In) : Bool :=
  match i.compOp.extractLsb' 0 3 with
  | 0b000#3 => compA i == compB i
  | 0b001#3 => compA i != compB i
  | 0b010#3 => decide (compA i > compB i)
  | 0b011#3 => decide (compA i ≥ compB i)
  | 0b100#3 => decide (compA i < compB i)
  | 0b101#3 => decide (compA i ≤ compB i)
  | _ => false

def flagforw (i : In) : Bool := flagcomp i

def flagWe (i : In) : Bool := i.aluOp == aluopComp

def cyforw (i : In) : Bool :=
  if i.aluOp = aluopAddc ∨ i.aluOp = aluopAdd then cySum i
  else if i.aluOp = aluopSub then cySub i
  else false

def cyWe (i : In) : Bool :=
  i.aluOp == aluopAddc || i.aluOp == aluopAdd || i.aluOp == aluopSub

def ovforw (i : In) : Bool :=
  if i.aluOp = aluopAddc ∨ i.aluOp = aluopSub ∨ i.aluOp = aluopAdd then ovSum i else false

def ovWe (i : In) : Bool :=
  i.aluOp == aluopAddc || i.aluOp == aluopSub || i.aluOp == aluopAdd

/-! ## The sum -/

def carryVal (i : In) : ℕ := if i.aluOp = aluopAddc then i.carry.toNat else 0

theorem toNat_carryIn (i : In) : (carryIn i).toNat = carryVal i := by
  rw [carryIn, carryVal]
  split
  · cases i.carry <;> rfl
  · rfl

theorem carryVal_le (i : In) : carryVal i ≤ 1 := by
  rw [carryVal]
  split
  · exact Bool.toNat_le i.carry
  · exact Nat.zero_le 1

theorem toNat_sum (i : In) :
    (sum i).toNat = (i.a.toNat + (bMux i).toNat + carryVal i) % 2 ^ 33 := by
  have ha : i.a.toNat < 2 ^ 33 := i.a.isLt.trans (by decide)
  have hb : (bMux i).toNat < 2 ^ 33 := (bMux i).isLt.trans (by decide)
  rw [sum, BitVec.toNat_add, BitVec.toNat_add, BitVec.toNat_setWidth, BitVec.toNat_setWidth,
    toNat_carryIn, Nat.mod_eq_of_lt ha, Nat.mod_eq_of_lt hb, Nat.mod_add_mod]

theorem toNat_resultSum (i : In) :
    (resultSum i).toNat = (i.a.toNat + (bMux i).toNat + carryVal i) % 2 ^ 32 := by
  rw [resultSum, BitVec.extractLsb'_toNat, toNat_sum, Nat.shiftRight_zero]
  exact Nat.mod_mod_of_dvd _ (Nat.pow_dvd_pow 2 (by decide))

theorem cySum_eq_true_iff (i : In) :
    cySum i = true ↔ 2 ^ 32 ≤ i.a.toNat + (bMux i).toNat + carryVal i := by
  have ha := i.a.isLt
  have hb := (bMux i).isLt
  have hc := carryVal_le i
  rw [cySum, BitVec.getLsbD, toNat_sum, Nat.testBit_eq_decide_div_mod_eq, decide_eq_true_eq]
  omega

theorem toNat_bMux_of_sub {i : In} (h : i.aluOp = aluopSub) :
    (bMux i).toNat = (2 ^ 32 - i.b.toNat) % 2 ^ 32 := by
  rw [bMux, if_pos h, ← BitVec.neg_eq_not_add, BitVec.toNat_neg]

theorem bMux_of_ne_sub {i : In} (h : i.aluOp ≠ aluopSub) : bMux i = i.b := if_neg h

theorem msb_eq_true_iff (v : BitVec 32) : v.msb = true ↔ 2 ^ 31 ≤ v.toNat := by
  rw [BitVec.msb_eq_true_iff_two_mul_ge]
  omega

theorem toInt_eq_of_msb_false {v : BitVec 32} (h : v.msb = false) : v.toInt = v.toNat := by
  rw [BitVec.toInt_eq_msb_cond, h]
  rfl

theorem toInt_eq_of_msb_true {v : BitVec 32} (h : v.msb = true) :
    v.toInt = v.toNat - 2 ^ 32 := by
  rw [BitVec.toInt_eq_msb_cond, h]
  rfl

/-! ## The comparison -/

theorem toNat_comp (v : BitVec 32) (i : In) :
    (comp v i).toNat = (v.msb ^^ i.compOp.getLsbD 3).toNat * 2 ^ 31 + v.toNat % 2 ^ 31 := by
  rw [comp, Bits.toNat_append_eq, BitVec.toNat_ofBool, BitVec.extractLsb'_toNat,
    Nat.shiftRight_zero]

/-- A signed comparison compares with the sign bits turned over. -/
theorem toNat_comp_of_signed {i : In} (h : i.compOp.getLsbD 3 = true) (v : BitVec 32) :
    ((comp v i).toNat : ℤ) = v.toInt + 2 ^ 31 := by
  have hlt := v.isLt
  have hmsb := msb_eq_true_iff v
  rw [toNat_comp, h]
  cases hv : v.msb with
  | false =>
      rw [toInt_eq_of_msb_false hv]
      simp only [hv, Bool.false_eq_true, false_iff] at hmsb
      simp only [Bool.xor_true, Bool.not_false, Bool.toNat_true]
      omega
  | true =>
      rw [toInt_eq_of_msb_true hv]
      simp only [hv, true_iff] at hmsb
      simp only [Bool.xor_true, Bool.not_true, Bool.toNat_false]
      omega

theorem toNat_comp_of_unsigned {i : In} (h : i.compOp.getLsbD 3 = false) (v : BitVec 32) :
    (comp v i).toNat = v.toNat := by
  have hlt := v.isLt
  have hmsb := msb_eq_true_iff v
  rw [toNat_comp, h]
  cases hv : v.msb with
  | false =>
      simp only [hv, Bool.false_eq_true, false_iff] at hmsb
      simp only [Bool.xor_false, Bool.toNat_false]
      omega
  | true =>
      simp only [hv, true_iff] at hmsb
      simp only [Bool.xor_false, Bool.toNat_true]
      omega

/-- The order of the comparison: of signed numbers if bit 3 of the operation is set. -/
def Below (i : In) (v w : BitVec 32) : Prop :=
  if i.compOp.getLsbD 3 then v.toInt < w.toInt else v.toNat < w.toNat

theorem comp_lt_comp_iff (i : In) (v w : BitVec 32) : comp v i < comp w i ↔ Below i v w := by
  rw [BitVec.lt_def, Below]
  split
  · next h =>
      have hv := toNat_comp_of_signed h v
      have hw := toNat_comp_of_signed h w
      omega
  · next h =>
      have hun : i.compOp.getLsbD 3 = false := by simpa using h
      rw [toNat_comp_of_unsigned hun, toNat_comp_of_unsigned hun]

theorem comp_inj {i : In} {v w : BitVec 32} : comp v i = comp w i ↔ v = w := by
  constructor
  · intro h
    have hnat : (comp v i).toNat = (comp w i).toNat := congrArg BitVec.toNat h
    cases hop : i.compOp.getLsbD 3 with
    | false =>
        rw [toNat_comp_of_unsigned hop, toNat_comp_of_unsigned hop] at hnat
        exact BitVec.eq_of_toNat_eq hnat
    | true =>
        apply BitVec.eq_of_toInt_eq
        have hv := toNat_comp_of_signed hop v
        have hw := toNat_comp_of_signed hop w
        omega
  · rintro rfl
    rfl

theorem comp_le_comp_iff (i : In) (v w : BitVec 32) : comp v i ≤ comp w i ↔ ¬Below i w v := by
  rw [← comp_lt_comp_iff, BitVec.not_lt]

/-- What a set-flag instruction asks for. -/
def Holds (i : In) : Prop :=
  match i.compOp.extractLsb' 0 3 with
  | 0b000#3 => i.a = i.b
  | 0b001#3 => i.a ≠ i.b
  | 0b010#3 => Below i i.b i.a
  | 0b011#3 => ¬Below i i.a i.b
  | 0b100#3 => Below i i.a i.b
  | 0b101#3 => ¬Below i i.b i.a
  | _ => False

/-- The flag of a set-flag instruction is the comparison it names. -/
theorem flagforw_eq_true_iff (i : In) : flagforw i = true ↔ Holds i := by
  rw [flagforw, flagcomp, Holds]
  split
  · rw [beq_iff_eq]
    exact comp_inj
  · rw [bne_iff_ne, Ne, Ne]
    exact comp_inj.not
  · rw [decide_eq_true_eq]
    exact comp_lt_comp_iff i i.b i.a
  · rw [decide_eq_true_eq]
    exact comp_le_comp_iff i i.b i.a
  · rw [decide_eq_true_eq]
    exact comp_lt_comp_iff i i.a i.b
  · rw [decide_eq_true_eq]
    exact comp_le_comp_iff i i.a i.b
  · exact iff_of_false Bool.false_ne_true id

/-! ## Carry and overflow -/

/-- A number that a signed word cannot hold. -/
def Overflows (n : ℤ) : Prop := n < -2 ^ 31 ∨ 2 ^ 31 ≤ n

theorem cyforw_of_add {i : In} (h : i.aluOp = aluopAdd ∨ i.aluOp = aluopAddc) :
    cyforw i = true ↔ 2 ^ 32 ≤ i.a.toNat + i.b.toNat + carryVal i := by
  have hsub : i.aluOp ≠ aluopSub := by
    rcases h with h | h <;> rw [h] <;> decide
  rw [cyforw, if_pos h.symm, cySum_eq_true_iff, bMux_of_ne_sub hsub]

/-- After a subtraction the carry is the borrow of the comparison. -/
theorem cyforw_of_sub {i : In} (h : i.aluOp = aluopSub) :
    cyforw i = true ↔ Below i i.a i.b := by
  have hadd : ¬(i.aluOp = aluopAddc ∨ i.aluOp = aluopAdd) := by
    rw [h]
    decide
  rw [cyforw, if_neg hadd, if_pos h, cySub, decide_eq_true_eq]
  exact comp_lt_comp_iff i i.a i.b

theorem msb_eq_false_iff (v : BitVec 32) : v.msb = false ↔ v.toNat < 2 ^ 31 := by
  rw [← Bool.not_eq_true, msb_eq_true_iff, Nat.not_le]

/-- The overflow of the adder, from the values of its operands. -/
theorem ovSum_eq_true_iff (i : In) :
    ovSum i = true ↔
      (i.a.toNat < 2 ^ 31 ∧ (bMux i).toNat < 2 ^ 31 ∧ 2 ^ 31 ≤ (resultSum i).toNat) ∨
      (i.a.toNat < 2 ^ 31 ∧ 2 ^ 31 ≤ (bMux i).toNat ∧ 2 ^ 31 ≤ (resultSum i).toNat ∧
        i.aluOp = aluopSub) ∨
      (2 ^ 31 ≤ i.a.toNat ∧ 2 ^ 31 ≤ (bMux i).toNat ∧ (resultSum i).toNat < 2 ^ 31) := by
  simp only [ovSum, Bool.or_eq_true, Bool.and_eq_true, Bool.not_eq_true', beq_iff_eq,
    msb_eq_true_iff, msb_eq_false_iff, and_assoc, or_assoc]

theorem ovforw_of_add {i : In} (h : i.aluOp = aluopAdd ∨ i.aluOp = aluopAddc) :
    ovforw i = true ↔ Overflows (i.a.toInt + i.b.toInt + carryVal i) := by
  have hsub : i.aluOp ≠ aluopSub := by
    rcases h with h | h <;> rw [h] <;> decide
  have hwrites : i.aluOp = aluopAddc ∨ i.aluOp = aluopSub ∨ i.aluOp = aluopAdd :=
    h.elim (fun hadd ↦ Or.inr (Or.inr hadd)) Or.inl
  have ha := i.a.isLt
  have hb := i.b.isLt
  have hc := carryVal_le i
  rw [ovforw, if_pos hwrites, ovSum_eq_true_iff, toNat_resultSum, bMux_of_ne_sub hsub, Overflows,
    BitVec.toInt_eq_toNat_cond, BitVec.toInt_eq_toNat_cond]
  simp only [hsub, and_false, false_or]
  split <;> split <;> omega

/-- The overflow flag of a subtraction is also set by a small positive number less a
greater one, and by a negative number less the least one. -/
theorem ovforw_of_sub {i : In} (h : i.aluOp = aluopSub) :
    ovforw i = true ↔
      Overflows (i.a.toInt - i.b.toInt) ∨ (0 ≤ i.a.toInt ∧ i.a.toInt < i.b.toInt) ∨
        (i.a.toInt < 0 ∧ i.b.toInt = -2 ^ 31) := by
  have hwrites : i.aluOp = aluopAddc ∨ i.aluOp = aluopSub ∨ i.aluOp = aluopAdd :=
    Or.inr (Or.inl h)
  have hcarry : carryVal i = 0 := by
    rw [carryVal, h]
    rfl
  have ha := i.a.isLt
  have hb := i.b.isLt
  rw [ovforw, if_pos hwrites, ovSum_eq_true_iff, toNat_resultSum, toNat_bMux_of_sub h, hcarry,
    Overflows, BitVec.toInt_eq_toNat_cond, BitVec.toInt_eq_toNat_cond]
  simp only [h, and_true]
  split <;> split <;> omega

end Specs.Or1200.Alu
