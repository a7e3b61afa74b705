import Mathlib.Logic.Function.Iterate
import Specs.Or1200.Defines

/-!
# Multiplier, divider and accumulator

`or1200_mult_mac` multiplies in a pipeline of three registers, divides one bit a
cycle, and adds products to a register of 64 bits.  Signed operations work on the
magnitudes of the operands and negate the result.
-/

namespace Specs.Or1200

namespace Gmultp2

structure State where
  p0 : BitVec 64
  p1 : BitVec 64
deriving DecidableEq, Inhabited

/-- The factors are `integer` variables, so they are signed. -/
def product (x y : BitVec 32) : BitVec 64 := x.signExtend 64 * y.signExtend 64

def next (s : State) (rst : Bool) (x y : BitVec 32) : State where
  p0 := if rst then 0 else product x y
  p1 := if rst then 0 else s.p0

end Gmultp2

namespace MultMac

structure In where
  rst : Bool
  exFreeze : Bool
  idMacrcOp : Bool
  macrcOp : Bool
  a : BitVec 32
  b : BitVec 32
  macOp : BitVec 3
  aluOp : BitVec 5
  sprCs : Bool
  sprWrite : Bool
  sprAddr : BitVec 32
  sprDatI : BitVec 32
deriving DecidableEq, Inhabited

structure State where
  exFreezeR : Bool
  multp2 : Gmultp2.State
  mulProdR : BitVec 64
  mulStallCount : BitVec 2
  macOpR1 : BitVec 3
  macOpR2 : BitVec 3
  macOpR3 : BitVec 3
  macStallR : Bool
  macR : BitVec 64
  divQuotR : BitVec 64
  divFree : Bool
  divCntr : BitVec 6
deriving DecidableEq, Inhabited

/-! ## Operands -/

def aluOpSmul (i : In) : Bool := i.aluOp == aluopMul

def aluOpUmul (i : In) : Bool := i.aluOp == aluopMulu

def aluOpMul (i : In) : Bool := aluOpSmul i || aluOpUmul i

def aluOpSdiv (i : In) : Bool := i.aluOp == aluopDiv

def aluOpUdiv (i : In) : Bool := i.aluOp == aluopDivu

def aluOpDiv (i : In) : Bool := aluOpSdiv i || aluOpUdiv i

/-- An operand of the unit: the magnitude for the signed operations. -/
def operand (v : BitVec 32) (i : In) : BitVec 32 :=
  if (aluOpSdiv i || aluOpSmul i) && v.msb then ~~~v + 1#32
  else if aluOpDiv i || aluOpMul i || i.macOp != macopNop then v
  else 0

def x (i : In) : BitVec 32 := operand i.a i

def y (i : In) : BitVec 32 := operand i.b i

def divByZero (i : In) : Bool := i.b == 0#32 && aluOpDiv i

/-! ## Outputs -/

/-- The low word of a result, negated if the signs of the operands differ. -/
def signed (v : BitVec 32) (i : In) : BitVec 32 :=
  if i.a.msb ^^ i.b.msb then ~~~v + 1#32 else v

def result (s : State) (i : In) : BitVec 32 :=
  if i.aluOp = aluopDiv then signed (s.divQuotR.extractLsb' 0 32) i
  else if i.aluOp = aluopDivu then s.divQuotR.extractLsb' 0 32
  else if i.aluOp = aluopMul then signed (s.mulProdR.extractLsb' 0 32) i
  else if i.aluOp = aluopMulu then s.mulProdR.extractLsb' 0 32
  else s.macR.extractLsb' 0 32

theorem result_of_div {i : In} (h : i.aluOp = aluopDiv) (s : State) :
    result s i = signed (s.divQuotR.extractLsb' 0 32) i := if_pos h

theorem result_of_divu {i : In} (h : i.aluOp = aluopDivu) (s : State) :
    result s i = s.divQuotR.extractLsb' 0 32 := by
  rw [result, h]
  rfl

theorem result_of_mul {i : In} (h : i.aluOp = aluopMul) (s : State) :
    result s i = signed (s.mulProdR.extractLsb' 0 32) i := by
  rw [result, h]
  rfl

theorem result_of_mulu {i : In} (h : i.aluOp = aluopMulu) (s : State) :
    result s i = s.mulProdR.extractLsb' 0 32 := by
  rw [result, h]
  rfl

theorem result_of_movhi {i : In} (h : i.aluOp = aluopMovhi) (s : State) :
    result s i = s.macR.extractLsb' 0 32 := by
  rw [result, h]
  rfl

def ovforw (s : State) (i : In) : Bool :=
  if i.aluOp = aluopMul then
    (s.mulProdR.getLsbD 31 && !((i.a.msb ^^ i.b.msb) && s.mulProdR.extractLsb' 0 31 == 0#31)) ||
      s.mulProdR.extractLsb' 32 32 != 0#32
  else if i.aluOp = aluopMulu then s.mulProdR.extractLsb' 32 32 != 0#32
  else if i.aluOp = aluopDivu ∨ i.aluOp = aluopDiv then
    divByZero i || (i.a == 0x80000000#32 && i.b == 0xffffffff#32)
  else false

def ovWe (i : In) : Bool := aluOpMul i || aluOpDiv i

def sprMacloWe (i : In) : Bool := i.sprCs && i.sprWrite && i.sprAddr.getLsbD macAddr

def sprMachiWe (i : In) : Bool := i.sprCs && i.sprWrite && !i.sprAddr.getLsbD macAddr

def sprDatO (s : State) (i : In) : BitVec 32 :=
  if i.sprAddr.getLsbD macAddr then s.macR.extractLsb' 0 32 else s.macR.extractLsb' 32 32

def divStall (s : State) (i : In) : Bool := s.divCntr != 0 || (!s.exFreezeR && aluOpDiv i)

def mulStall (s : State) (i : In) : Bool :=
  s.mulStallCount != 0 || (s.mulStallCount == 0 && aluOpMul i && !s.exFreezeR)

def multMacStall (s : State) (i : In) : Bool := s.macStallR || divStall s i || mulStall s i

/-! ## Next state -/

def divTmp (quot : BitVec 64) (y : BitVec 32) : BitVec 32 := quot.extractLsb' 32 32 - y

/-- One step of the serial division. -/
def divStep (y : BitVec 32) (quot : BitVec 64) : BitVec 64 :=
  if (divTmp quot y).msb then quot.extractLsb' 0 63 ++ 0#1
  else (divTmp quot y).extractLsb' 0 31 ++ quot.extractLsb' 0 32 ++ 1#1

/-- The register of the division when the dividend is loaded. -/
def divLoad (x : BitVec 32) : BitVec 64 := 0#31 ++ x ++ 0#1

/-- Whether the division is about to load its operand. -/
def divStarts (s : State) (i : In) : Bool := aluOpDiv i && s.divFree

def nextMacR (s : State) (i : In) : BitVec 64 :=
  if sprMacloWe i then s.macR.extractLsb' 32 32 ++ i.sprDatI
  else if sprMachiWe i then i.sprDatI ++ s.macR.extractLsb' 0 32
  else if s.macOpR3 = macopMac then s.macR + s.mulProdR
  else if s.macOpR3 = macopMsb then s.macR - s.mulProdR
  else if i.macrcOp && !i.exFreeze then 0
  else s.macR

def next (s : State) (i : In) : State where
  exFreezeR := if i.rst then true else i.exFreeze
  multp2 := Gmultp2.next s.multp2 i.rst (x i) (y i)
  mulProdR := if i.rst then 0 else s.multp2.p1
  mulStallCount :=
    if i.rst then 0
    else if s.mulStallCount = 0 then
      s.mulStallCount.extractLsb' 0 1 ++ BitVec.ofBool (aluOpMul i && !s.exFreezeR)
    else s.mulStallCount.extractLsb' 0 1 ++ 0#1
  macOpR1 := if i.rst then macopNop else if !s.exFreezeR then i.macOp else macopNop
  macOpR2 := if i.rst then macopNop else s.macOpR1
  macOpR3 := if i.rst then macopNop else s.macOpR2
  macStallR :=
    if i.rst then false
    else (i.macOp != macopNop || s.macOpR1 != macopNop || s.macOpR2 != macopNop) &&
      (i.idMacrcOp || s.macStallR)
  macR := if i.rst then 0 else nextMacR s i
  divQuotR :=
    if i.rst then 0
    else if divByZero i then 0
    else if s.divCntr ≠ 0 then divStep (y i) s.divQuotR
    else if divStarts s i then divLoad (x i)
    else s.divQuotR
  divFree :=
    if i.rst then true
    else if divByZero i then true
    else if s.divCntr ≠ 0 then s.divFree
    else if divStarts s i then false
    else s.divFree || !i.exFreeze
  divCntr :=
    if i.rst then 0
    else if divByZero i then 0
    else if s.divCntr ≠ 0 then s.divCntr - 1
    else if divStarts s i then 32
    else s.divCntr

/-! ## Operands of a multiplication or division -/

/-- The operand that an operation of the ALU works on. -/
def factor (aluOp : BitVec 5) (v : BitVec 32) : BitVec 32 :=
  if aluOp = aluopDiv ∨ aluOp = aluopMul then v.abs else v

theorem operand_eq_factor {i : In} (h : aluOpDiv i = true ∨ aluOpMul i = true)
    (v : BitVec 32) : operand v i = factor i.aluOp v := by
  have hor : (aluOpDiv i || aluOpMul i || i.macOp != macopNop) = true := by
    rw [Bool.or_eq_true, Bool.or_eq_true]
    exact Or.inl h
  rw [operand, hor, if_pos rfl, factor]
  by_cases hsigned : i.aluOp = aluopDiv ∨ i.aluOp = aluopMul
  · have hop : (aluOpSdiv i || aluOpSmul i) = true := by
      rw [aluOpSdiv, aluOpSmul, Bool.or_eq_true, beq_iff_eq, beq_iff_eq]
      exact hsigned
    rw [hop, Bool.true_and, if_pos hsigned, ← BitVec.neg_eq_not_add, BitVec.abs_eq]
  · have hop : (aluOpSdiv i || aluOpSmul i) = false := by
      rw [aluOpSdiv, aluOpSmul, Bool.or_eq_false_iff, beq_eq_false_iff_ne, beq_eq_false_iff_ne]
      exact not_or.mp hsigned
    rw [hop, Bool.false_and, if_neg Bool.false_ne_true, if_neg hsigned]

theorem aluOpDiv_iff (i : In) :
    aluOpDiv i = true ↔ i.aluOp = aluopDiv ∨ i.aluOp = aluopDivu := by
  rw [aluOpDiv, aluOpSdiv, aluOpUdiv, Bool.or_eq_true, beq_iff_eq, beq_iff_eq]

theorem aluOpMul_iff (i : In) :
    aluOpMul i = true ↔ i.aluOp = aluopMul ∨ i.aluOp = aluopMulu := by
  rw [aluOpMul, aluOpSmul, aluOpUmul, Bool.or_eq_true, beq_iff_eq, beq_iff_eq]

/-- No operation both multiplies and divides. -/
theorem aluOpMul_of_aluOpDiv {i : In} (h : aluOpDiv i = true) : aluOpMul i = false := by
  rcases (aluOpDiv_iff i).mp h with h | h <;> rw [aluOpMul, aluOpSmul, aluOpUmul, h] <;> rfl

/-! ## The stall -/

theorem multMacStall_eq_false_iff (s : State) (i : In) :
    multMacStall s i = false ↔
      s.macStallR = false ∧ s.divCntr = 0#6 ∧ s.mulStallCount = 0#2 ∧
        (s.exFreezeR = false → aluOpDiv i = false ∧ aluOpMul i = false) := by
  rw [multMacStall, divStall, mulStall]
  cases s.exFreezeR <;> cases aluOpDiv i <;> cases aluOpMul i <;>
    simp [and_assoc]

/-! ## A division in progress -/

/-- The operands `a` and `b` have been taken by the divider. -/
structure Divides (s : State) (aluOp : BitVec 5) (a b : BitVec 32) : Prop where
  taken : s.divFree = false
  left : s.divCntr.toNat ≤ 32
  quotient : s.divQuotR =
    (divStep (factor aluOp b))^[32 - s.divCntr.toNat] (divLoad (factor aluOp a))

/-- The divider works on its operands, or has given up because the divisor is zero. -/
def Division (s : State) (aluOp : BitVec 5) (a b : BitVec 32) : Prop :=
  (b = 0#32 ∧ s.divQuotR = 0#64) ∨ (b ≠ 0#32 ∧ Divides s aluOp a b)

section divider

variable {s : State} {i : In}

theorem divByZero_of_ne (h : i.b ≠ 0#32) : divByZero i = false := by
  rw [divByZero, beq_eq_false_iff_ne.mpr h, Bool.false_and]

theorem divByZero_of_aluOp (h : aluOpDiv i = false) : divByZero i = false := by
  rw [divByZero, h, Bool.and_false]

theorem division_of_zero (hrst : i.rst = false) (hdiv : aluOpDiv i = true)
    (hb : i.b = 0#32) : Division (next s i) i.aluOp i.a i.b := by
  have hzero : divByZero i = true := by
    rw [divByZero, hb, hdiv]
    rfl
  exact Or.inl ⟨hb, by simp [next, hrst, hzero]⟩

/-- The first step loads the dividend. -/
theorem division_start (hrst : i.rst = false) (hdiv : aluOpDiv i = true)
    (hcntr : s.divCntr = 0#6) (hfree : s.divFree = true) :
    Division (next s i) i.aluOp i.a i.b := by
  by_cases hb : i.b = 0#32
  · exact division_of_zero hrst hdiv hb
  · have hzero := divByZero_of_ne hb
    have hstarts : divStarts s i = true := by rw [divStarts, hdiv, hfree, Bool.true_and]
    refine Or.inr ⟨hb, ?_, ?_, ?_⟩
    · simp [next, hrst, hzero, hcntr, hstarts]
    · simp [next, hrst, hzero, hcntr, hstarts]
    · simp [next, hrst, hzero, hcntr, hstarts, x, operand_eq_factor (Or.inl hdiv)]

theorem Divides.next (h : Divides s i.aluOp i.a i.b) (hrst : i.rst = false)
    (hfreeze : i.exFreeze = true) (hdiv : aluOpDiv i = true) (hb : i.b ≠ 0#32) :
    Divides (MultMac.next s i) i.aluOp i.a i.b := by
  have hzero := divByZero_of_ne hb
  have hstarts : divStarts s i = false := by rw [divStarts, h.taken, Bool.and_false]
  by_cases hcntr : s.divCntr = 0#6
  · -- The quotient is complete and is held.
    have hcntr' : (MultMac.next s i).divCntr = s.divCntr := by
      simp [MultMac.next, hrst, hzero, hcntr, hstarts]
    have hquot' : (MultMac.next s i).divQuotR = s.divQuotR := by
      simp [MultMac.next, hrst, hzero, hcntr, hstarts]
    refine ⟨?_, ?_, ?_⟩
    · simp [MultMac.next, hrst, hzero, hcntr, hstarts, h.taken, hfreeze]
    · rw [hcntr']
      exact h.left
    · rw [hcntr', hquot']
      exact h.quotient
  · have hpos : s.divCntr.toNat ≠ 0 := by
      intro h0
      exact hcntr (BitVec.eq_of_toNat_eq h0)
    have hleft := h.left
    have hsub : (s.divCntr - 1#6).toNat = s.divCntr.toNat - 1 := by
      rw [BitVec.toNat_sub, BitVec.toNat_ofNat]
      omega
    have hcntr' : (MultMac.next s i).divCntr = s.divCntr - 1#6 := by
      simp [MultMac.next, hrst, hzero, hcntr]
    refine ⟨?_, ?_, ?_⟩
    · simp [MultMac.next, hrst, hzero, hcntr, h.taken]
    · rw [hcntr', hsub]
      exact (Nat.sub_le _ 1).trans hleft
    · have hsteps : 32 - (s.divCntr.toNat - 1) = 32 - s.divCntr.toNat + 1 := by omega
      rw [hcntr', hsub, hsteps, Function.iterate_succ_apply', ← h.quotient]
      simp [MultMac.next, hrst, hzero, hcntr, y, operand_eq_factor (Or.inl hdiv)]

theorem Division.next (h : Division s i.aluOp i.a i.b) (hrst : i.rst = false)
    (hfreeze : i.exFreeze = true) (hdiv : aluOpDiv i = true) :
    Division (MultMac.next s i) i.aluOp i.a i.b := by
  rcases h with ⟨hb, -⟩ | ⟨hb, h⟩
  · exact division_of_zero hrst hdiv hb
  · exact Or.inr ⟨hb, h.next hrst hfreeze hdiv hb⟩

/-- The divider does not load its operands. -/
def DivStays (s : State) (i : In) : Prop := divByZero i = true ∨ divStarts s i = false

theorem divStays_of_aluOp (h : aluOpDiv i = false) : DivStays s i :=
  Or.inr (by rw [divStarts, h, Bool.false_and])

theorem Division.divStays (h : Division s i.aluOp i.a i.b) : DivStays s i := by
  cases hdiv : aluOpDiv i with
  | false => exact divStays_of_aluOp hdiv
  | true =>
      rcases h with ⟨hb, -⟩ | ⟨-, h⟩
      · apply Or.inl
        rw [divByZero, hb, hdiv]
        rfl
      · apply Or.inr
        rw [divStarts, h.taken, Bool.and_false]

theorem DivStays.divCntr_next (h : DivStays s i) (hcntr : s.divCntr = 0#6) :
    (MultMac.next s i).divCntr = 0#6 := by
  rcases h with hzero | hstarts
  · simp [MultMac.next, hzero]
  · simp [MultMac.next, hcntr, hstarts]

theorem DivStays.divFree_next (h : DivStays s i) (hcntr : s.divCntr = 0#6)
    (hmoves : i.exFreeze = false) : (MultMac.next s i).divFree = true := by
  rcases h with hzero | hstarts
  · simp [MultMac.next, hzero]
  · simp [MultMac.next, hcntr, hstarts, hmoves]

end divider

/-! ## A multiplication in progress -/

/-- The product of the operands has come as far as the stall counter says. -/
structure Multiplies (s : State) (aluOp : BitVec 5) (a b : BitVec 32) : Prop where
  first : s.multp2.p0 = Gmultp2.product (factor aluOp a) (factor aluOp b)
  second : s.mulStallCount ≠ 1#2 →
    s.multp2.p1 = Gmultp2.product (factor aluOp a) (factor aluOp b)
  third : s.mulStallCount = 0#2 →
    s.mulProdR = Gmultp2.product (factor aluOp a) (factor aluOp b)

section multiplier

variable {s : State} {i : In}

theorem mulStallCount_next (hrst : i.rst = false) :
    (next s i).mulStallCount =
      s.mulStallCount.extractLsb' 0 1 ++
        BitVec.ofBool (s.mulStallCount == 0#2 && (aluOpMul i && !s.exFreezeR)) := by
  by_cases hcount : s.mulStallCount = 0#2
  · simp [next, hrst, hcount]
  · have hbeq : (s.mulStallCount == 0#2) = false := beq_eq_false_iff_ne.mpr hcount
    simp [next, hrst, hcount, hbeq]

theorem mulStallCount_next_of_idle (hcount : s.mulStallCount = 0#2)
    (h : s.exFreezeR = false → aluOpMul i = false) : (next s i).mulStallCount = 0#2 := by
  cases hrst : i.rst with
  | true => simp [next, hrst]
  | false =>
      have hstays : (aluOpMul i && !s.exFreezeR) = false := by
        cases hfresh : s.exFreezeR with
        | true => rw [Bool.not_true, Bool.and_false]
        | false => rw [h hfresh, Bool.false_and]
      rw [mulStallCount_next hrst, hcount, hstays]
      rfl

theorem p0_next (hrst : i.rst = false) (hmul : aluOpMul i = true) :
    (next s i).multp2.p0 = Gmultp2.product (factor i.aluOp i.a) (factor i.aluOp i.b) := by
  simp [next, Gmultp2.next, hrst, x, y, operand_eq_factor (Or.inr hmul)]

/-- The first step starts the counter. -/
theorem multiplies_start (hrst : i.rst = false) (hmul : aluOpMul i = true)
    (hcount : s.mulStallCount = 0#2) (hfresh : s.exFreezeR = false) :
    Multiplies (next s i) i.aluOp i.a i.b := by
  have hcount' : (next s i).mulStallCount = 1#2 := by
    rw [mulStallCount_next hrst, hcount, hmul, hfresh]
    rfl
  refine ⟨p0_next hrst hmul, ?_, ?_⟩
  · intro h
    exact absurd hcount' h
  · intro h
    rw [hcount'] at h
    exact absurd h (by decide)

theorem Multiplies.next (h : Multiplies s i.aluOp i.a i.b) (hrst : i.rst = false)
    (hmul : aluOpMul i = true) : Multiplies (MultMac.next s i) i.aluOp i.a i.b := by
  refine ⟨p0_next hrst hmul, ?_, ?_⟩
  · intro _
    calc (MultMac.next s i).multp2.p1 = s.multp2.p0 := by
          simp [MultMac.next, Gmultp2.next, hrst]
      _ = _ := h.first
  · intro hcount'
    -- The counter goes from 1 to 2 and from 2 to 0.
    have hcount : s.mulStallCount ≠ 1#2 := by
      intro hone
      have htwo : (MultMac.next s i).mulStallCount = 2#2 := by
        have hbusy : (1#2 == 0#2) = false := rfl
        rw [mulStallCount_next hrst, hone, hbusy, Bool.false_and]
        rfl
      exact absurd (htwo.symm.trans hcount') (by decide)
    calc (MultMac.next s i).mulProdR = s.multp2.p1 := by simp [MultMac.next, hrst]
      _ = _ := h.second hcount

end multiplier

end MultMac

end Specs.Or1200
