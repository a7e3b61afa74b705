import Specs.Or1200.Sequential

/-!
# The overflow bit

Every arithmetic instruction leaves its overflow in SR, and no other instruction touches
the bit.  The ALU and the multiplication unit share it, and each is silent for the
instructions of the other.
-/

namespace Specs.Or1200

namespace Sprs

theorem srReg_next_overflow {s : State} {i : In} (hrst : i.rst = false)
    (hexc : i.exceptStarted = false) (hrfe : i.branchOp ≠ branchopRfe)
    (hkeeps : (sprWe i && srSel s i) = false) :
    (next s i).srReg.getLsbD srOv = if i.ovWe then i.ovforw else s.srReg.getLsbD srOv := by
  have hwriter : flagWriter i srOv = if i.ovWe then some i.ovforw else none := rfl
  rw [srReg_next_of_flagWriter hrst hexc hrfe hkeeps (by decide) (by decide), hwriter]
  · cases i.ovWe <;> rfl
  · rw [hwriter, srWe]
    cases i.ovWe <;> simp

end Sprs

namespace Isa

/-- When an operation sets the overflow bit, for the operations that write it.  A
subtraction also sets it for a small positive number less a greater one and for a negative
number less the least one, and a multiplication for the least number times one. -/
def Overflowed (a b : BitVec 32) (carry : Bool) : Operation → Option Prop
  | .add => some (Alu.Overflows (a.toInt + b.toInt))
  | .addc => some (Alu.Overflows (a.toInt + b.toInt + carry.toNat))
  | .sub => some (Alu.Overflows (a.toInt - b.toInt) ∨ (0 ≤ a.toInt ∧ a.toInt < b.toInt) ∨
      (a.toInt < 0 ∧ b.toInt = -2 ^ 31))
  | .mul => some (Alu.Overflows (a.toInt * b.toInt) ∨ (a.toInt = -2 ^ 31 ∧ b.toInt = 1) ∨
      (a.toInt = 1 ∧ b.toInt = -2 ^ 31))
  | .mulu => some (¬(0 ≤ a.toInt * b.toInt ∧ a.toInt * b.toInt < 2 ^ 32))
  | .div => some (b = 0#32 ∨ (a.toInt = -2 ^ 31 ∧ b.toInt = -1))
  | .divu => some (b = 0#32 ∨ (a.toInt = -2 ^ 31 ∧ b.toInt = -1))
  | _ => none

end Isa

namespace Datapath

open Specs.Sync

section

variable {s : State} {i : In}

/-- The overflow bit after a cycle in which EX moves on. -/
structure OverflowResult (s s' : State) : Prop where
  written : ∀ op overflowed, Isa.operation (exInsn s) = some op →
    Isa.Overflowed (operandA s) (operandB s) (s.sprs.srReg.getLsbD srCy) op = some overflowed →
      (s'.sprs.srReg.getLsbD srOv = true ↔ overflowed)
  kept : (∀ op, Isa.operation (exInsn s) = some op →
      Isa.Overflowed (operandA s) (operandB s) (s.sprs.srReg.getLsbD srCy) op = none) →
    s'.sprs.srReg.getLsbD srOv = s.sprs.srReg.getLsbD srOv

theorem overflow_next (hplain : Plain s i) :
    (next s i).sprs.srReg.getLsbD srOv =
      if Alu.ovWe (aluIn s i) || MultMac.ovWe (multMacIn s i) then
        Alu.ovforw (aluIn s i) || MultMac.ovforw s.execute.multMac (multMacIn s i)
      else s.sprs.srReg.getLsbD srOv :=
  Sprs.srReg_next_overflow (s := s.sprs) (i := sprsIn s i) hplain.running hplain.notStarted
    hplain.notRfe hplain.keepsSr

/-- The ALU has the sums, the other unit the products and the quotients. -/
theorem overflow_next_of_sum (hplain : Plain s i)
    (haluOp : s.execute.aluOp = aluopAdd ∨ s.execute.aluOp = aluopAddc ∨
      s.execute.aluOp = aluopSub) :
    (next s i).sprs.srReg.getLsbD srOv = Alu.ovforw (aluIn s i) := by
  have hop : (aluIn s i).aluOp = s.execute.aluOp := rfl
  have hop' : (multMacIn s i).aluOp = s.execute.aluOp := rfl
  have hwe : Alu.ovWe (aluIn s i) = true := by
    rw [Alu.ovWe, hop]
    rcases haluOp with h | h | h <;> rw [h] <;> rfl
  have hsilent : MultMac.ovforw s.execute.multMac (multMacIn s i) = false := by
    rw [MultMac.ovforw, hop']
    rcases haluOp with h | h | h <;> rw [h] <;> rfl
  rw [overflow_next hplain, hwe, hsilent, Bool.true_or, if_pos rfl, Bool.or_false]

theorem overflow_next_of_unit (hplain : Plain s i)
    (haluOp : Execute.IsDiv s.execute.aluOp ∨ Execute.IsMul s.execute.aluOp) :
    (next s i).sprs.srReg.getLsbD srOv =
      MultMac.ovforw s.execute.multMac (multMacIn s i) := by
  have hop : (aluIn s i).aluOp = s.execute.aluOp := rfl
  have hop' : (multMacIn s i).aluOp = s.execute.aluOp := rfl
  have hsilent : Alu.ovforw (aluIn s i) = false := by
    rw [Alu.ovforw, hop]
    rcases haluOp with (h | h) | (h | h) <;> rw [h] <;> rfl
  have hwe : MultMac.ovWe (multMacIn s i) = true := by
    rw [MultMac.ovWe, MultMac.aluOpMul, MultMac.aluOpDiv, MultMac.aluOpSmul, MultMac.aluOpUmul,
      MultMac.aluOpSdiv, MultMac.aluOpUdiv, hop']
    rcases haluOp with (h | h) | (h | h) <;> rw [h] <;> rfl
  rw [overflow_next hplain, hwe, hsilent, Bool.or_true, if_pos rfl, Bool.false_or]

/-- The signed product of two unsigned factors, as the multiplier sees them. -/
theorem unsigned_ovforw (h : Consistent s) (hmoves : exFreeze s i = false)
    (hmulu : s.execute.aluOp = aluopMulu) :
    MultMac.ovforw s.execute.multMac (multMacIn s i) = true ↔
      ¬(0 ≤ (operandA s).toInt * (operandB s).toInt ∧
        (operandA s).toInt * (operandB s).toInt < 2 ^ 32) := by
  have hfactor : ∀ v, MultMac.factor s.execute.aluOp v = v := by
    intro v
    rw [MultMac.factor, hmulu]
    rfl
  have hprod := h.timed.mulProdR_of_moves (i := executeIn s i) hmoves (Or.inr hmulu)
  have hop : (multMacIn s i).aluOp = aluopMulu := hmulu
  have hovforw : MultMac.ovforw s.execute.multMac (multMacIn s i) =
      (s.execute.multMac.mulProdR.extractLsb' 32 32 != 0#32) := by
    rw [MultMac.ovforw, hop]
    rfl
  rw [hovforw, hprod, hfactor, hfactor, bne_iff_ne, Ne, Gmultp2.high_product_eq_zero_iff]
  rfl

theorem Consistent.overflowResult (h : Consistent s) (hplain : Plain s i)
    (hmoves : exFreeze s i = false) : OverflowResult s (Datapath.next s i) := by
  have hdecoded : s.execute.aluOp = Execute.decodeAluOp (exInsn s) := h.decoded.aluOp
  constructor
  · intro op overflowed hop hoverflowed
    have haluOp : s.execute.aluOp = op.aluOp :=
      hdecoded.trans (Isa.presents_of_operation hop).aluOp
    have hcarry : (aluIn s i).carry = s.sprs.srReg.getLsbD srCy :=
      Sprs.sr_getLsbD (by decide) (by decide)
    cases op with
    | add =>
        cases hoverflowed
        have hval : Alu.carryVal (aluIn s i) = 0 := by
          rw [Alu.carryVal, show (aluIn s i).aluOp = aluopAdd from haluOp]
          rfl
        rw [overflow_next_of_sum hplain (Or.inl haluOp), Alu.ovforw_of_add (Or.inl haluOp), hval]
        simp only [Nat.cast_zero, add_zero]
        rfl
    | addc =>
        cases hoverflowed
        have hval : Alu.carryVal (aluIn s i) = (s.sprs.srReg.getLsbD srCy).toNat := by
          rw [← hcarry, Alu.carryVal, show (aluIn s i).aluOp = aluopAddc from haluOp]
          rfl
        rw [overflow_next_of_sum hplain (Or.inr (Or.inl haluOp)),
          Alu.ovforw_of_add (Or.inr haluOp), hval]
        rfl
    | sub =>
        cases hoverflowed
        rw [overflow_next_of_sum hplain (Or.inr (Or.inr haluOp)), Alu.ovforw_of_sub haluOp]
        rfl
    | mul =>
        cases hoverflowed
        rw [overflow_next_of_unit hplain (Or.inr (Or.inl haluOp))]
        exact (h.timed.productResult h.decoded (i := executeIn s i) hmoves).signed_ovforw
          (hdecoded.symm.trans haluOp)
    | mulu =>
        cases hoverflowed
        rw [overflow_next_of_unit hplain (Or.inr (Or.inr haluOp))]
        exact unsigned_ovforw h hmoves haluOp
    | div =>
        cases hoverflowed
        rw [overflow_next_of_unit hplain (Or.inl (Or.inl haluOp))]
        exact Execute.multMacOvforw_of_div (i := executeIn s i) (Or.inl haluOp)
    | divu =>
        cases hoverflowed
        rw [overflow_next_of_unit hplain (Or.inl (Or.inr haluOp))]
        exact Execute.multMacOvforw_of_div (i := executeIn s i) (Or.inr haluOp)
    | _ => cases hoverflowed
  · intro hnone
    have hquiet : ∀ aluOp, s.execute.aluOp = aluOp →
        (aluOp ∉ [aluopAdd, aluopAddc, aluopSub, aluopMul, aluopMulu, aluopDiv, aluopDivu]) →
        (Datapath.next s i).sprs.srReg.getLsbD srOv = s.sprs.srReg.getLsbD srOv := by
      rintro aluOp rfl hnot
      simp only [List.mem_cons, List.not_mem_nil, or_false, not_or] at hnot
      have hop : (aluIn s i).aluOp = s.execute.aluOp := rfl
      have hop' : (multMacIn s i).aluOp = s.execute.aluOp := rfl
      have hwe : (Alu.ovWe (aluIn s i) || MultMac.ovWe (multMacIn s i)) = false := by
        simp only [Alu.ovWe, MultMac.ovWe, MultMac.aluOpMul, MultMac.aluOpDiv, MultMac.aluOpSmul,
          MultMac.aluOpUmul, MultMac.aluOpSdiv, MultMac.aluOpUdiv, hop, hop',
          Bool.or_eq_false_iff, beq_eq_false_iff_ne]
        exact ⟨⟨⟨hnot.2.1, hnot.2.2.1⟩, hnot.1⟩,
          ⟨hnot.2.2.2.1, hnot.2.2.2.2.1⟩, hnot.2.2.2.2.2.1, hnot.2.2.2.2.2.2⟩
      rw [overflow_next hplain, hwe, if_neg Bool.false_ne_true]
    cases hop : Isa.operation (exInsn s) with
    | none =>
        rcases Isa.decodeAluOp_of_not_mem (h.exSuitable.not_mem_of_none hop) with hcomp | hnop
        · exact hquiet aluopComp (hdecoded.trans hcomp) (by decide)
        · exact hquiet aluopNop (hdecoded.trans hnop) (by decide)
    | some op =>
        have haluOp : s.execute.aluOp = op.aluOp :=
          hdecoded.trans (Isa.presents_of_operation hop).aluOp
        apply hquiet op.aluOp haluOp
        have hsome := hnone op hop
        cases op <;> first | decide | cases hsome

end

/-- `l.movhi r3,0x8000` and `l.addi r4,r3,-1`. -/
def leastLessOne : List (BitVec 32) :=
  [or32Movhi ++ 3#5 ++ 0#5 ++ 0x8000#16, or32Addi ++ 4#5 ++ 3#5 ++ 0xffff#16]

end Datapath

end Specs.Or1200
