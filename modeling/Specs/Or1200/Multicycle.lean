import Specs.Bits.Field
import Specs.Or1200.Execute

/-!
# Multiplications and divisions in EX

A multiplication or a division stays in EX until the unit is done, because the freeze
logic waits for the stall of the unit to go.  The results are read off in the cycle in
which the instruction leaves.  An ALU instruction is assumed to have bit 4 clear: the
decoder compares it where it waits, and drops it where it selects the operation.
-/

namespace Specs.Or1200.Execute

open Specs.Sync

/-- The reserved bit next to the operation of an ALU instruction is clear. -/
def Reserved (insn : BitVec 32) : Prop := opcode insn = or32Alu → insn.getLsbD 4 = false

instance (insn : BitVec 32) : Decidable (Reserved insn) :=
  inferInstanceAs (Decidable (_ → _))

def IsDiv (aluOp : BitVec 5) : Prop := aluOp = aluopDiv ∨ aluOp = aluopDivu

def IsMul (aluOp : BitVec 5) : Prop := aluOp = aluopMul ∨ aluOp = aluopMulu

instance (aluOp : BitVec 5) : Decidable (IsDiv aluOp) := inferInstanceAs (Decidable (_ ∨ _))

instance (aluOp : BitVec 5) : Decidable (IsMul aluOp) := inferInstanceAs (Decidable (_ ∨ _))

theorem aluField_of_reserved {insn : BitVec 32} (h : insn.getLsbD 4 = false) :
    insn.extractLsb' 0 5 = 0#1 ++ insn.extractLsb' 0 4 := by
  apply (Bits.extractLsb'_eq_append_iff insn 0 0#1 (insn.extractLsb' 0 4)).mpr
  refine ⟨?_, rfl⟩
  apply BitVec.eq_of_getLsbD_eq
  intro k hk
  obtain rfl : k = 0 := Nat.lt_one_iff.mp hk
  simpa using h

/-- Multiplications and divisions are `l.muli` and four ALU instructions. -/
theorem opcode_of_aluOp {insn : BitVec 32}
    (h : IsDiv (decodeAluOp insn) ∨ IsMul (decodeAluOp insn)) :
    opcode insn = or32Muli ∨
      opcode insn = or32Alu ∧ decodeAluOp insn = 0#1 ++ insn.extractLsb' 0 4 := by
  by_cases hmuli : opcode insn = or32Muli
  · exact Or.inl hmuli
  · by_cases halu : opcode insn = or32Alu
    · apply Or.inr
      refine ⟨halu, ?_⟩
      rw [decodeAluOp, halu]
      rfl
    · -- Every other operation is a constant of the decoder.
      exfalso
      revert h
      rw [decodeAluOp, if_neg hmuli, if_neg halu]
      repeat' split
      all_goals decide

/-- Whoever multiplies or divides waits for the unit. -/
theorem waitOn_of_aluOp {insn : BitVec 32} (hreserved : Reserved insn)
    (h : IsDiv (decodeAluOp insn) ∨ IsMul (decodeAluOp insn)) :
    waitOn insn = waitOnMultmac := by
  rcases opcode_of_aluOp h with hmuli | ⟨halu, hop⟩
  · rw [waitOn, hmuli]
    rfl
  · rw [waitOn, if_pos halu, aluField_of_reserved (hreserved halu), ← hop]
    apply if_pos
    rcases h with (hdiv | hdivu) | (hmul | hmulu)
    · exact Or.inl hdiv
    · exact Or.inr (Or.inl hdivu)
    · exact Or.inr (Or.inr (Or.inl hmul))
    · exact Or.inr (Or.inr (Or.inr hmulu))

/-! ## The invariant -/

/-- An instruction that has just entered EX finds the unit idle, and one that
multiplies or divides keeps EX until the unit is idle again. -/
structure Timed (s : State) : Prop where
  divCntr_of_fresh : s.multMac.exFreezeR = false → s.multMac.divCntr = 0#6
  divFree_of_fresh : s.multMac.exFreezeR = false → s.multMac.divFree = true
  waits : s.multMac.exFreezeR = false → (IsDiv s.aluOp ∨ IsMul s.aluOp) →
    s.waitingOn = waitOnMultmac
  divIdle : s.waitingOn ≠ waitOnMultmac → s.multMac.divCntr = 0#6
  mulIdle_of_fresh : s.multMac.exFreezeR = false → s.multMac.mulStallCount = 0#2
  mulIdle : s.waitingOn ≠ waitOnMultmac → s.multMac.mulStallCount = 0#2
  division : s.multMac.exFreezeR = true → IsDiv s.aluOp →
    MultMac.Division s.multMac s.aluOp (operandA s) (operandB s)
  product : s.multMac.exFreezeR = true → IsMul s.aluOp →
    MultMac.Multiplies s.multMac s.aluOp (operandA s) (operandB s)

theorem timed_next_of_rst (s : State) {i : In} (h : i.rst = true) : Timed (next s i) := by
  have hfresh : (next s i).multMac.exFreezeR = true := if_pos h
  have haluOp : (next s i).aluOp = aluopNop := latch_of_rst h
  have hcntr : (next s i).multMac.divCntr = 0#6 := if_pos h
  have hcount : (next s i).multMac.mulStallCount = 0#2 := if_pos h
  constructor
  · exact fun _ ↦ hcntr
  · exact fun hfalse ↦ absurd (hfresh.symm.trans hfalse) (by decide)
  · exact fun hfalse ↦ absurd (hfresh.symm.trans hfalse) (by decide)
  · exact fun _ ↦ hcntr
  · exact fun _ ↦ hcount
  · exact fun _ ↦ hcount
  · intro _ hdiv
    rw [haluOp] at hdiv
    exact absurd hdiv (by decide)
  · intro _ hmul
    rw [haluOp] at hmul
    exact absurd hmul (by decide)

/-! ### EX moves on -/

section moves

variable {s : State} {i : In}

theorem isDiv_iff (s : State) (i : In) :
    MultMac.aluOpDiv (multMacIn s i) = true ↔ IsDiv s.aluOp := MultMac.aluOpDiv_iff _

theorem isMul_iff (s : State) (i : In) :
    MultMac.aluOpMul (multMacIn s i) = true ↔ IsMul s.aluOp := MultMac.aluOpMul_iff _

theorem exFreezeR_next (hrst : i.rst = false) :
    (next s i).multMac.exFreezeR = exFreeze s i :=
  if_neg (ne_true_of_eq_false hrst)

/-- An instruction that multiplies or divides does not leave in its first cycle. -/
theorem Timed.exFreezeR_of_moves (h : Timed s) (hmoves : exFreeze s i = false)
    (hop : IsDiv s.aluOp ∨ IsMul s.aluOp) : s.multMac.exFreezeR = true := by
  rw [← Bool.not_eq_false]
  intro hfresh
  have hwaits := h.waits hfresh hop
  rw [(waitingOn_of_exFreeze hmoves).1] at hwaits
  exact absurd hwaits (by decide)

theorem Timed.idle_of_moves (h : Timed s) (hmoves : exFreeze s i = false) :
    s.multMac.divCntr = 0#6 ∧ s.multMac.mulStallCount = 0#2 := by
  have hwaiting : s.waitingOn ≠ waitOnMultmac := by
    rw [(waitingOn_of_exFreeze hmoves).1]
    decide
  exact ⟨h.divIdle hwaiting, h.mulIdle hwaiting⟩

theorem Timed.divStays (h : Timed s) (hfresh : IsDiv s.aluOp → s.multMac.exFreezeR = true) :
    MultMac.DivStays s.multMac (multMacIn s i) := by
  cases hdiv : MultMac.aluOpDiv (multMacIn s i) with
  | false => exact MultMac.divStays_of_aluOp hdiv
  | true =>
      have hop : IsDiv s.aluOp := (isDiv_iff s i).mp hdiv
      exact MultMac.Division.divStays (h.division (hfresh hop) hop)

theorem Timed.next_of_moves (h : Timed s) (hreserved : Reserved (idInsn s))
    (hrst : i.rst = false) (hmoves : exFreeze s i = false) : Timed (next s i) := by
  obtain ⟨hcntr, hcount⟩ := h.idle_of_moves hmoves
  have hstays : MultMac.DivStays s.multMac (multMacIn s i) :=
    h.divStays fun hop ↦ h.exFreezeR_of_moves hmoves (Or.inl hop)
  have hcntr' : (next s i).multMac.divCntr = 0#6 := hstays.divCntr_next hcntr
  have hcount' : (next s i).multMac.mulStallCount = 0#2 := by
    apply MultMac.mulStallCount_next_of_idle hcount
    intro hfresh
    rw [← Bool.not_eq_true, isMul_iff]
    intro hop
    exact absurd (hfresh.symm.trans (h.exFreezeR_of_moves hmoves (Or.inr hop))) (by decide)
  have hfresh' : (next s i).multMac.exFreezeR = false := (exFreezeR_next hrst).trans hmoves
  constructor
  · exact fun _ ↦ hcntr'
  · exact fun _ ↦ hstays.divFree_next hcntr hmoves
  · intro _ hop
    rw [waitingOn_next_of_moves hrst hmoves]
    cases hflush : i.flushpipe with
    | true =>
        have haluOp : (next s i).aluOp = aluopNop := latch_of_flushpipe hflush
        rw [haluOp] at hop
        exact absurd hop (by decide)
    | false =>
        have haluOp : (next s i).aluOp = decodeAluOp (idInsn s) :=
          latch_of_moves hrst hflush hmoves
        rw [haluOp] at hop
        exact waitOn_of_aluOp hreserved hop
  · exact fun _ ↦ hcntr'
  · exact fun _ ↦ hcount'
  · exact fun _ ↦ hcount'
  · exact fun hfrozen ↦ absurd (hfresh'.symm.trans hfrozen) (by decide)
  · exact fun hfrozen ↦ absurd (hfresh'.symm.trans hfrozen) (by decide)

end moves

/-! ### EX is frozen -/

section frozen

variable {s : State} {i : In}

/-- A frozen operand register is held. -/
theorem operands_next_of_exFreeze (hrst : i.rst = false) (hfrozen : exFreeze s i = true) :
    operandA (next s i) = operandA s ∧ operandB (next s i) = operandB s := by
  have hkept : ∀ muxed operand saved, Operandmuxes.nextOperand muxed operand saved
      (Operands.operandmuxesIn s.operands (operandsIn s i)) = (operand, saved) := by
    intro muxed operand saved
    have hrst' : (Operands.operandmuxesIn s.operands (operandsIn s i)).rst = false := hrst
    have hex : (Operands.operandmuxesIn s.operands (operandsIn s i)).exFreeze = true := hfrozen
    simp [Operandmuxes.nextOperand, hrst', hex]
  exact ⟨congrArg Prod.fst (hkept _ _ _), congrArg Prod.fst (hkept _ _ _)⟩

/-- The wait for the unit ends in a cycle in which the unit does not stall. -/
theorem waitingOn_next_of_exFreeze (hfrozen : exFreeze s i = true)
    (h : (next s i).waitingOn ≠ waitOnMultmac) :
    i.rst = true ∨ s.waitingOn ≠ waitOnMultmac ∨ macStall s i = false := by
  by_contra hnot
  obtain ⟨hrst, hwaiting, hstall⟩ := by simpa only [not_or, not_not] using hnot
  apply h
  have hrst' : i.rst = false := by simpa using hrst
  have hstall' : macStall s i = true := by simpa using hstall
  exact waitingOn_next_of_stall hrst' hfrozen hwaiting hstall'

theorem Timed.idle_of_released (h : Timed s) (hfrozen : exFreeze s i = true)
    (hrst : i.rst = false) (hreleased : (next s i).waitingOn ≠ waitOnMultmac) :
    s.multMac.divCntr = 0#6 ∧ s.multMac.mulStallCount = 0#2 ∧
      (s.multMac.exFreezeR = false → ¬IsDiv s.aluOp ∧ ¬IsMul s.aluOp) := by
  rcases waitingOn_next_of_exFreeze hfrozen hreleased with hreset | hwaiting | hstall
  · exact absurd (hrst.symm.trans hreset) (by decide)
  · refine ⟨h.divIdle hwaiting, h.mulIdle hwaiting, ?_⟩
    intro hfresh
    constructor
    · intro hop
      exact hwaiting (h.waits hfresh (Or.inl hop))
    · intro hop
      exact hwaiting (h.waits hfresh (Or.inr hop))
  · obtain ⟨-, hcntr, hcount, hop⟩ := (MultMac.multMacStall_eq_false_iff _ _).mp hstall
    refine ⟨hcntr, hcount, ?_⟩
    intro hfresh
    obtain ⟨hdiv, hmul⟩ := hop hfresh
    rw [← isDiv_iff s i, ← isMul_iff s i, hdiv, hmul]
    exact ⟨Bool.false_ne_true, Bool.false_ne_true⟩

theorem Timed.next_of_frozen (h : Timed s) (hrst : i.rst = false)
    (hfrozen : exFreeze s i = true) : Timed (next s i) := by
  have hfresh' : (next s i).multMac.exFreezeR = true := (exFreezeR_next hrst).trans hfrozen
  obtain ⟨ha, hb⟩ := operands_next_of_exFreeze hrst hfrozen
  constructor
  · exact fun hfresh ↦ absurd (hfresh'.symm.trans hfresh) (by decide)
  · exact fun hfresh ↦ absurd (hfresh'.symm.trans hfresh) (by decide)
  · exact fun hfresh ↦ absurd (hfresh'.symm.trans hfresh) (by decide)
  · intro hreleased
    obtain ⟨hcntr, -, hop⟩ := h.idle_of_released hfrozen hrst hreleased
    have hstays : MultMac.DivStays s.multMac (multMacIn s i) := by
      apply h.divStays
      intro hdiv
      rw [← Bool.not_eq_false]
      exact fun hfresh ↦ (hop hfresh).1 hdiv
    exact hstays.divCntr_next hcntr
  · exact fun hfresh ↦ absurd (hfresh'.symm.trans hfresh) (by decide)
  · intro hreleased
    obtain ⟨-, hcount, hop⟩ := h.idle_of_released hfrozen hrst hreleased
    apply MultMac.mulStallCount_next_of_idle hcount
    intro hfresh
    rw [← Bool.not_eq_true, isMul_iff]
    exact (hop hfresh).2
  · intro _ hdiv
    cases hflush : i.flushpipe with
    | true =>
        have haluOp : (next s i).aluOp = aluopNop := latch_of_flushpipe hflush
        rw [haluOp] at hdiv
        exact absurd hdiv (by decide)
    | false =>
        have haluOp : (next s i).aluOp = s.aluOp := latch_of_exFreeze hrst hflush hfrozen
        rw [haluOp] at hdiv ⊢
        rw [ha, hb]
        have hunit := (isDiv_iff s i).mpr hdiv
        cases hfresh : s.multMac.exFreezeR with
        | false =>
            exact MultMac.division_start (i := multMacIn s i) hrst hunit
              (h.divCntr_of_fresh hfresh) (h.divFree_of_fresh hfresh)
        | true =>
            exact MultMac.Division.next (i := multMacIn s i) (h.division hfresh hdiv) hrst
              hfrozen hunit
  · intro _ hmul
    cases hflush : i.flushpipe with
    | true =>
        have haluOp : (next s i).aluOp = aluopNop := latch_of_flushpipe hflush
        rw [haluOp] at hmul
        exact absurd hmul (by decide)
    | false =>
        have haluOp : (next s i).aluOp = s.aluOp := latch_of_exFreeze hrst hflush hfrozen
        rw [haluOp] at hmul ⊢
        rw [ha, hb]
        have hunit := (isMul_iff s i).mpr hmul
        cases hfresh : s.multMac.exFreezeR with
        | false =>
            exact MultMac.multiplies_start (i := multMacIn s i) hrst hunit
              (h.mulIdle_of_fresh hfresh) hfresh
        | true =>
            exact MultMac.Multiplies.next (i := multMacIn s i) (h.product hfresh hmul) hrst hunit

theorem Timed.next (h : Timed s) (hreserved : Reserved (idInsn s)) (i : In) :
    Timed (Execute.next s i) := by
  cases hrst : i.rst with
  | true => exact timed_next_of_rst s hrst
  | false =>
      cases hfreeze : exFreeze s i with
      | true => exact h.next_of_frozen hrst hfreeze
      | false => exact h.next_of_moves hreserved hrst hfreeze

end frozen

/-! ### Runs -/

section

variable (s₀ : State) (tr : ResetTrace gate) (hreserved : ∀ t, Reserved (tr t).ifInsn)
include hreserved

theorem reserved_stateAt (t : ℕ) : Reserved (idInsn (stateAt s₀ tr (t + 1))) := by
  have hvoid : Reserved Ctrl.voidInsn := by decide
  induction t with
  | zero =>
      have hinsn : idInsn (stateAt s₀ tr 1) = Ctrl.voidInsn := if_pos tr.reset_first
      rwa [hinsn]
  | succ t ih =>
      have hinsn : idInsn (stateAt s₀ tr (t + 1 + 1)) =
          if (tr (t + 1)).rst then Ctrl.voidInsn
          else if (tr (t + 1)).flushpipe then Ctrl.voidInsn
          else if !idFreeze (stateAt s₀ tr (t + 1)) (tr (t + 1)) then (tr (t + 1)).ifInsn
          else idInsn (stateAt s₀ tr (t + 1)) := rfl
      rw [hinsn]
      split
      · exact hvoid
      · split
        · exact hvoid
        · split
          · exact hreserved (t + 1)
          · exact ih

theorem timed_stateAt (t : ℕ) : Timed (stateAt s₀ tr (t + 1)) := by
  induction t with
  | zero => exact timed_next_of_rst s₀ tr.reset_first
  | succ t ih => exact ih.next (reserved_stateAt s₀ tr hreserved t) (tr (t + 1))

end

/-- The instructions of a program, fetched one a cycle after a reset. -/
def program (insns : List (BitVec 32)) : ResetTrace gate where
  cycle t :=
    { (default : In) with
      rst := t == 0
      ifInsn := if t = 0 then Ctrl.voidInsn else insns.getD (t - 1) Ctrl.voidInsn }
  reset_first := rfl

theorem reserved_program {insns : List (BitVec 32)} (h : insns.Forall Reserved)
    (t : ℕ) : Reserved (program insns t).ifInsn := by
  have hvoid : Reserved Ctrl.voidInsn := by decide
  change Reserved (if t = 0 then Ctrl.voidInsn else insns.getD (t - 1) Ctrl.voidInsn)
  split
  · exact hvoid
  · rw [List.getD_eq_getElem?_getD]
    cases hget : insns[t - 1]? with
    | none => exact hvoid
    | some insn => exact List.forall_iff_forall_mem.mp h insn (List.mem_of_getElem? hget)

/-! ## The cycle in which the instruction leaves -/

/-- The overflow flag of the unit. -/
def multMacOvforw (s : State) (i : In) : Bool := MultMac.ovforw s.multMac (multMacIn s i)

theorem aluDataout_of_aluOp {s : State} {i : In} (h : IsDiv s.aluOp ∨ IsMul s.aluOp) :
    aluDataout s i = multMacResult s i := Alu.result_of_multMac h

/-- A division leaves with all steps done, or with zero for a divisor of zero. -/
theorem Timed.divQuotR_of_moves {s : State} {i : In} (h : Timed s)
    (hmoves : exFreeze s i = false) (hop : IsDiv s.aluOp) :
    (operandB s = 0#32 → s.multMac.divQuotR = 0#64) ∧
      (operandB s ≠ 0#32 → s.multMac.divQuotR =
        (MultMac.divStep (MultMac.factor s.aluOp (operandB s)))^[32]
          (MultMac.divLoad (MultMac.factor s.aluOp (operandA s)))) := by
  have hfresh := h.exFreezeR_of_moves hmoves (Or.inl hop)
  obtain ⟨hcntr, -⟩ := h.idle_of_moves hmoves
  rcases h.division hfresh hop with ⟨hb, hzero⟩ | ⟨hb, hdivides⟩
  · exact ⟨fun _ ↦ hzero, fun hne ↦ absurd hb hne⟩
  · refine ⟨fun hzero ↦ absurd hzero hb, fun _ ↦ ?_⟩
    have hsteps : 32 - s.multMac.divCntr.toNat = 32 := by rw [hcntr]; rfl
    rw [← hsteps]
    exact hdivides.quotient

/-- A multiplication leaves with the product. -/
theorem Timed.mulProdR_of_moves {s : State} {i : In} (h : Timed s)
    (hmoves : exFreeze s i = false) (hop : IsMul s.aluOp) :
    s.multMac.mulProdR = Gmultp2.product (MultMac.factor s.aluOp (operandA s))
      (MultMac.factor s.aluOp (operandB s)) := by
  have hfresh := h.exFreezeR_of_moves hmoves (Or.inr hop)
  obtain ⟨-, hcount⟩ := h.idle_of_moves hmoves
  exact (h.product hfresh hop).third hcount

end Specs.Or1200.Execute
