import Specs.Or1200.Alu
import Specs.Or1200.MultMac
import Specs.Or1200.Operands

/-!
# Execution stage

The decoder, the operand network, the arithmetic units and the counters that hold an
instruction in EX, wired as in `or1200_cpu`.  The instruction words, the load/store
unit, the special-purpose registers and the exceptions are inputs.
-/

namespace Specs.Or1200.Execute

open Specs.Sync

structure In where
  rst : Bool
  lsuStall : Bool
  lsuUnstall : Bool
  ifStall : Bool
  duStall : Bool
  abortEx : Bool
  abortMvspr : Bool
  flushpipe : Bool
  mtsprDone : Bool
  ifInsn : BitVec 32
  carry : Bool
  flag : Bool
  lsuDataout : BitVec 32
  sprsDataout : BitVec 32
  exPc : BitVec 32
  sprCsSys : Bool
  sprCsMac : Bool
  sprWe : Bool
  sprAddr : BitVec 32
  sprDatCpu : BitVec 32
  duRead : Bool
  spExceptionComb : Bool
deriving Inhabited

structure State where
  operands : Operands.State
  aluOp : BitVec 5
  aluOp2 : BitVec 4
  compOp : BitVec 4
  exMacOp : BitVec 3
  exMacrcOp : Bool
  multicycleCnt : BitVec 3
  waitingOn : BitVec 2
  multMac : MultMac.State
deriving Inhabited

/-! ## Decoding -/

def decodeAluOp (insn : BitVec 32) : BitVec 5 :=
  if opcode insn = or32Movhi then aluopMovhi
  else if opcode insn = or32Addi then aluopAdd
  else if opcode insn = or32Addic then aluopAddc
  else if opcode insn = or32Andi then aluopAnd
  else if opcode insn = or32Ori then aluopOr
  else if opcode insn = or32Xori then aluopXor
  else if opcode insn = or32Muli then aluopMul
  else if opcode insn = or32ShRoti then aluopShrot
  else if opcode insn = or32Sfxxi then aluopComp
  else if opcode insn = or32Alu then 0#1 ++ insn.extractLsb' 0 4
  else if opcode insn = or32Sfxx then aluopComp
  else aluopNop

def idMacrcOp (insn : BitVec 32) : Bool := opcode insn == or32Macrc && insn.getLsbD 16

def idMacOp (insn : BitVec 32) : BitVec 3 :=
  if opcode insn = or32Maci then macopMac
  else if opcode insn = or32Macmsb then insn.extractLsb' 0 3
  else macopNop

def multicycle (insn : BitVec 32) : BitVec 3 :=
  if opcode insn = or32Rfe ∨ opcode insn = or32Mfspr then twoCycles else oneCycle

/-- The whole field `insn[4:0]` is compared, while `alu_op` takes `insn[3:0]`. -/
def waitOn (insn : BitVec 32) : BitVec 2 :=
  if opcode insn = or32Alu then
    if insn.extractLsb' 0 5 = aluopDiv ∨ insn.extractLsb' 0 5 = aluopDivu ∨
        insn.extractLsb' 0 5 = aluopMul ∨ insn.extractLsb' 0 5 = aluopMulu then waitOnMultmac
    else waitOnNothing
  else if opcode insn = or32Macmsb ∨ opcode insn = or32Maci ∨ opcode insn = or32Muli then
    waitOnMultmac
  else if opcode insn = or32Macrc then
    if insn.getLsbD 16 then waitOnMultmac else waitOnNothing
  else if opcode insn = or32Mtspr then waitOnMtspr
  else waitOnNothing

/-! ## Wires -/

def freezeIn (s : State) (i : In) : Freeze.In where
  lsuStall := i.lsuStall
  lsuUnstall := i.lsuUnstall
  ifStall := i.ifStall
  multicycleCnt := s.multicycleCnt
  waitingOn := s.waitingOn
  duStall := i.duStall

def idFreeze (s : State) (i : In) : Bool := Freeze.idFreeze (freezeIn s i)

def exFreeze (s : State) (i : In) : Bool := Freeze.exFreeze (freezeIn s i) i.abortEx

def idInsn (s : State) : BitVec 32 := s.operands.ctrl.idInsn

def exInsn (s : State) : BitVec 32 := s.operands.ctrl.exInsn

def operandA (s : State) : BitVec 32 := s.operands.operandmuxes.operandA

def operandB (s : State) : BitVec 32 := s.operands.operandmuxes.operandB

def macOp (s : State) (i : In) : BitVec 3 := if i.abortMvspr then macopNop else s.exMacOp

def multMacIn (s : State) (i : In) : MultMac.In where
  rst := i.rst
  exFreeze := exFreeze s i
  idMacrcOp := idMacrcOp (idInsn s)
  macrcOp := s.exMacrcOp
  a := operandA s
  b := operandB s
  macOp := macOp s i
  aluOp := s.aluOp
  sprCs := i.sprCsMac
  sprWrite := i.sprWe
  sprAddr := i.sprAddr
  sprDatI := i.sprDatCpu

def multMacResult (s : State) (i : In) : BitVec 32 := MultMac.result s.multMac (multMacIn s i)

def macStall (s : State) (i : In) : Bool := MultMac.multMacStall s.multMac (multMacIn s i)

def aluIn (s : State) (i : In) : Alu.In where
  a := operandA s
  b := operandB s
  multMacResult := multMacResult s i
  macrcOp := s.exMacrcOp
  aluOp := s.aluOp
  aluOp2 := s.aluOp2
  compOp := s.compOp
  carry := i.carry
  flag := i.flag

def aluDataout (s : State) (i : In) : BitVec 32 := Alu.result (aluIn s i)

def operandsIn (s : State) (i : In) : Operands.In where
  rst := i.rst
  freeze := freezeIn s i
  abortEx := i.abortEx
  ifInsn := i.ifInsn
  idFlushpipe := i.flushpipe
  exFlushpipe := i.flushpipe
  wbFlushpipe := i.flushpipe
  aluDataout := aluDataout s i
  lsuDataout := i.lsuDataout
  sprsDataout := i.sprsDataout
  exPc := i.exPc
  cyWeAlu := Alu.cyWe (aluIn s i)
  sprCs := i.sprCsSys
  sprWe := i.sprWe
  sprAddr := i.sprAddr
  sprDatCpu := i.sprDatCpu
  duRead := i.duRead
  spExceptionComb := i.spExceptionComb

/-- A void instruction enters EX. -/
def voidsEx (s : State) (i : In) : Bool := (!exFreeze s i && idFreeze s i) || i.flushpipe

/-- A register that is decoded from the instruction on its way from ID to EX. -/
def latch {α : Type*} (nop : α) (decode : BitVec 32 → α) (s : State) (i : In) (old : α) : α :=
  if i.rst then nop
  else if voidsEx s i then nop
  else if !exFreeze s i then decode (idInsn s)
  else old

/-- There is no floating-point unit, so it is always done. -/
def fpuDone : Bool := true

def next (s : State) (i : In) : State where
  operands := Operands.next s.operands (operandsIn s i)
  aluOp := latch aluopNop decodeAluOp s i s.aluOp
  aluOp2 := latch 0 (BitVec.extractLsb' 6 4) s i s.aluOp2
  compOp := latch 0 (BitVec.extractLsb' 21 4) s i s.compOp
  exMacOp := latch macopNop idMacOp s i s.exMacOp
  exMacrcOp := latch false idMacrcOp s i s.exMacrcOp
  multicycleCnt :=
    if i.rst then 0
    else if s.multicycleCnt ≠ 0 then s.multicycleCnt - 1
    else if multicycle (idInsn s) ≠ 0 ∧ exFreeze s i = false then multicycle (idInsn s)
    else s.multicycleCnt
  waitingOn :=
    if i.rst then waitOnNothing
    else if s.waitingOn = waitOnMultmac ∧ macStall s i = false then waitOnNothing
    else if s.waitingOn = waitOnFpu ∧ fpuDone = true then waitOnNothing
    else if s.waitingOn = waitOnMtspr ∧ i.mtsprDone = true then waitOnNothing
    else if !exFreeze s i then waitOn (idInsn s)
    else s.waitingOn
  multMac := MultMac.next s.multMac (multMacIn s i)

def gate : Gate In := ⟨In.rst, fun _ ↦ true⟩

def stateAt (s₀ : State) (tr : ℕ → In) (t : ℕ) : State := run next s₀ tr t

theorem stateAt_succ (s₀ : State) (tr : ℕ → In) (t : ℕ) :
    stateAt s₀ tr (t + 1) = next (stateAt s₀ tr t) (tr t) := rfl

/-! ## Freezing -/

theorem idFreeze_operandsIn (s : State) (i : In) :
    Operands.idFreeze (operandsIn s i) = idFreeze s i := rfl

theorem exFreeze_operandsIn (s : State) (i : In) :
    Operands.exFreeze (operandsIn s i) = exFreeze s i := rfl

theorem exFreeze_of_idFreeze {s : State} {i : In} (h : idFreeze s i = true) :
    exFreeze s i = true :=
  Operands.exFreeze_of_idFreeze (i := operandsIn s i) h

/-- EX moves on only when nothing is waited for. -/
theorem waitingOn_of_exFreeze {s : State} {i : In} (h : exFreeze s i = false) :
    s.waitingOn = 0#2 ∧ s.multicycleCnt = 0#3 := by
  rw [exFreeze, Freeze.exFreeze, Freeze.wbFreeze] at h
  simp only [freezeIn, Freeze.multicycleFreeze, Bool.or_eq_false_iff, bne_eq_false_iff_eq] at h
  exact ⟨h.1.1.2, h.1.1.1.2⟩

theorem waitingOn_next_of_moves {s : State} {i : In} (hrst : i.rst = false)
    (h : exFreeze s i = false) : (next s i).waitingOn = waitOn (idInsn s) := by
  obtain ⟨hwaiting, -⟩ := waitingOn_of_exFreeze h
  simp [next, hrst, hwaiting, h, waitOnMultmac, waitOnFpu, waitOnMtspr]

/-- The wait for the unit goes on while the unit stalls. -/
theorem waitingOn_next_of_stall {s : State} {i : In} (hrst : i.rst = false)
    (h : exFreeze s i = true) (hwaiting : s.waitingOn = waitOnMultmac)
    (hstall : macStall s i = true) : (next s i).waitingOn = waitOnMultmac := by
  simp [next, hrst, hwaiting, hstall, h, waitOnMultmac, waitOnFpu, waitOnMtspr]

section latch

variable {α : Type*} {nop old : α} {decode : BitVec 32 → α} {s : State} {i : In}

theorem latch_of_rst (h : i.rst = true) : latch nop decode s i old = nop := by
  rw [latch, if_pos h]

theorem latch_of_flushpipe (h : i.flushpipe = true) : latch nop decode s i old = nop := by
  have hvoid : voidsEx s i = true := by rw [voidsEx, h, Bool.or_true]
  rw [latch, if_pos hvoid, ite_self]

/-- While EX is frozen, an instruction stays there unless it is flushed. -/
theorem latch_of_exFreeze (hrst : i.rst = false) (hflush : i.flushpipe = false)
    (h : exFreeze s i = true) : latch nop decode s i old = old := by
  simp [latch, voidsEx, hrst, hflush, h]

/-- When EX moves on, the instruction in ID enters unless it is flushed. -/
theorem latch_of_moves (hrst : i.rst = false) (hflush : i.flushpipe = false)
    (h : exFreeze s i = false) : latch nop decode s i old = decode (idInsn s) := by
  have hid : idFreeze s i = false := by
    cases hid : idFreeze s i with
    | false => rfl
    | true => exact absurd (h.symm.trans (exFreeze_of_idFreeze hid)) Bool.false_ne_true
  simp [latch, voidsEx, hrst, hflush, h, hid]

end latch

/-! ## The instruction in EX -/

theorem exInsn_next (s : State) (i : In) :
    exInsn (next s i) = latch Ctrl.voidInsn id s i (exInsn s) := rfl

/-- A register decoded from the instruction in EX goes with it. -/
theorem latch_decode {α : Type*} {nop old : α} {decode : BitVec 32 → α} {s : State} {i : In}
    (hvoid : decode Ctrl.voidInsn = nop) (hold : old = decode (exInsn s)) :
    latch nop decode s i old = decode (exInsn (next s i)) := by
  rw [exInsn_next]
  simp only [latch, apply_ite decode, hvoid, hold, id]

/-- The registers of EX belong to the instruction in EX. -/
structure Decoded (s : State) : Prop where
  aluOp : s.aluOp = decodeAluOp (exInsn s)
  aluOp2 : s.aluOp2 = (exInsn s).extractLsb' 6 4
  exMacOp : s.exMacOp = idMacOp (exInsn s)
  exMacrcOp : s.exMacrcOp = idMacrcOp (exInsn s)

theorem Decoded.next {s : State} (h : Decoded s) (i : In) : Decoded (Execute.next s i) where
  aluOp := latch_decode (by decide) h.aluOp
  aluOp2 := latch_decode (by decide) h.aluOp2
  exMacOp := latch_decode (by decide) h.exMacOp
  exMacrcOp := latch_decode (by decide) h.exMacrcOp

theorem decoded_next_of_rst (s : State) {i : In} (h : i.rst = true) :
    Decoded (Execute.next s i) := by
  have hinsn : exInsn (Execute.next s i) = Ctrl.voidInsn := by
    rw [exInsn_next]
    exact latch_of_rst h
  constructor
  · rw [hinsn]
    exact latch_of_rst h
  · rw [hinsn]
    exact latch_of_rst h
  · rw [hinsn]
    exact latch_of_rst h
  · rw [hinsn]
    exact latch_of_rst h

theorem decoded_stateAt (s₀ : State) (tr : ResetTrace gate) (t : ℕ) :
    Decoded (stateAt s₀ tr (t + 1)) := by
  induction t with
  | zero => exact decoded_next_of_rst s₀ tr.reset_first
  | succ t ih => exact ih.next (tr (t + 1))

end Specs.Or1200.Execute
