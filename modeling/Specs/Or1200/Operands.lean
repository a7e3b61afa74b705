import Specs.Or1200.Ctrl
import Specs.Or1200.Freeze
import Specs.Or1200.Rf

/-!
# Operands

The register numbers of an instruction are looked up in the register file while it
moves to ID, and its operands are latched when it moves on to EX.  A result that is
not in the register file yet is taken from the write-back multiplexer instead:
from its output for the instruction in EX, from its register for the one before.
The instruction stream, the results and the SPR accesses are inputs.
-/

namespace Specs.Or1200

namespace Wbmux

structure In where
  rst : Bool
  wbFreeze : Bool
  rfwbOp : BitVec 4
  muxinA : BitVec 32
  muxinB : BitVec 32
  muxinC : BitVec 32
  muxinD : BitVec 32
deriving Inhabited

structure State where
  muxreg : BitVec 32
  muxregValid : Bool
deriving DecidableEq, Inhabited

def muxout (i : In) : BitVec 32 :=
  if i.rfwbOp.extractLsb' 1 3 = rfwbopAlu then i.muxinA
  else if i.rfwbOp.extractLsb' 1 3 = rfwbopLsu then i.muxinB
  else if i.rfwbOp.extractLsb' 1 3 = rfwbopSprs then i.muxinC
  else if i.rfwbOp.extractLsb' 1 3 = rfwbopLr then i.muxinD + 8
  else 0

def next (s : State) (i : In) : State where
  muxreg := if i.rst then 0 else if !i.wbFreeze then muxout i else s.muxreg
  muxregValid := if i.rst then false else if !i.wbFreeze then i.rfwbOp.getLsbD 0 else s.muxregValid

end Wbmux

inductive Sel
  | rf
  | imm
  | exForw
  | wbForw
deriving DecidableEq, Inhabited

namespace Operandmuxes

structure In where
  rst : Bool
  idFreeze : Bool
  exFreeze : Bool
  rfDataa : BitVec 32
  rfDatab : BitVec 32
  exForw : BitVec 32
  wbForw : BitVec 32
  simm : BitVec 32
  selA : Sel
  selB : Sel
deriving Inhabited

structure State where
  operandA : BitVec 32
  operandB : BitVec 32
  savedA : Bool
  savedB : Bool
deriving DecidableEq, Inhabited

def muxedA (i : In) : BitVec 32 :=
  match i.selA with
  | .exForw => i.exForw
  | .wbForw => i.wbForw
  | .rf => i.rfDataa
  | .imm => i.rfDataa

def muxedB (i : In) : BitVec 32 :=
  match i.selB with
  | .imm => i.simm
  | .exForw => i.exForw
  | .wbForw => i.wbForw
  | .rf => i.rfDatab

/-- An operand register and its saved flag. -/
def nextOperand (muxed operand : BitVec 32) (saved : Bool) (i : In) : BitVec 32 × Bool :=
  if i.rst then (0, false)
  else if !i.exFreeze && i.idFreeze && !saved then (muxed, true)
  else if !i.exFreeze && !saved then (muxed, saved)
  else if !i.exFreeze && !i.idFreeze then (operand, false)
  else (operand, saved)

def next (s : State) (i : In) : State where
  operandA := (nextOperand (muxedA i) s.operandA s.savedA i).1
  operandB := (nextOperand (muxedB i) s.operandB s.savedB i).1
  savedA := (nextOperand (muxedA i) s.operandA s.savedA i).2
  savedB := (nextOperand (muxedB i) s.operandB s.savedB i).2

theorem nextOperand_of_moves {i : In} (hrst : i.rst = false) (hex : i.exFreeze = false)
    (hid : i.idFreeze = false) (muxed operand : BitVec 32) :
    nextOperand muxed operand false i = (muxed, false) := by
  simp [nextOperand, hrst, hex, hid]

/-- An operand is saved ahead only when ID is frozen and EX is not. -/
theorem nextOperand_saved {i : In} (hfreeze : i.idFreeze = true → i.exFreeze = true)
    (muxed operand : BitVec 32) : (nextOperand muxed operand false i).2 = false := by
  cases hex : i.exFreeze with
  | true => cases hrst : i.rst <;> simp [nextOperand, hex, hrst]
  | false =>
      have hid : i.idFreeze = false := by
        rw [← Bool.not_eq_true]
        intro hid
        exact absurd (hex.symm.trans (hfreeze hid)) Bool.false_ne_true
      cases hrst : i.rst <;> simp [nextOperand, hex, hid, hrst]

end Operandmuxes

namespace Operands

open Specs.Sync

structure In where
  rst : Bool
  freeze : Freeze.In
  abortEx : Bool
  ifInsn : BitVec 32
  idFlushpipe : Bool
  exFlushpipe : Bool
  wbFlushpipe : Bool
  aluDataout : BitVec 32
  lsuDataout : BitVec 32
  sprsDataout : BitVec 32
  exPc : BitVec 32
  cyWeAlu : Bool
  sprCs : Bool
  sprWe : Bool
  sprAddr : BitVec 32
  sprDatCpu : BitVec 32
  duRead : Bool
  spExceptionComb : Bool
deriving Inhabited

structure State where
  ctrl : Ctrl.State
  rfAddrw : BitVec 5
  wbRfaddrw : BitVec 5
  rfwbOp : BitVec 4
  selImm : Bool
  rf : Rf.State
  wbmux : Wbmux.State
  operandmuxes : Operandmuxes.State
deriving Inhabited

/-! ## Decoding -/

def fieldA (insn : BitVec 32) : BitVec 5 := insn.extractLsb' 16 5

def fieldB (insn : BitVec 32) : BitVec 5 := insn.extractLsb' 11 5

def readsA (insn : BitVec 32) : Bool := insn.getLsbD 31 || opcode insn == or32Maci

def readsB (insn : BitVec 32) : Bool := insn.getLsbD 30

/-- The opcodes without an immediate. -/
def registerOpcodes : List (BitVec 6) :=
  [or32Jalr, or32Jr, or32Rfe, or32Mfspr, or32Mtspr, or32Xsync, or32Macmsb, or32Sw, or32Sb,
    or32Sh, or32Alu, or32Sfxx, or32Nop]

def loadOpcodes : List (BitVec 6) := [or32Lwz, or32Lws, or32Lbz, or32Lbs, or32Lhz, or32Lhs]

def aluOpcodes : List (BitVec 6) :=
  [or32Movhi, or32Addi, or32Addic, or32Andi, or32Ori, or32Xori, or32Muli, or32ShRoti, or32Alu]

def decodeRfwbOp (op : BitVec 6) : BitVec 4 :=
  if op = or32Jal ∨ op = or32Jalr then rfwbopLr ++ 1#1
  else if op = or32Mfspr then rfwbopSprs ++ 1#1
  else if op ∈ loadOpcodes then rfwbopLsu ++ 1#1
  else if op ∈ aluOpcodes then rfwbopAlu ++ 1#1
  else rfwbopNop

def decodeRfAddrw (insn : BitVec 32) : BitVec 5 :=
  if opcode insn = or32Jal ∨ opcode insn = or32Jalr then 9#5 else insn.extractLsb' 21 5

/-! ## Wires -/

def idFreeze (i : In) : Bool := Freeze.idFreeze i.freeze

def exFreeze (i : In) : Bool := Freeze.exFreeze i.freeze i.abortEx

def wbFreeze (i : In) : Bool := Freeze.wbFreeze i.freeze i.abortEx

def wbmuxIn (s : State) (i : In) : Wbmux.In where
  rst := i.rst
  wbFreeze := wbFreeze i
  rfwbOp := s.rfwbOp
  muxinA := i.aluDataout
  muxinB := i.lsuDataout
  muxinC := i.sprsDataout
  muxinD := i.exPc

/-- The output of the write-back multiplexer. -/
def rfDataw (s : State) (i : In) : BitVec 32 := Wbmux.muxout (wbmuxIn s i)

def forward (field : BitVec 5) (s : State) : Sel :=
  if field == s.rfAddrw && s.rfwbOp.getLsbD 0 then .exForw
  else if field == s.wbRfaddrw && s.wbmux.muxregValid then .wbForw
  else .rf

def selA (s : State) : Sel := forward (fieldA s.ctrl.idInsn) s

def selB (s : State) : Sel := if s.selImm then .imm else forward (fieldB s.ctrl.idInsn) s

def operandmuxesIn (s : State) (i : In) : Operandmuxes.In where
  rst := i.rst
  idFreeze := idFreeze i
  exFreeze := exFreeze i
  rfDataa := Rf.dataa s.rf
  rfDatab := Rf.datab s.rf
  exForw := rfDataw s i
  wbForw := s.wbmux.muxreg
  simm := Ctrl.idSimm s.ctrl.idInsn
  selA := selA s
  selB := selB s

def rfIn (s : State) (i : In) : Rf.In where
  rst := i.rst
  cyWeI := i.cyWeAlu
  wbFreeze := wbFreeze i
  addrw := s.rfAddrw
  dataw := rfDataw s i
  we := s.rfwbOp.getLsbD 0
  flushpipe := i.wbFlushpipe
  idFreeze := idFreeze i
  addra := fieldA i.ifInsn
  addrb := fieldB i.ifInsn
  rda := readsA i.ifInsn
  rdb := readsB i.ifInsn
  sprCs := i.sprCs
  sprWrite := i.sprWe
  sprAddr := i.sprAddr
  sprDatI := i.sprDatCpu
  duRead := i.duRead
  spExceptionComb := i.spExceptionComb

def ctrlIn (i : In) : Ctrl.In where
  rst := i.rst
  ifInsn := i.ifInsn
  idFreeze := idFreeze i
  exFreeze := exFreeze i
  idFlushpipe := i.idFlushpipe
  exFlushpipe := i.exFlushpipe

def next (s : State) (i : In) : State where
  ctrl := Ctrl.next s.ctrl (ctrlIn i)
  rfAddrw :=
    if i.rst then 0#5
    else if !exFreeze i && idFreeze i then 0#5
    else if !exFreeze i then decodeRfAddrw s.ctrl.idInsn
    else s.rfAddrw
  wbRfaddrw := if i.rst then 0#5 else if !wbFreeze i then s.rfAddrw else s.wbRfaddrw
  rfwbOp :=
    if i.rst then rfwbopNop
    else if Ctrl.voidsEx (ctrlIn i) then rfwbopNop
    else if !exFreeze i then decodeRfwbOp (opcode s.ctrl.idInsn)
    else s.rfwbOp
  selImm :=
    if i.rst then false
    else if !idFreeze i then decide (opcode i.ifInsn ∉ registerOpcodes)
    else s.selImm
  rf := Rf.next s.rf (rfIn s i)
  wbmux := Wbmux.next s.wbmux (wbmuxIn s i)
  operandmuxes := Operandmuxes.next s.operandmuxes (operandmuxesIn s i)

def gate : Gate In := ⟨In.rst, fun _ ↦ true⟩

def stateAt (s₀ : State) (tr : ℕ → In) (t : ℕ) : State := run next s₀ tr t

theorem exFreeze_of_idFreeze {i : In} (h : idFreeze i = true) : exFreeze i = true := by
  rw [idFreeze, Freeze.idFreeze] at h
  rw [exFreeze, Freeze.exFreeze, Freeze.wbFreeze, h, Bool.true_or]

end Operands

end Specs.Or1200
