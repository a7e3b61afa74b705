import Specs.Or1200.Defines
import Specs.Sync.Gate

/-!
# Instruction decode

The part of `or1200_ctrl` that carries an instruction from ID to EX: the two
instruction latches, the immediate, and the decoding of SPR accesses.  The
latches are updated under different conditions, but while an instruction is in
EX its immediate and its decoding belong to it.
-/

namespace Specs.Or1200.Ctrl

open Specs.Sync

structure In where
  rst : Bool
  ifInsn : BitVec 32
  idFreeze : Bool
  exFreeze : Bool
  idFlushpipe : Bool
  exFlushpipe : Bool
deriving Inhabited

structure State where
  idInsn : BitVec 32
  exInsn : BitVec 32
  exSimm : BitVec 32
  sprRead : Bool
  sprWrite : Bool
deriving DecidableEq, Inhabited

/-- The void instruction: `l.nop` with bit 16 set. -/
def voidInsn : BitVec 32 := or32Nop ++ 0x0410000#26

def exVoid (s : State) : Bool := opcode s.exInsn == or32Nop && s.exInsn.getLsbD 16

def signedOpcodes : List (BitVec 6) :=
  [or32Addi, or32Addic, or32Lwz, or32Lws, or32Lbz, or32Lbs, or32Lhz, or32Lhs, or32Muli,
    or32Maci, or32Xori, or32Sfxxi]

def storeOpcodes : List (BitVec 6) := [or32Sw, or32Sh, or32Sb]

def idSimm (idInsn : BitVec 32) : BitVec 32 :=
  if opcode idInsn ∈ signedOpcodes then (idInsn.extractLsb' 0 16).signExtend 32
  else if opcode idInsn = or32Mtspr then
    0#16 ++ idInsn.extractLsb' 21 5 ++ idInsn.extractLsb' 0 11
  else if opcode idInsn ∈ storeOpcodes then
    (idInsn.extractLsb' 21 5 ++ idInsn.extractLsb' 0 11).signExtend 32
  else 0#16 ++ idInsn.extractLsb' 0 16

/-- A void instruction enters EX. -/
def voidsEx (i : In) : Bool := (!i.exFreeze && i.idFreeze) || i.exFlushpipe

def next (s : State) (i : In) : State where
  idInsn :=
    if i.rst then voidInsn
    else if i.idFlushpipe then voidInsn
    else if !i.idFreeze then i.ifInsn
    else s.idInsn
  exInsn :=
    if i.rst then voidInsn
    else if voidsEx i then voidInsn
    else if !i.exFreeze then s.idInsn
    else s.exInsn
  exSimm :=
    if i.rst then 0
    else if !i.exFreeze then idSimm s.idInsn
    else s.exSimm
  sprRead :=
    if i.rst then false
    else if voidsEx i then false
    else if !i.exFreeze then opcode s.idInsn == or32Mfspr
    else s.sprRead
  sprWrite :=
    if i.rst then false
    else if voidsEx i then false
    else if !i.exFreeze then opcode s.idInsn == or32Mtspr
    else s.sprWrite

/-! ## Branches -/

def isVoid (insn : BitVec 32) : Bool := opcode insn == or32Nop && insn.getLsbD 16

def idVoid (s : State) : Bool := isVoid s.idInsn

def decodeBranchOp (insn : BitVec 32) : BitVec 3 :=
  if opcode insn = or32J ∨ opcode insn = or32Jal then branchopJ
  else if opcode insn = or32Jr ∨ opcode insn = or32Jalr then branchopJr
  else if opcode insn = or32Bnf then branchopBnf
  else if opcode insn = or32Bf then branchopBf
  else if opcode insn = or32Rfe then branchopRfe
  else branchopNop

/-- The distance of a branch, in words. -/
def branchOffset (insn : BitVec 32) : BitVec 30 := (insn.extractLsb' 0 26).signExtend 30

def idBranchAddrtarget (idInsn idPc : BitVec 32) : BitVec 30 :=
  branchOffset idInsn + idPc.extractLsb' 2 30

/-- What is fetched now comes after the delay slot. -/
def noMoreDslot (exBranchOp : BitVec 3) (idVoid exBranchTaken : Bool) : Bool :=
  (exBranchOp != branchopNop && !idVoid && exBranchTaken) || exBranchOp == branchopRfe

def rfe (idBranchOp exBranchOp : BitVec 3) : Bool :=
  idBranchOp == branchopRfe || exBranchOp == branchopRfe

/-! ## The instruction in EX -/

/-- The registers of EX belong to the instruction in EX. -/
structure Decoded (s : State) : Prop where
  read_iff : s.sprRead = true ↔ opcode s.exInsn = or32Mfspr
  write_iff : s.sprWrite = true ↔ opcode s.exInsn = or32Mtspr
  simm : opcode s.exInsn ≠ or32Nop → s.exSimm = idSimm s.exInsn

theorem opcode_voidInsn : opcode voidInsn = or32Nop := by decide

theorem Decoded.of_void {s : State} (hinsn : s.exInsn = voidInsn) (hread : s.sprRead = false)
    (hwrite : s.sprWrite = false) : Decoded s where
  read_iff := by
    rw [hinsn, hread, opcode_voidInsn]
    decide
  write_iff := by
    rw [hinsn, hwrite, opcode_voidInsn]
    decide
  simm h := absurd (hinsn ▸ opcode_voidInsn) h

theorem decoded_next_of_rst (s : State) {i : In} (h : i.rst = true) : Decoded (next s i) :=
  Decoded.of_void (by simp [next, h]) (by simp [next, h]) (by simp [next, h])

theorem Decoded.next {s : State} (hs : Decoded s) (i : In) : Decoded (next s i) := by
  by_cases hrst : i.rst = true
  · exact decoded_next_of_rst s hrst
  · by_cases hvoid : voidsEx i = true
    · refine Decoded.of_void ?_ ?_ ?_ <;> simp [Ctrl.next, hrst, hvoid]
    · by_cases hfreeze : i.exFreeze = true
      · -- Everything in EX is held.
        constructor
        · simpa [Ctrl.next, hrst, hvoid, hfreeze] using hs.read_iff
        · simpa [Ctrl.next, hrst, hvoid, hfreeze] using hs.write_iff
        · simpa [Ctrl.next, hrst, hvoid, hfreeze] using hs.simm
      · -- The instruction in ID moves on, with its immediate.
        constructor
        · simp [Ctrl.next, hrst, hvoid, hfreeze]
        · simp [Ctrl.next, hrst, hvoid, hfreeze]
        · simp [Ctrl.next, hrst, hvoid, hfreeze]

theorem decoded_run (s₀ : State) {tr : ℕ → In} (hreset : (tr 0).rst = true) (t : ℕ) :
    Decoded (run Ctrl.next s₀ tr (t + 1)) := by
  have hrun : t + 1 ≠ 0 → Decoded (run Ctrl.next s₀ tr (t + 1)) := by
    apply run_induction (P := fun u s ↦ u ≠ 0 → Decoded s)
    · intro hzero
      exact absurd rfl hzero
    · intro u s hs _
      rcases u with _ | u
      · exact decoded_next_of_rst s hreset
      · exact (hs (Nat.succ_ne_zero u)).next (tr (u + 1))
  exact hrun (Nat.succ_ne_zero t)

theorem idSimm_of_mtspr {insn : BitVec 32} (h : opcode insn = or32Mtspr) :
    idSimm insn = 0#16 ++ insn.extractLsb' 21 5 ++ insn.extractLsb' 0 11 := by
  have hsigned : or32Mtspr ∉ signedOpcodes := by decide
  rw [idSimm, h, if_neg hsigned, if_pos rfl]

end Specs.Or1200.Ctrl
