import Specs.Fabric.Exceptions
import Specs.Or1200.Cpu

/-!
# System calls and traps: two decoders

The core takes an instruction for a system call or a trap from its nine high
bits.  Checker 18 compares sixteen bits, so it knows the instruction only when
the seven bits below are zero.  The two requests are registers of
`or1200_ctrl` that move with the instruction from ID to EX.
-/

namespace Specs.Or1200.SystemCall

open Specs.Sync BakedInAssertions

structure Sigs where
  sigSyscall : Bool
  sigTrap : Bool
deriving DecidableEq, Inhabited

/-- The decoding of both instructions, which differ in `insn[25:23]`. -/
def isXsync (kind : BitVec 3) (insn : BitVec 32) : Bool :=
  insn.extractLsb' 23 9 == or32Xsync ++ kind

/-- A request register of `or1200_ctrl`; `forced` sets it for any instruction. -/
def sigReg (kind : BitVec 3) (forced : Bool) (c : Ctrl.State) (old : Bool)
    (i : Ctrl.In) : Bool :=
  if i.rst then false
  else if Ctrl.voidsEx i then false
  else if !i.exFreeze then isXsync kind c.idInsn || forced
  else old

def nextSigs (duHwbkpt : Bool) (c : Ctrl.State) (g : Sigs) (i : Ctrl.In) : Sigs where
  sigSyscall := sigReg 0b000#3 false c g.sigSyscall i
  sigTrap := sigReg 0b010#3 duHwbkpt c g.sigTrap i

/-- The processor with the two registers. -/
structure State where
  cpu : Cpu.State
  sigs : Sigs
deriving Inhabited

def duHwbkpt (i : Cpu.In) : Bool := i.backend.abort.duHwbkpt

def next (s : State) (i : Cpu.In) : State where
  cpu := Cpu.next s.cpu i
  sigs := nextSigs (duHwbkpt i) s.cpu.ctrl s.sigs (Cpu.ctrlIn s.cpu i)

def stateAt (s₀ : State) (tr : ℕ → Cpu.In) (t : ℕ) : State := run next s₀ tr t

/-! ## The requests and the instruction in EX -/

theorem isXsync_voidInsn (kind : BitVec 3) : isXsync kind Ctrl.voidInsn = false := by
  revert kind
  decide

/-- A request that is not forced stays with its instruction. -/
theorem sigReg_of_not_forced {kind : BitVec 3} {c : Ctrl.State} {old : Bool} (i : Ctrl.In)
    (h : i.rst = false → old = isXsync kind c.exInsn) :
    sigReg kind false c old i = isXsync kind (Ctrl.next c i).exInsn := by
  by_cases hrst : i.rst = true
  · simp [sigReg, Ctrl.next, hrst, isXsync_voidInsn]
  · by_cases hvoid : Ctrl.voidsEx i = true
    · simp [sigReg, Ctrl.next, hrst, hvoid, isXsync_voidInsn]
    · by_cases hfreeze : i.exFreeze = true
      · have hkept := h (Bool.eq_false_iff.mpr hrst)
        simp [sigReg, Ctrl.next, hrst, hvoid, hfreeze, hkept]
      · simp [sigReg, Ctrl.next, hrst, hvoid, hfreeze]

section

variable (s₀ : State) (tr : ResetTrace Cpu.gate) (t : ℕ)

theorem cpu_stateAt : (stateAt s₀ tr t).cpu = Cpu.stateAt s₀.cpu tr t :=
  component_run State.cpu (fun _ i ↦ i) (fun _ _ ↦ rfl) s₀ tr t

theorem sigSyscall_stateAt :
    (stateAt s₀ tr (t + 1)).sigs.sigSyscall =
      isXsync 0b000#3 (Cpu.stateAt s₀.cpu tr (t + 1)).ctrl.exInsn := by
  rw [← cpu_stateAt]
  induction t with
  | zero =>
      apply sigReg_of_not_forced
      intro hrst
      exact absurd (hrst.symm.trans tr.reset_first) Bool.false_ne_true
  | succ t ih =>
      apply sigReg_of_not_forced
      intro _
      exact ih

/-- Without a hardware breakpoint only `l.trap` requests a trap. -/
theorem sigTrap_stateAt (hquiet : ∀ u ≤ t, duHwbkpt (tr u) = false) :
    (stateAt s₀ tr (t + 1)).sigs.sigTrap =
      isXsync 0b010#3 (Cpu.stateAt s₀.cpu tr (t + 1)).ctrl.exInsn := by
  rw [← cpu_stateAt]
  induction t with
  | zero =>
      rw [stateAt, run_succ, next, nextSigs, hquiet 0 le_rfl]
      apply sigReg_of_not_forced
      intro hrst
      exact absurd (hrst.symm.trans tr.reset_first) Bool.false_ne_true
  | succ t ih =>
      rw [stateAt, run_succ, next, nextSigs, hquiet (t + 1) le_rfl]
      apply sigReg_of_not_forced
      intro _
      apply ih
      intro u hu
      exact hquiet u (hu.trans (Nat.le_succ t))

end

/-! ## Checker 18 -/

/-- The sixteen bits of checker 18 are the nine of the core and seven zeros. -/
theorem upperHalf_eq_iff (kind : BitVec 3) (insn : BitVec 32) :
    insn.extractLsb' 16 16 = or32Xsync ++ kind ++ 0#7 ↔
      isXsync kind insn = true ∧ insn.extractLsb' 16 7 = 0#7 := by
  rw [isXsync, beq_iff_eq]
  exact Bits.extractLsb'_eq_append_iff insn 16 (or32Xsync ++ kind) 0#7

theorem missedException_iff (p i : BakedInAssertions.In) :
    MissedException p i ↔
      ((isXsync 0b000#3 p.exInsn = true ∧ i.exPc ≠ 0x00000C00#32) ∨
        (isXsync 0b010#3 p.exInsn = true ∧ i.exPc ≠ 0x00000E00#32)) ∧
      p.exInsn.extractLsb' 16 7 = 0#7 := by
  have hsyscall := upperHalf_eq_iff 0b000#3 p.exInsn
  have htrap := upperHalf_eq_iff 0b010#3 p.exInsn
  rw [show or32Xsync ++ 0b000#3 ++ 0#7 = 0x2000#16 from rfl] at hsyscall
  rw [show or32Xsync ++ 0b010#3 ++ 0#7 = 0x2100#16 from rfl] at htrap
  rw [MissedException, hsyscall, htrap]
  constructor
  · rintro (⟨⟨hx, hlow⟩, hpc⟩ | ⟨⟨hx, hlow⟩, hpc⟩)
    · exact ⟨Or.inl ⟨hx, hpc⟩, hlow⟩
    · exact ⟨Or.inr ⟨hx, hpc⟩, hlow⟩
  · rintro ⟨⟨hx, hpc⟩ | ⟨hx, hpc⟩, hlow⟩
    · exact Or.inl ⟨⟨hx, hlow⟩, hpc⟩
    · exact Or.inr ⟨⟨hx, hlow⟩, hpc⟩

section

variable (s₀ : State) (tr : ResetTrace Cpu.gate) {a t : ℕ}

/-- The instruction completed in step `a` requests a system call or a trap, the
latter with no hardware breakpoint until then, and the next step `t` is not at
the vector. -/
structure Unserved (a t : ℕ) : Prop where
  completes : gate.IsStep (Cpu.fabricTrace s₀.cpu tr a)
  step : gate.IsStep (Cpu.fabricTrace s₀.cpu tr t)
  lt : a < t
  adjacent : ∀ u, a < u → u < t → ¬gate.IsStep (Cpu.fabricTrace s₀.cpu tr u)
  request :
    ((stateAt s₀ tr a).sigs.sigSyscall = true ∧ Cpu.exPc (tr t) ≠ 0x00000C00#32) ∨
      ((∀ u < a, duHwbkpt (tr u) = false) ∧ (stateAt s₀ tr a).sigs.sigTrap = true ∧
        Cpu.exPc (tr t) ≠ 0x00000E00#32)

variable {s₀ tr}

theorem Unserved.isXsync (h : Unserved s₀ tr a t) :
    (isXsync 0b000#3 (Cpu.fabricTrace s₀.cpu tr a).exInsn = true ∧
        (Cpu.fabricTrace s₀.cpu tr t).exPc ≠ 0x00000C00#32) ∨
      (SystemCall.isXsync 0b010#3 (Cpu.fabricTrace s₀.cpu tr a).exInsn = true ∧
        (Cpu.fabricTrace s₀.cpu tr t).exPc ≠ 0x00000E00#32) := by
  cases a with
  | zero =>
      have hrst := (Cpu.fabricTrace s₀.cpu tr).reset_first
      exact absurd (h.completes.1.symm.trans hrst) Bool.false_ne_true
  | succ a =>
      rcases h.request with ⟨hsig, hpc⟩ | ⟨hquiet, hsig, hpc⟩
      · rw [sigSyscall_stateAt] at hsig
        exact Or.inl ⟨hsig, hpc⟩
      · rw [sigTrap_stateAt] at hsig
        · exact Or.inr ⟨hsig, hpc⟩
        · intro u hu
          exact hquiet u (Nat.lt_succ_of_le hu)

/-- An unserved request is reported exactly when the seven bits below those that the
core decodes are zero and the fabric is not reset before the next step. -/
theorem unserved_reported_iff (h : Unserved s₀ tr a t) :
    (Cpu.spAssertionsViolated (Cpu.stateAt s₀.cpu tr t) (tr t)).getLsbD 18 = true ↔
      (Cpu.stateAt s₀.cpu tr a).ctrl.exInsn.extractLsb' 16 7 = 0#7 ∧
        ∀ u, a < u → u < t → (Cpu.fabricTrace s₀.cpu tr u).rst = false := by
  have hmissed := missedException_iff (Cpu.fabricTrace s₀.cpu tr a) (Cpu.fabricTrace s₀.cpu tr t)
  rw [and_iff_right h.isXsync] at hmissed
  rw [Cpu.spAssertionsViolated_stateAt, firedAt_eighteen_iff, gate.exists_cons_iff]
  constructor
  · rintro ⟨-, c, hlast, hc⟩
    -- The latest step before `t` is `a`, and there is one.
    obtain ⟨rfl, hreset⟩ :=
      (gate.lastStep_iff_of_adjacent h.completes h.lt h.adjacent).mp hlast
    exact ⟨hmissed.mp hc, hreset⟩
  · rintro ⟨hlow, hreset⟩
    have hlast := (gate.lastStep_iff_of_adjacent h.completes h.lt h.adjacent).mpr ⟨rfl, hreset⟩
    exact ⟨h.step, a, hlast, hmissed.mpr hlow⟩

end

/-- A reset cycle, and a stream of `insn` at 0x2000, which is in EX from cycle 3 on. -/
def streamOf (insn : BitVec 32) : ResetTrace Cpu.gate where
  cycle t :=
    { (default : Cpu.In) with
      ifInsn := insn
      backend := { (default : Backend.In) with
        rst := t == 0
        sprs := { (default : Sprs.In) with exPc := 0x2000#32 } } }
  reset_first := rfl

theorem adjacent_of_succ {P : ℕ → Prop} (a u : ℕ) (hau : a < u) (hut : u < a + 1) : P u :=
  absurd hau (Nat.not_lt.mpr (Nat.le_of_lt_succ hut))

/-- `l.sys 0` at 0x2000, and again at 0x2000. -/
theorem unserved_reported_sys :
    (Cpu.spAssertionsViolated (Cpu.stateAt default (streamOf 0x20000000#32) 4)
      (streamOf 0x20000000#32 4)).getLsbD 18 = true := by
  have hunserved : Unserved default (streamOf 0x20000000#32) 3 4 :=
    ⟨⟨by decide +kernel, by decide +kernel⟩, ⟨by decide +kernel, by decide +kernel⟩, by decide,
      adjacent_of_succ 3, Or.inl ⟨by decide +kernel, by decide⟩⟩
  apply (unserved_reported_iff hunserved).mpr
  exact ⟨by decide +kernel, adjacent_of_succ 3⟩

/-- `l.sys` with a bit between the opcode and the operand set. -/
theorem unserved_unreported_sys :
    Unserved default (streamOf 0x20010000#32) 3 4 ∧
      (Cpu.spAssertionsViolated (Cpu.stateAt default (streamOf 0x20010000#32) 4)
        (streamOf 0x20010000#32 4)).getLsbD 18 = false := by
  refine ⟨⟨⟨?_, ?_⟩, ⟨?_, ?_⟩, by decide, adjacent_of_succ 3, Or.inl ⟨?_, by decide⟩⟩, ?_⟩
  all_goals decide +kernel

end Specs.Or1200.SystemCall
