import Specs.Fabric.Monitors
import Specs.Or1200.Backend
import Specs.Or1200.Ctrl

/-!
# The processor around the fabric

The wiring of `or1200_cpu` between the fabric, the decode stage and the back end.
The fabric is enabled by `insn_clk`, which excludes frozen cycles, and is reset
while a violation is pending; the abort that a pending violation causes freezes
the pipeline, so that the two never happen in one cycle.
-/

namespace Specs.Or1200.Cpu

open Specs.Sync

/-- The inputs of a cycle.  Ports of the back end that the processor drives itself
are replaced by the wiring below. -/
structure In where
  backend : Backend.In
  ifInsn : BitVec 32
  idFlushpipe : Bool
  exFlushpipe : Bool
  immuSxe : Bool
  immuUxe : Bool
  dcpuDatI : BitVec 32
deriving Inhabited

structure State where
  ctrl : Ctrl.State
  backend : Backend.State
  fabric : BakedInAssertions.State
deriving Inhabited

/-! ## Wires -/

def pipelineIn (s : State) (i : In) : Backend.In :=
  { i.backend with
    exVoid := Ctrl.exVoid s.ctrl
    sprRead := s.ctrl.sprRead
    sprWrite := s.ctrl.sprWrite
    sprs := { i.backend.sprs with addrofs := s.ctrl.exSimm.extractLsb' 0 16 } }

def exPc (i : In) : BitVec 32 := i.backend.sprs.exPc

def spExceptionGated (s : State) (i : In) : Bool :=
  Backend.spExceptionGated s.backend (pipelineIn s i)

def exFreeze (s : State) (i : In) : Bool :=
  Freeze.exFreeze i.backend.freeze (Backend.abortEx s.backend (pipelineIn s i))

def sr (s : State) (i : In) : BitVec 17 := Backend.sr s.backend (pipelineIn s i)

/-- The clock enable of the fabric: an instruction of the program completes. -/
def insnClk (s : State) (i : In) : Bool :=
  !Ctrl.exVoid s.ctrl && !exFreeze s i && (exPc i).extractLsb' 27 5 == 0#5

def fabricIn (s : State) (i : In) : BakedInAssertions.In where
  rst := spExceptionGated s i || i.backend.rst
  enable := insnClk s i
  exPc := exPc i
  exInsn := s.ctrl.exInsn
  sprDatPpc := i.backend.sprs.sprDatPpc
  sprDatNpc := i.backend.sprs.sprDatNpc
  eear := i.backend.sprs.eear
  sr := sr s i
  esr := i.backend.sprs.esr
  epcr := i.backend.sprs.epcr
  immuSxe := i.immuSxe
  immuUxe := i.immuUxe
  immuEn := (sr s i).getLsbD srIme && !i.backend.sprs.exceptStarted
  gprWrittenTo := Rf.rfWe s.backend.rf (Backend.rfIn s.backend (pipelineIn s i))
  gprWrittenAddr := Rf.rfAddrw (Backend.rfIn s.backend (pipelineIn s i))
  gprWrittenData := Rf.rfDataw (Backend.rfIn s.backend (pipelineIn s i))
  dcpuDatI := i.dcpuDatI
  operandB := i.backend.sprs.datI

def spAssertionsViolated (s : State) (i : In) : BitVec 32 :=
  BakedInAssertions.checkersFired s.fabric (fabricIn s i)

def backendIn (s : State) (i : In) : Backend.In :=
  { pipelineIn s i with
    recovery := { i.backend.recovery with spAssertionsViolated := spAssertionsViolated s i } }

def ctrlIn (s : State) (i : In) : Ctrl.In where
  rst := i.backend.rst
  ifInsn := i.ifInsn
  idFreeze := Freeze.idFreeze i.backend.freeze
  exFreeze := exFreeze s i
  idFlushpipe := i.idFlushpipe
  exFlushpipe := i.exFlushpipe

def next (s : State) (i : In) : State where
  ctrl := Ctrl.next s.ctrl (ctrlIn s i)
  backend := Backend.next s.backend (backendIn s i)
  fabric := BakedInAssertions.next s.fabric (fabricIn s i)

/-! ## Runs -/

def gate : Gate In := ⟨fun i ↦ i.backend.rst, fun _ ↦ true⟩

def stateAt (s₀ : State) (tr : ℕ → In) (t : ℕ) : State := run next s₀ tr t

def fabricTrace (s₀ : State) (tr : ResetTrace gate) : ResetTrace BakedInAssertions.gate where
  cycle t := fabricIn (stateAt s₀ tr t) (tr t)
  reset_first := by
    have hrst : (tr 0).backend.rst = true := tr.reset_first
    simp [fabricIn, hrst]

section

variable (s₀ : State) (tr : ResetTrace gate) (t : ℕ)

theorem stateAt_succ : stateAt s₀ tr (t + 1) = next (stateAt s₀ tr t) (tr t) := rfl

theorem fabric_stateAt :
    (stateAt s₀ tr t).fabric =
      BakedInAssertions.stateAt s₀.fabric (fabricTrace s₀ tr) t :=
  component_run State.fabric fabricIn (fun _ _ ↦ rfl) s₀ tr t

theorem spAssertionsViolated_stateAt :
    spAssertionsViolated (stateAt s₀ tr t) (tr t) =
      BakedInAssertions.firedAt s₀.fabric (fabricTrace s₀ tr) t := by
  rw [spAssertionsViolated, fabric_stateAt]
  rfl

theorem decoded_stateAt : Ctrl.Decoded (stateAt s₀ tr (t + 1)).ctrl := by
  have hrun : (stateAt s₀ tr (t + 1)).ctrl =
      run Ctrl.next s₀.ctrl (fun u ↦ ctrlIn (stateAt s₀ tr u) (tr u)) (t + 1) :=
    component_run State.ctrl ctrlIn (fun _ _ ↦ rfl) s₀ tr (t + 1)
  rw [hrun]
  exact Ctrl.decoded_run s₀.ctrl tr.reset_first t

end

/-! ## A pending violation -/

theorem exFreeze_of_abortMvspr {s : State} {i : In}
    (h : Backend.abortMvspr s.backend (pipelineIn s i) = true) : exFreeze s i = true :=
  Backend.wbFreeze_of_abortMvspr h

/-- A pending violation aborts the instruction in EX, and the abort freezes EX. -/
theorem insnClk_of_gated {s : State} {i : In} (h : spExceptionGated s i = true) :
    insnClk s i = false := by
  cases hvoid : Ctrl.exVoid s.ctrl with
  | true => simp [insnClk, hvoid]
  | false =>
      have habort : Backend.abortMvspr s.backend (pipelineIn s i) = true :=
        Backend.abortMvspr_of_gated h hvoid
      have hfreeze : exFreeze s i = true := exFreeze_of_abortMvspr habort
      simp [insnClk, hfreeze]

/-- The reset wiring keeps the fabric silent while a violation is pending. -/
theorem spAssertionsViolated_of_gated {s : State} {i : In} (h : spExceptionGated s i = true) :
    spAssertionsViolated s i = 0#32 := by
  apply BakedInAssertions.checkersFired_of_rst
  simp [fabricIn, h]

end Specs.Or1200.Cpu
