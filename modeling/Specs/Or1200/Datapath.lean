import Specs.Or1200.Execute
import Specs.Or1200.Sprs

/-!
# Datapath

The execution stage and SR, wired as in `or1200_cpu`: the ALU sets the flag, the carry
and the overflow bit of SR, and reads the flag and the carry from there; the operands
address the special-purpose registers, and their contents go to the write-back
multiplexer.  The instruction words, the load/store unit and the exceptions are inputs.
-/

namespace Specs.Or1200.Datapath

open Specs.Sync

/-- The inputs of a cycle.  Ports that the modules drive themselves are replaced by the
wiring below. -/
structure In where
  execute : Execute.In
  abort : Abort.In
  sprs : Sprs.In
deriving Inhabited

structure State where
  execute : Execute.State
  sprs : Sprs.State
deriving Inhabited

/-! ## Wires -/

def ctrl (s : State) : Ctrl.State := s.execute.operands.ctrl

def exInsn (s : State) : BitVec 32 := Execute.exInsn s.execute

def operandA (s : State) : BitVec 32 := Execute.operandA s.execute

def operandB (s : State) : BitVec 32 := Execute.operandB s.execute

def sr (s : State) (i : In) : BitVec 17 := Sprs.sr s.sprs i.sprs

def abortIn (s : State) (i : In) : Abort.In := { i.abort with exVoid := Ctrl.exVoid (ctrl s) }

def abortMvspr (s : State) (i : In) : Bool := Abort.abortMvspr (abortIn s i)

/-- The inputs of the execution stage that do not come over the SPR bus. -/
def aluPorts (s : State) (i : In) : Execute.In :=
  { i.execute with
    abortEx := Abort.abortEx (abortIn s i)
    abortMvspr := abortMvspr s i
    carry := (sr s i).getLsbD srCy
    flag := (sr s i).getLsbD srF
    duRead := i.sprs.duRead }

def exFreeze (s : State) (i : In) : Bool := Execute.exFreeze s.execute (aluPorts s i)

def aluIn (s : State) (i : In) : Alu.In := Execute.aluIn s.execute (aluPorts s i)

def multMacIn (s : State) (i : In) : MultMac.In := Execute.multMacIn s.execute (aluPorts s i)

def cyWeRf (s : State) (i : In) : Bool :=
  Rf.cyWeO s.execute.operands.rf
    (Operands.rfIn s.execute.operands (Execute.operandsIn s.execute (aluPorts s i)))

/-- The inputs of `or1200_sprs` but for what is read over the SPR bus. -/
def sprPorts (s : State) (i : In) : Sprs.In :=
  { i.sprs with
    rst := i.execute.rst
    flagforw := Alu.flagWe (aluIn s i) && Alu.flagforw (aluIn s i)
    flagWe := Alu.flagWe (aluIn s i) && !abortMvspr s i
    cyforw := Alu.cyforw (aluIn s i)
    cyWe := cyWeRf s i
    ovforw := Alu.ovforw (aluIn s i) || MultMac.ovforw s.execute.multMac (multMacIn s i)
    ovWe := Alu.ovWe (aluIn s i) || MultMac.ovWe (multMacIn s i)
    addrbase := operandA s
    addrofs := (ctrl s).exSimm.extractLsb' 0 16
    datI := operandB s
    exSprRead := (ctrl s).sprRead && !abortMvspr s i
    exSprWrite := (ctrl s).sprWrite && !abortMvspr s i
    exPc := i.execute.exPc
    exVoid := Ctrl.exVoid (ctrl s) }

def sprsIn (s : State) (i : In) : Sprs.In :=
  { sprPorts s i with
    sprDatRf := Rf.dataa s.execute.operands.rf
    sprDatMac := MultMac.sprDatO s.execute.multMac
      { multMacIn s i with sprAddr := Sprs.sprAddr (sprPorts s i) } }

def executeIn (s : State) (i : In) : Execute.In :=
  { aluPorts s i with
    sprsDataout := Sprs.toWbmux s.sprs (sprsIn s i)
    sprCsSys := (Sprs.sprCs s.sprs (sprsIn s i)).getLsbD sprGroupSys
    sprCsMac := (Sprs.sprCs s.sprs (sprsIn s i)).getLsbD sprGroupMac
    sprWe := Sprs.sprWe (sprsIn s i)
    sprAddr := Sprs.sprAddr (sprsIn s i)
    sprDatCpu := Sprs.sprDatO (sprsIn s i) }

def operandsIn (s : State) (i : In) : Operands.In := Execute.operandsIn s.execute (executeIn s i)

def next (s : State) (i : In) : State where
  execute := Execute.next s.execute (executeIn s i)
  sprs := Sprs.next s.sprs (sprsIn s i)

def gate : Gate In := ⟨fun i ↦ i.execute.rst, fun _ ↦ true⟩

def stateAt (s₀ : State) (tr : ℕ → In) (t : ℕ) : State := run next s₀ tr t

/-! ## The SPR bus does not reach back -/

theorem exFreeze_executeIn (s : State) (i : In) :
    Execute.exFreeze s.execute (executeIn s i) = exFreeze s i := rfl

theorem aluIn_executeIn (s : State) (i : In) :
    Execute.aluIn s.execute (executeIn s i) = aluIn s i := rfl

theorem sr_sprsIn (s : State) (i : In) : Sprs.sr s.sprs (sprsIn s i) = sr s i := rfl

/-- When EX moves on, nothing aborts the instruction. -/
theorem abortMvspr_of_exFreeze {s : State} {i : In} (h : exFreeze s i = false) :
    abortMvspr s i = false := by
  rw [← Bool.not_eq_true]
  intro habort
  have hex : (aluPorts s i).abortEx = true := Abort.abortEx_of_abortMvspr habort
  rw [exFreeze, Execute.exFreeze, hex, Freeze.exFreeze_of_abortEx] at h
  exact Bool.noConfusion h

end Specs.Or1200.Datapath
