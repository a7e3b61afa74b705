import Specs.Or1200.Backend
import Specs.Or1200.Except
import Specs.Or1200.Genpc

/-!
# The core around the exception unit

The special-purpose registers live in three modules: SR and the registers of the
handler in `or1200_sprs`, the saved registers and their ghosts in `or1200_except`,
and the general registers in `or1200_rf`.  They are wired here as in `or1200_cpu`.
The instruction in EX is an input, and so are the address and the data of its SPR
access.  The floating-point unit is not implemented, and all its outputs are
zero.
-/

namespace Specs.Or1200.Core

open Specs.Sync

/-- The inputs of a cycle.  Ports that the three modules drive themselves are
replaced by the wiring below. -/
structure In where
  backend : Backend.In
  except : Except.In
  genpc : Genpc.In
deriving Inhabited

structure State where
  backend : Backend.State
  except : Except.State
  genpc : Genpc.State
deriving Inhabited

def fpcsr : BitVec 12 := 0#12

/-! ## Wires -/

def sr (s : State) (i : In) : BitVec 17 := Backend.sr s.backend i.backend

def backendIn (s : State) (i : In) : Backend.In :=
  { i.backend with
    flagWeFpu := false
    flagforwFpu := false
    recovery := { i.backend.recovery with exceptType := s.except.exceptType }
    abort := { i.backend.abort with
      traceTrap := s.except.traceTrap
      exPcVal := s.except.exPcVal
      srTed := Except.srTedNow s.except (sr s i)
      dsrTe := Except.dsrTe s.except i.except.duDsr }
    sprs := { i.backend.sprs with
      dsx := s.except.dsx
      epcr := s.except.epcr
      eear := s.except.eear
      esr := s.except.esr
      exceptStarted := Except.exceptStarted s.except
      sprDatNpc := s.except.sprDatNpc
      sprDatPpc := s.except.sprDatPpc
      sprDatFpu := 0
      fpcsr := fpcsr
      exPc := s.except.exPc
      spEpcrGhost := s.except.spEpcrGhost
      spEearGhost := s.except.spEearGhost
      spEsrGhost := s.except.spEsrGhost } }

def sprsIn (s : State) (i : In) : Sprs.In := Backend.sprsIn s.backend (backendIn s i)

def spExceptionGated (s : State) (i : In) : Bool :=
  Backend.spExceptionGated s.backend (backendIn s i)

def exFreeze (s : State) (i : In) : Bool :=
  Freeze.exFreeze i.backend.freeze (Backend.abortEx s.backend (backendIn s i))

def genpcIn (s : State) (i : In) : Genpc.In :=
  { i.genpc with
    rst := i.backend.rst
    branchOp := i.backend.sprs.branchOp
    exceptType := s.except.exceptType
    exceptPrefix := (sr s i).getLsbD srEph
    operandB := i.backend.sprs.datI
    exceptStart := Except.exceptStart s.except
    epcr := s.except.epcr
    sprDatI := Sprs.sprDatO (sprsIn s i)
    sprPcWe := Sprs.pcWe s.backend.sprs (sprsIn s i)
    exPc := s.except.exPc
    spEpcrGhost := s.except.spEpcrGhost }

def exceptIn (s : State) (i : In) : Except.In :=
  { i.except with
    rst := i.backend.rst
    sigDbuserr := i.backend.abort.sigDbuserr
    sigIllegal := i.backend.exceptIllegal || spExceptionGated s i
    sigAlign := i.backend.abort.sigAlign
    sigRange := (sr s i).getLsbD srOv
    sigDtlbmiss := i.backend.abort.sigDtlbmiss
    sigDmmufault := i.backend.abort.sigDmmufault
    sigFp := false
    fpcsrFpee := fpcsr.getLsbD 0
    exBranchTaken := Genpc.exBranchTaken s.genpc (genpcIn s i)
    genpcFreeze := i.genpc.genpcFreeze
    idFreeze := Freeze.idFreeze i.backend.freeze
    exFreeze := exFreeze s i
    wbFreeze := Backend.wbFreeze s.backend (backendIn s i)
    ifStall := i.backend.freeze.ifStall
    datain := Sprs.sprDatO (sprsIn s i)
    epcrWe := Sprs.epcrWe s.backend.sprs (sprsIn s i)
    eearWe := Sprs.eearWe s.backend.sprs (sprsIn s i)
    esrWe := Sprs.esrWe s.backend.sprs (sprsIn s i)
    pcWe := Sprs.pcWe s.backend.sprs (sprsIn s i)
    toSr := Sprs.toSr s.backend.sprs (sprsIn s i)
    srWe := Sprs.srWe s.backend.sprs (sprsIn s i)
    sr := sr s i
    exVoid := i.backend.exVoid
    branchOp := i.backend.sprs.branchOp
    spEpcrGhostWe := Sprs.spEpcrGhostWe s.backend.sprs (sprsIn s i)
    spEearGhostWe := Sprs.spEearGhostWe s.backend.sprs (sprsIn s i)
    spEsrGhostWe := Sprs.spEsrGhostWe s.backend.sprs (sprsIn s i) }

def next (s : State) (i : In) : State where
  backend := Backend.next s.backend (backendIn s i)
  except := Except.next s.except (exceptIn s i)
  genpc := Genpc.next s.genpc (genpcIn s i)

def gate : Gate In := ⟨fun i ↦ i.backend.rst, fun _ ↦ true⟩

def stateAt (s₀ : State) (tr : ℕ → In) (t : ℕ) : State := run next s₀ tr t

/-- The effective address of the SPR access in EX. -/
def Addresses (s : State) (i : In) (group : BitVec 5) (ofs : BitVec 11) : Prop :=
  Sprs.sprGroup (Sprs.sprAddr (sprsIn s i)) = group ∧
    Sprs.sprOfs (Sprs.sprAddr (sprsIn s i)) = ofs

/-- `l.mfspr` reads a system register. -/
def ReadsSpr (s : State) (i : In) (ofs : BitVec 11) : Prop :=
  (sprsIn s i).exSprRead = true ∧ Addresses s i 0#5 ofs

/-- `l.mtspr` is executed for a system register. -/
def WritesSpr (s : State) (i : In) (ofs : BitVec 11) : Prop :=
  (sprsIn s i).exSprWrite = true ∧ Addresses s i 0#5 ofs

instance (s : State) (i : In) (group : BitVec 5) (ofs : BitVec 11) :
    Decidable (Addresses s i group ofs) := inferInstanceAs (Decidable (_ ∧ _))

instance (s : State) (i : In) (ofs : BitVec 11) : Decidable (ReadsSpr s i ofs) :=
  inferInstanceAs (Decidable (_ ∧ _))

instance (s : State) (i : In) (ofs : BitVec 11) : Decidable (WritesSpr s i ofs) :=
  inferInstanceAs (Decidable (_ ∧ _))

theorem sr_eq (s : State) (i : In) : sr s i = Sprs.sr s.backend.sprs (sprsIn s i) := rfl

end Specs.Or1200.Core
