import Specs.Or1200.Freeze
import Specs.Or1200.Recovery
import Specs.Or1200.Rf
import Specs.Or1200.Sprs

/-!
# The back end in a violating cycle

The recovery registers, the register file and the special-purpose registers are
wired as in `or1200_cpu`.  In a cycle in which a violation is raised or pending
the register file is blocked at its write ports.  SR is not: only `l.rfe` is held
back, while `l.mtspr` and the writers of the flag, the carry and the overflow bit
wait for the abort, which starts one cycle after the violation and does not reach
the overflow bit at all.
-/

namespace Specs.Or1200.Backend

/-- The inputs of a cycle.  Ports of the three modules that the back end drives
itself are replaced by the wiring below. -/
structure In where
  rst : Bool
  recovery : Recovery.In
  abort : Abort.In
  freeze : Freeze.In
  rf : Rf.In
  sprs : Sprs.In
  exceptIllegal : Bool
  exVoid : Bool
  sprRead : Bool
  sprWrite : Bool
  flagforwAlu : Bool
  flagWeAlu : Bool
  flagforwFpu : Bool
  flagWeFpu : Bool
  cyWeAlu : Bool
  ovforw : Bool
  ovforwMultMac : Bool
  ovWeAlu : Bool
  ovWeMultMac : Bool
deriving Inhabited

structure State where
  recovery : Recovery.State
  rf : Rf.State
  sprs : Sprs.State
deriving Inhabited

/-! ## Wires -/

def recoveryIn (i : In) : Recovery.In := { i.recovery with rst := i.rst }

def spAssertionViolated (i : In) : Bool := Recovery.spAssertionViolated (recoveryIn i)

def spExceptionGated (s : State) (i : In) : Bool :=
  Recovery.spExceptionGated s.recovery (recoveryIn i)

def abortIn (s : State) (i : In) : Abort.In :=
  { i.abort with sigIllegal := i.exceptIllegal || spExceptionGated s i, exVoid := i.exVoid }

def abortEx (s : State) (i : In) : Bool := Abort.abortEx (abortIn s i)

def abortMvspr (s : State) (i : In) : Bool := Abort.abortMvspr (abortIn s i)

def wbFreeze (s : State) (i : In) : Bool := Freeze.wbFreeze i.freeze (abortEx s i)

def exSprRead (s : State) (i : In) : Bool := i.sprRead && !abortMvspr s i

def exSprWrite (s : State) (i : In) : Bool := i.sprWrite && !abortMvspr s i

def flagforw (i : In) : Bool :=
  (i.flagWeAlu && i.flagforwAlu) || (i.flagforwFpu && i.flagWeFpu)

def flagWe (s : State) (i : In) : Bool := (i.flagWeAlu || i.flagWeFpu) && !abortMvspr s i

def cyWeRf (s : State) (i : In) : Bool :=
  Rf.cyWeO s.rf { i.rf with cyWeI := i.cyWeAlu, wbFreeze := wbFreeze s i }

def ovWe (i : In) : Bool := i.ovWeAlu || i.ovWeMultMac

def sprsIn (s : State) (i : In) : Sprs.In :=
  { i.sprs with
    rst := i.rst
    flagforw := flagforw i
    flagWe := flagWe s i
    cyWe := cyWeRf s i
    ovforw := i.ovforw || i.ovforwMultMac
    ovWe := ovWe i
    exSprRead := exSprRead s i
    exSprWrite := exSprWrite s i
    sprDatRf := Rf.dataa s.rf
    exVoid := i.exVoid
    exceptIllegal := i.exceptIllegal || spExceptionGated s i
    spAssertionsViolated := s.recovery.spAssertionsViolatedReg
    spAssertionViolated := spAssertionViolated i }

def rfIn (s : State) (i : In) : Rf.In :=
  { i.rf with
    rst := i.rst
    cyWeI := i.cyWeAlu
    wbFreeze := wbFreeze s i
    sprCs := (Sprs.sprCs s.sprs (sprsIn s i)).getLsbD sprGroupSys
    sprWrite := Sprs.sprWe (sprsIn s i)
    sprAddr := Sprs.sprAddr (sprsIn s i)
    sprDatI := Sprs.sprDatO (sprsIn s i)
    duRead := i.sprs.duRead
    spExceptionComb := spAssertionViolated i || spExceptionGated s i }

def next (s : State) (i : In) : State where
  recovery := Recovery.next s.recovery (recoveryIn i)
  rf := Rf.next s.rf (rfIn s i)
  sprs := Sprs.next s.sprs (sprsIn s i)

def sr (s : State) (i : In) : BitVec 17 := Sprs.sr s.sprs (sprsIn s i)

/-- A pending violation aborts the instruction in EX unless it is void. -/
theorem abortMvspr_of_gated {s : State} {i : In} (hgated : spExceptionGated s i = true)
    (hvoid : i.exVoid = false) : abortMvspr s i = true := by
  apply Abort.abortMvspr_of_sigIllegal _ hvoid
  simp [abortIn, hgated]

/-- What aborts an SPR access freezes the last stages. -/
theorem wbFreeze_of_abortMvspr {s : State} {i : In} (h : abortMvspr s i = true) :
    wbFreeze s i = true := by
  rw [wbFreeze, abortEx, Abort.abortEx_of_abortMvspr h]
  exact Freeze.exFreeze_of_abortEx i.freeze

/-! ## A violating cycle -/

/-- The instruction in EX meets a raised or pending violation, outside reset, with
no access of the debug unit and no exception starting. -/
structure Violating (s : State) (i : In) : Prop where
  running : i.rst = false
  violation : spAssertionViolated i = true ∨ spExceptionGated s i = true
  noDebugRead : i.sprs.duRead = false
  noDebugWrite : i.sprs.duWrite = false
  notStarted : i.sprs.exceptStarted = false

/-- `l.mtspr` in EX writes SR, and neither the trap nor a pending illegal
instruction aborts it. -/
def mtsprWritesSr (s : State) (i : In) : Bool :=
  i.sprWrite && !abortMvspr s i && Sprs.srSel s.sprs (sprsIn s i)

def ungatedSrWrite (s : State) (i : In) : Bool :=
  mtsprWritesSr s i || flagWe s i || cyWeRf s i || ovWe i

/-- A bit of the value that the writers of SR have ready: the one of `l.rfe` if
`branch_op` says so, else the one of the flag, carry or overflow writer, else
the one of `l.mtspr`. -/
def writtenBit (s : State) (i : In) (n : ℕ) : Bool := Sprs.writtenBit s.sprs (sprsIn s i) n

/-- If a writer that is not held back is active, it writes what SR already holds.
The EPH bit does not take part in the cycle after a reset. -/
def HarmlessWrite (s : State) (i : In) : Prop :=
  ungatedSrWrite s i = true →
    ∀ n < 17, (n = srEph → s.sprs.srRegBitEphSelect = false) →
      writtenBit s i n = (sr s i).getLsbD n

section

variable {s : State} {i : In} (h : Violating s i)
include h

theorem Violating.srWe_eq : Sprs.srWe s.sprs (sprsIn s i) = ungatedSrWrite s i := by
  have hrfe : (!(sprsIn s i).exceptIllegal && !(sprsIn s i).spAssertionViolated) = false := by
    rcases h.violation with hv | hg
    · simp [sprsIn, hv]
    · simp [sprsIn, hg]
  have hmtspr : Sprs.sprWe (sprsIn s i) = (i.sprWrite && !abortMvspr s i) := by
    simp [Sprs.sprWe, Sprs.duAccess, sprsIn, exSprWrite, h.noDebugRead, h.noDebugWrite]
  rw [Sprs.srWe, hrfe, hmtspr, Bool.false_and, Bool.false_and, Bool.or_false]
  rfl

theorem Violating.gprs_next : Rf.gprs (next s i).rf = Rf.gprs s.rf := by
  apply Rf.gprs_next_of_spExceptionComb
  simpa [rfIn] using h.violation

theorem Violating.sr_next_iff (i' : In) :
    sr (next s i) i' = sr s i ↔ HarmlessWrite s i := by
  have hrst : (sprsIn s i).rst = false := h.running
  have hexc : (sprsIn s i).exceptStarted = false := h.notStarted
  have hwe := h.srWe_eq
  rw [HarmlessWrite, ← hwe]
  cases hsrWe : Sprs.srWe s.sprs (sprsIn s i) with
  | false =>
      have hkept : sr (next s i) i' = sr s i :=
        Sprs.sr_next_of_not_srWe hrst hexc hsrWe (sprsIn (next s i) i')
      exact iff_of_true hkept fun hw ↦ absurd hw Bool.false_ne_true
  | true =>
      apply (Sprs.sr_next_eq_iff_of_srWe hrst hexc hsrWe (sprsIn (next s i) i')).trans
      constructor
      · intro hall _
        exact hall
      · intro hall
        exact hall rfl

/-- In a violating cycle the general registers are kept, and SR is kept exactly
when the writers that are not held back are silent or write what it holds. -/
theorem violating_frame_iff (i' : In) :
    Rf.gprs (next s i).rf = Rf.gprs s.rf ∧
      (sr (next s i) i' = sr s i ↔ HarmlessWrite s i) :=
  ⟨h.gprs_next, h.sr_next_iff i'⟩

end

/-- Once the violation is pending, an instruction that is not void is aborted, and
only the overflow bit is still written. -/
theorem ungatedSrWrite_of_gated {s : State} {i : In} (hgated : spExceptionGated s i = true)
    (hvoid : i.exVoid = false) : ungatedSrWrite s i = ovWe i := by
  have habort : abortMvspr s i = true := abortMvspr_of_gated hgated hvoid
  have hfreeze : wbFreeze s i = true := wbFreeze_of_abortMvspr habort
  simp [ungatedSrWrite, mtsprWritesSr, flagWe, cyWeRf, Rf.cyWeO, habort, hfreeze]

/-! ## An `l.mtspr` that commits -/

def supervisor : State :=
  { (default : State) with
    sprs := { (default : Sprs.State) with srReg := 0x8001#17 }
    rf := { (default : Rf.State) with rfWeAllow := true } }

def violation : In :=
  { (default : In) with
    recovery := { (default : Recovery.In) with spAssertionsViolated := 0x200#32 } }

/-- A checker fires while `l.mtspr r0,rB,0x11` is in EX with zero in `rB`. -/
def mtsprViolation : In :=
  { violation with
    sprWrite := true
    sprs := { (default : Sprs.In) with addrofs := 0x11#16 } }

theorem violating_frame_violation :
    Rf.gprs (next supervisor violation).rf = Rf.gprs supervisor.rf ∧
      sr (next supervisor violation) default = sr supervisor violation := by
  obtain ⟨hgprs, hsr⟩ := violating_frame_iff
    (⟨rfl, Or.inl (by decide), rfl, rfl, rfl⟩ : Violating supervisor violation) default
  refine ⟨hgprs, hsr.mpr ?_⟩
  intro hw
  exact absurd hw (by decide)

theorem mtsprViolation_commits :
    Violating supervisor mtsprViolation ∧
      sr supervisor mtsprViolation = 0x8001#17 ∧
      sr (next supervisor mtsprViolation) default = 0x8000#17 :=
  ⟨⟨rfl, Or.inl (by decide), rfl, rfl, rfl⟩, by decide, by decide⟩

end Specs.Or1200.Backend
