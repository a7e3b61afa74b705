import Specs.Or1200.UserWrite
import Specs.Or1200.Saved

/-!
# Writes of the saved registers after an exception

The write ports of the saved registers and of their ghosts are served in the idle
state of the exception unit only.  After an entry the unit becomes idle again when the
first instruction of the handler leaves EX, at the end of that cycle.  If this
instruction is an `l.mtspr` of one of these registers, its write is lost, while SR
and the registers of the violation handler take theirs in every state.
-/

namespace Specs.Or1200.Core

open Specs.Sync

/-- `l.mtspr` of the saved register `r` leaves EX at the end of the cycle. -/
structure CompletesMtspr (s : State) (i : In) (r : SavedReg) : Prop where
  running : i.backend.rst = false
  supervisor : (sr s i).getLsbD srSm = true
  noDebug : Sprs.duAccess (sprsIn s i) = false
  writes : WritesSpr s i r.ofs
  completes : exFreeze s i = false
  notTaken : Except.exceptFlushpipe s.except (exceptIn s i) = false

section

variable {s : State} {i : In} {r : SavedReg} (h : CompletesMtspr s i r)
include h

theorem CompletesMtspr.value_of_idle (hidle : s.except.state = .idle) :
    r.value (next s i).except.toSequencer = r.stored i.backend.sprs.datI :=
  r.value_next_of_supervisor h.noDebug h.running h.notTaken hidle h.writes h.supervisor

theorem CompletesMtspr.value_of_not_idle (hidle : s.except.state ≠ .idle) :
    r.value (next s i).except.toSequencer = r.value s.except.toSequencer := by
  have hvalue := r.value_nextSequencer (i := exceptIn s i) h.running h.notTaken
    (pcWe_of_not_duAccess h.noDebug)
  rw [if_neg fun hwrite ↦ hidle hwrite.1] at hvalue
  exact hvalue

/-- A completed write is kept exactly when the unit is idle in the last cycle, or the
register held the value before. -/
theorem completedMtspr_kept_iff :
    r.value (next s i).except.toSequencer = r.stored i.backend.sprs.datI ↔
      s.except.state = .idle ∨
        r.value s.except.toSequencer = r.stored i.backend.sprs.datI := by
  constructor
  · intro hkept
    by_cases hidle : s.except.state = .idle
    · exact Or.inl hidle
    · exact Or.inr ((h.value_of_not_idle hidle).symm.trans hkept)
  · intro hcond
    by_cases hidle : s.except.state = .idle
    · exact h.value_of_idle hidle
    · rw [h.value_of_not_idle hidle]
      exact hcond.resolve_left hidle

end

/-! ## The first instruction of a handler -/

/-- A void instruction is in EX while the next one is fetched. -/
def bubble (flush : Bool) : In :=
  { (default : In) with
    backend := { (default : Backend.In) with exVoid := true }
    except := { (default : Except.In) with
      icpuAckI := true
      idFlushpipe := flush
      exFlushpipe := flush } }

def resetCycle : In := { bubble false with backend := { (default : Backend.In) with rst := true } }

def syscallCycle : In :=
  { (default : In) with
    except := { (default : Except.In) with
      sigSyscall := true
      idFlushpipe := true
      exFlushpipe := true } }

/-- `l.sys` in cycle 1, and `l.mtspr` of EPCR as the first two instructions of its
handler, in EX in cycles 8 and 9. -/
def firstMtsprTrace : ResetTrace gate where
  cycle
    | 0 => resetCycle
    | 1 => syscallCycle
    | 2 | 3 | 4 | 5 => bubble true
    | 8 | 9 => mtspr 0x20#16
    | _ => bubble false
  reset_first := rfl

theorem secondMtspr_kept :
    SavedReg.epcr.value (stateAt default firstMtsprTrace 10).except.toSequencer =
      SavedReg.epcr.stored 7#32 := by
  have hcompletes :
      CompletesMtspr (stateAt default firstMtsprTrace 9) (firstMtsprTrace 9) .epcr := by
    refine ⟨rfl, ?_, rfl, ?_, ?_, ?_⟩
    all_goals decide +kernel
  have hidle : (stateAt default firstMtsprTrace 9).except.state = .idle := by decide +kernel
  exact (completedMtspr_kept_iff hcompletes).mpr (Or.inl hidle)

theorem firstMtspr_completes :
    CompletesMtspr (stateAt default firstMtsprTrace 8) (firstMtsprTrace 8) .epcr where
  running := rfl
  supervisor := by decide +kernel
  noDebug := rfl
  writes := by decide +kernel
  completes := by decide +kernel
  notTaken := by decide +kernel

theorem firstMtspr_lost :
    ¬∀ (tr : ResetTrace gate) (t : ℕ) (r : SavedReg),
      CompletesMtspr (stateAt default tr t) (tr t) r →
        r.value (stateAt default tr (t + 1)).except.toSequencer =
          r.stored (tr t).backend.sprs.datI := by
  intro hall
  have hkept := hall firstMtsprTrace 8 .epcr firstMtspr_completes
  exact absurd hkept (by decide +kernel)

end Specs.Or1200.Core
