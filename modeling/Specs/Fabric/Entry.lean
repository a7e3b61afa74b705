import Specs.Fabric.Monitors

/-!
# Checker 3: entering an exception vector

At a step that enters a low-page vector, checker 3 compares the saved registers
with the state before the exception.  Two parts of it see less than they are
meant to.  Outside a delay slot EPCR is compared with the program counters by
two sub-checkers, one of which samples the vector of the instruction TLB miss
only, and both have to fire.  The mode before the exception is kept in a
register that is loaded in every cycle, enabled or not, so a disabled cycle
before the entry clears it.
-/

namespace Specs.BakedInAssertions

open Specs.Sync Specs.Ovl Specs.Or1200

structure EntersVector (p i : In) : Prop where
  before : atVector p = false
  now : atVector i = true

/-- The saved EEAR or EPCR is not one of the values that the sub-checkers on them
accept at an entry. -/
def savedPcWrong (i : In) : Bool :=
  (atItlbMiss i && i.eear != i.sprDatNpc) ||
    if i.sr.getLsbD srDsx then i.epcr != i.sprDatPpc
    else i.epcr != i.sprDatPpc + 4#32 && atItlbMiss i && i.epcr != i.sprDatNpc

theorem atVector_of_atItlbMiss {i : In} (h : atItlbMiss i = true) : atVector i = true := by
  simp only [atItlbMiss, beq_iff_eq] at h
  rw [atVector, h]
  rfl

section Entry

variable {p i : In} (past : List In) (h : EntersVector p i)
include h

theorem EntersVector.rising_atVector :
    AlwaysOnEdge.rising atVector (p :: past) i = true := by
  simp [AlwaysOnEdge.rising, h.before, h.now]

theorem EntersVector.rising_atItlbMiss :
    AlwaysOnEdge.rising atItlbMiss (p :: past) i = atItlbMiss i := by
  have hp : atItlbMiss p = false := by
    by_contra hne
    have hv := atVector_of_atItlbMiss (Bool.not_eq_false _ ▸ hne)
    rw [h.before] at hv
    exact Bool.false_ne_true hv
  simp [AlwaysOnEdge.rising, hp]

theorem EntersVector.savedPc : savedPc (p :: past) i = savedPcWrong i := by
  simp only [BakedInAssertions.savedPc, AlwaysOnEdge.edge, h.rising_atVector past,
    h.rising_atItlbMiss past, savedPcWrong, bne]
  cases i.sr.getLsbD srDsx <;> simp [Bool.and_assoc]

theorem EntersVector.savedMode : savedMode (p :: past) i = i.esr.getLsbD 0 := by
  simp [BakedInAssertions.savedMode, h.rising_atVector past]

end Entry

section

variable (s₀ : State) (tr : ResetTrace gate) {t : ℕ} {p : In} {past : List In}

/-- Bit 3 at an entry: besides the present step only the cycle right before it
counts. -/
theorem firedAt_three_of_entersVector (hstep : gate.IsStep (tr (t + 1)))
    (hsteps : gate.steps tr (t + 1) = p :: past) (h : EntersVector p (tr (t + 1))) :
    (firedAt s₀ tr (t + 1)).getLsbD 3 =
      (savedPcWrong (tr (t + 1)) || ((tr (t + 1)).esr.getLsbD 0 && userStep (tr t))) := by
  rw [firedAt_three, gate.verdict_of_isStep hstep, gate.verdict_of_isStep hstep, hsteps,
    h.savedPc past, h.savedMode past]

/-! ## EPCR -/

/-- The exception was not taken in a delay slot, and the saved EPCR is neither
the program counter after the interrupted instruction nor, on an instruction TLB
miss, the next one. -/
structure WrongEpcr (i : In) : Prop where
  notDelaySlot : i.sr.getLsbD srDsx = false
  notNext : i.epcr ≠ i.sprDatPpc + 4#32
  notTarget : i.exPc = 0x00000A00#32 → i.epcr ≠ i.sprDatNpc

theorem savedPcWrong_of_wrongEpcr {i : In} (h : WrongEpcr i) :
    savedPcWrong i = atItlbMiss i := by
  rw [savedPcWrong, h.notDelaySlot]
  cases hmiss : atItlbMiss i with
  | false => simp
  | true =>
      have htarget := h.notTarget (by simpa [atItlbMiss] using hmiss)
      simp [h.notNext, htarget]

/-- A wrong EPCR is reported exactly when the exception is an instruction TLB
miss, or when the check of ESR happens to fire in the same step. -/
theorem wrongEpcr_reported_iff (hstep : gate.IsStep (tr (t + 1)))
    (hsteps : gate.steps tr (t + 1) = p :: past) (h : EntersVector p (tr (t + 1)))
    (hepcr : WrongEpcr (tr (t + 1))) :
    (firedAt s₀ tr (t + 1)).getLsbD 3 = true ↔
      (tr (t + 1)).exPc = 0x00000A00#32 ∨
        ((tr (t + 1)).esr.getLsbD 0 = true ∧ userStep (tr t) = true) := by
  rw [firedAt_three_of_entersVector s₀ tr hstep hsteps h, savedPcWrong_of_wrongEpcr hepcr,
    Bool.or_eq_true, Bool.and_eq_true, atItlbMiss, beq_iff_eq]

/-- A reset cycle, an instruction at 0x2000 in supervisor mode, and the entry of
the vector `pc` with EPCR zero. -/
def lostEpcr (pc : BitVec 32) : ResetTrace gate where
  cycle
    | 0 => { (default : In) with rst := true }
    | 1 => { (default : In) with enable := true, exPc := 0x2000#32, sr := 1#17 }
    | _ => { (default : In) with
        enable := true, exPc := pc, sr := 1#17, esr := 1#17, sprDatPpc := 0x2000#32,
        sprDatNpc := 0x2004#32, eear := 0x2004#32 }
  reset_first := rfl

theorem wrongEpcr_reported_lostEpcr :
    (firedAt default (lostEpcr 0x00000A00#32) 2).getLsbD 3 = true :=
  (wrongEpcr_reported_iff default (lostEpcr 0x00000A00#32) ⟨rfl, rfl⟩ rfl
    ⟨by decide, by decide⟩ ⟨by decide, by decide, by decide⟩).mpr (Or.inl rfl)

theorem lostEpcr_unreported :
    (gate.IsStep (lostEpcr 0x00000C00#32 2) ∧
      gate.steps (lostEpcr 0x00000C00#32) 2 = [lostEpcr 0x00000C00#32 1] ∧
      EntersVector (lostEpcr 0x00000C00#32 1) (lostEpcr 0x00000C00#32 2) ∧
      WrongEpcr (lostEpcr 0x00000C00#32 2)) ∧
    (firedAt default (lostEpcr 0x00000C00#32) 2).getLsbD 3 = false :=
  ⟨⟨⟨rfl, rfl⟩, rfl, ⟨by decide, by decide⟩, ⟨by decide, by decide, by decide⟩⟩, by decide⟩

/-! ## ESR -/

structure WrongEsr (p i : In) : Prop where
  userBefore : p.sr.getLsbD srSm = false
  supervisorSaved : i.esr.getLsbD srSm = true

/-- A supervisor ESR saved for user mode is reported exactly when no disabled
cycle stands between the two steps, or when the checks of EEAR and EPCR happen
to fire in the same step. -/
theorem wrongEsr_reported_iff (hstep : gate.IsStep (tr (t + 1)))
    (hsteps : gate.steps tr (t + 1) = p :: past) (h : EntersVector p (tr (t + 1)))
    (hesr : WrongEsr p (tr (t + 1))) :
    (firedAt s₀ tr (t + 1)).getLsbD 3 = true ↔
      gate.IsStep (tr t) ∨ savedPcWrong (tr (t + 1)) = true := by
  have huser : userStep (tr t) = true ↔ gate.IsStep (tr t) := by
    constructor
    · intro hu
      simp only [userStep, Bool.and_eq_true, Bool.not_eq_true'] at hu
      exact hu.1
    · intro ht
      have hpt : tr t = p := by
        rw [gate.steps_succ_of_isStep ht] at hsteps
        exact (List.cons.inj hsteps).1
      have hmode : (tr t).sr.getLsbD 0 = false := hpt ▸ hesr.userBefore
      simp only [userStep, hmode, Bool.not_false, Bool.and_true, Bool.and_eq_true,
        Bool.not_eq_true']
      exact ht
  rw [firedAt_three_of_entersVector s₀ tr hstep hsteps h, Bool.or_eq_true, Bool.and_eq_true,
    huser, or_comm]
  simp only [hesr.supervisorSaved, true_and]

end

def userCycle : In := { (default : In) with enable := true, exPc := 0x2000#32 }

def escalatedEntry : In :=
  { (default : In) with
    enable := true, exPc := 0x00000C00#32, sr := 1#17, esr := 1#17,
    sprDatPpc := 0x2000#32, sprDatNpc := 0x2004#32, epcr := 0x2004#32 }

def escalation : ResetTrace gate where
  cycle
    | 0 => { (default : In) with rst := true }
    | 1 => userCycle
    | _ => escalatedEntry
  reset_first := rfl

/-- The same with one disabled cycle before the entry. -/
def stalledEscalation : ResetTrace gate where
  cycle
    | 0 => { (default : In) with rst := true }
    | 1 => userCycle
    | 2 => { userCycle with enable := false }
    | _ => escalatedEntry
  reset_first := rfl

theorem wrongEsr_reported_escalation : (firedAt default escalation 2).getLsbD 3 = true :=
  (wrongEsr_reported_iff default escalation ⟨rfl, rfl⟩ rfl
    ⟨by decide, by decide⟩ ⟨by decide, by decide⟩).mpr (Or.inl ⟨rfl, rfl⟩)

theorem stalledEscalation_unreported :
    (gate.IsStep (stalledEscalation 3) ∧
      gate.steps stalledEscalation 3 = [stalledEscalation 1] ∧
      EntersVector (stalledEscalation 1) (stalledEscalation 3) ∧
      WrongEsr (stalledEscalation 1) (stalledEscalation 3)) ∧
    (firedAt default stalledEscalation 3).getLsbD 3 = false :=
  ⟨⟨⟨rfl, rfl⟩, rfl, ⟨by decide, by decide⟩, ⟨by decide, by decide⟩⟩, by decide⟩

end Specs.BakedInAssertions
