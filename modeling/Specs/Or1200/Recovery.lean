import Specs.Or1200.Defines
import Specs.Sync.Gate
import Specs.Sync.Request

/-!
# The recovery registers

`or1200_cpu` turns a fired checker into the request for an illegal-instruction
exception.  Two registers keep the request: a pulse in the cycle after the
violation, and a hold flag from then on.  The hold flag is cleared in every cycle
in which `except_type` is the illegal-instruction exception, also when a new
violation arrives in that very cycle; such a violation is kept by the pulse
alone, and is dropped one cycle later.
-/

namespace Specs.Or1200.Recovery

open Specs.Sync

structure In where
  rst : Bool
  spAssertionsViolated : BitVec 32
  exceptType : BitVec 4
deriving Inhabited

structure State where
  spAssertionsViolatedReg : BitVec 32
  spAssertionViolatedReg : Bool
  spExceptionHold : Bool
deriving DecidableEq, Inhabited

def spAssertionViolated (i : In) : Bool := i.spAssertionsViolated != 0#32

def spExceptionHandled (i : In) : Bool := i.exceptType == exceptIllegal

def spExceptionGated (s : State) (i : In) : Bool :=
  (s.spAssertionViolatedReg || s.spExceptionHold) && !spExceptionHandled i

def next (s : State) (i : In) : State where
  spAssertionsViolatedReg :=
    if i.rst then 0
    else if spAssertionViolated i then i.spAssertionsViolated
    else s.spAssertionsViolatedReg
  spAssertionViolatedReg :=
    if i.rst then false
    else if spAssertionViolated i then spAssertionViolated i
    else false
  spExceptionHold :=
    if i.rst then false
    else if spExceptionHandled i then false
    else if spAssertionViolated i then true
    else s.spExceptionHold

/-! ## The request behind the registers -/

def request : Request In where
  rst i := i.rst = true
  raised i := spAssertionViolated i = true
  answered i := spExceptionHandled i = true

def gate : Gate In := ⟨In.rst, fun _ ↦ true⟩

def gatedAt (s₀ : State) (tr : ℕ → In) (u : ℕ) : Bool :=
  spExceptionGated (run next s₀ tr u) (tr u)

/-- What the gated request stands for: a raise before the cycle, not answered up
to and in the cycle, and no reset since. -/
def Requested (tr : ℕ → In) (u : ℕ) : Prop :=
  ∃ t < u, spAssertionViolated (tr t) = true ∧ (∀ v, t ≤ v → v ≤ u → (tr v).rst = false) ∧
    ∀ v, t < v → v ≤ u → (tr v).exceptType ≠ exceptIllegal

def KeepsRequests (s₀ : State) (tr : ℕ → In) : Prop :=
  ∀ u, (tr u).rst = false → (gatedAt s₀ tr u = true ↔ Requested tr u)

/-- A violation arrives while an earlier one is being handled, and is not itself
answered or reset in the two cycles after it. -/
structure Dropped (tr : ℕ → In) (t : ℕ) : Prop where
  violated : spAssertionViolated (tr t) = true
  handled : (tr t).exceptType = exceptIllegal
  unanswered : (tr (t + 1)).exceptType ≠ exceptIllegal ∧ (tr (t + 2)).exceptType ≠ exceptIllegal
  running : (tr t).rst = false ∧ (tr (t + 1)).rst = false ∧ (tr (t + 2)).rst = false

theorem handled_iff (i : In) :
    spExceptionHandled i = true ↔ i.exceptType = exceptIllegal := by
  rw [spExceptionHandled, beq_iff_eq]

theorem handled_eq_false_iff (i : In) :
    spExceptionHandled i = false ↔ i.exceptType ≠ exceptIllegal := by
  rw [← Bool.not_eq_true, handled_iff]

theorem requested_iff {tr : ℕ → In} {u : ℕ} (hrst : (tr u).rst = false) :
    Requested tr u ↔
      request.Outstanding tr u ∧ (tr u).exceptType ≠ exceptIllegal := by
  constructor
  · rintro ⟨t, ht, hviolated, hreset, hanswer⟩
    refine ⟨⟨t, ht, hviolated, ?_, ?_⟩, hanswer u ht le_rfl⟩
    · intro v htv hvu
      exact Bool.eq_false_iff.mp (hreset v htv hvu.le)
    · intro v htv hvu hv
      exact hanswer v htv hvu.le ((handled_iff _).mp hv)
  · rintro ⟨⟨t, ht, hviolated, hreset, hanswer⟩, hnow⟩
    refine ⟨t, ht, hviolated, ?_, ?_⟩
    · intro v htv hvu
      rcases Nat.lt_or_eq_of_le hvu with hlt | rfl
      · exact Bool.eq_false_iff.mpr (hreset v htv hlt)
      · exact hrst
    · intro v htv hvu
      rcases Nat.lt_or_eq_of_le hvu with hlt | rfl
      · intro hv
        exact hanswer v htv hlt ((handled_iff _).mpr hv)
      · exact hnow

/-! ## One cycle of the registers -/

theorem gated_iff (s : State) (i : In) :
    spExceptionGated s i = true ↔
      (s.spAssertionViolatedReg = true ∨ s.spExceptionHold = true) ∧
        i.exceptType ≠ exceptIllegal := by
  rw [spExceptionGated, Bool.and_eq_true, Bool.or_eq_true, Bool.not_eq_true',
    handled_eq_false_iff]

theorem pulse_next_iff (s : State) (i : In) :
    (next s i).spAssertionViolatedReg = true ↔
      i.rst = false ∧ spAssertionViolated i = true := by
  cases hr : i.rst <;> cases hv : spAssertionViolated i <;> simp [next, hr, hv]

theorem hold_next_iff (s : State) (i : In) :
    (next s i).spExceptionHold = true ↔
      i.rst = false ∧ i.exceptType ≠ exceptIllegal ∧
        (spAssertionViolated i = true ∨ s.spExceptionHold = true) := by
  rw [← handled_eq_false_iff]
  cases hr : i.rst <;> cases hh : spExceptionHandled i <;> cases hv : spAssertionViolated i <;>
    simp [next, hr, hh, hv]

/-! ## The registers and the request -/

section

variable (s₀ : State) (tr : ResetTrace gate)

theorem pulse_run_iff (t : ℕ) :
    (run next s₀ tr (t + 1)).spAssertionViolatedReg = true ↔
      (tr t).rst = false ∧ spAssertionViolated (tr t) = true := by
  rw [run_succ, pulse_next_iff]

theorem hold_run_iff (t : ℕ) :
    (run next s₀ tr (t + 1)).spExceptionHold = true ↔
      (tr t).rst = false ∧ (tr t).exceptType ≠ exceptIllegal ∧
        (spAssertionViolated (tr t) = true ∨ (run next s₀ tr t).spExceptionHold = true) := by
  rw [run_succ, hold_next_iff]

/-- A dropped violation is requested two cycles later, but no longer gated. -/
theorem not_gated_of_dropped
    (hsilent : ∀ u, gatedAt s₀ tr u = true → spAssertionViolated (tr u) = false) {t : ℕ}
    (h : Dropped tr t) : ¬gatedAt s₀ tr (t + 2) = true := by
  have hpulse : (run next s₀ tr (t + 1)).spAssertionViolatedReg = true :=
    (pulse_run_iff s₀ tr t).mpr ⟨h.running.1, h.violated⟩
  have hhold : (run next s₀ tr (t + 1)).spExceptionHold = false := by
    rw [← Bool.not_eq_true, hold_run_iff]
    rintro ⟨-, hunanswered, -⟩
    exact hunanswered h.handled
  have hquiet : spAssertionViolated (tr (t + 1)) = false :=
    hsilent (t + 1) ((gated_iff _ _).mpr ⟨Or.inl hpulse, h.unanswered.1⟩)
  intro hgated
  rcases ((gated_iff _ _).mp hgated).1 with hpulse' | hhold'
  · rw [pulse_run_iff, hquiet] at hpulse'
    exact Bool.false_ne_true hpulse'.2
  · rw [hold_run_iff, hquiet, hhold] at hhold'
    rcases hhold'.2.2 with hv | hv <;> exact Bool.false_ne_true hv

theorem requested_of_dropped {t : ℕ} (h : Dropped tr t) : Requested tr (t + 2) := by
  refine ⟨t, by omega, h.violated, ?_, ?_⟩
  · intro v htv hvu
    obtain rfl | rfl | rfl : v = t ∨ v = t + 1 ∨ v = t + 2 := by omega
    · exact h.running.1
    · exact h.running.2.1
    · exact h.running.2.2
  · intro v htv hvu
    obtain rfl | rfl : v = t + 1 ∨ v = t + 2 := by omega
    · exact h.unanswered.1
    · exact h.unanswered.2

/-- When no violation is dropped, the registers show what is outstanding in every
cycle that is neither a reset nor an answer.  The invariant says nothing in the
other cycles: a lost violation that is answered or reset makes no difference
afterwards. -/
theorem registers_iff_outstanding (hkept : ∀ t, ¬Dropped tr t) (u : ℕ)
    (hrst : (tr u).rst = false) (hanswer : (tr u).exceptType ≠ exceptIllegal) :
    ((run next s₀ tr u).spAssertionViolatedReg = true ∨
      (run next s₀ tr u).spExceptionHold = true) ↔ request.Outstanding tr u := by
  induction u with
  | zero => exact absurd (hrst.symm.trans tr.reset_first) Bool.false_ne_true
  | succ u ih =>
      rw [pulse_run_iff, hold_run_iff, request.outstanding_succ_iff]
      change _ ↔ ¬(tr u).rst = true ∧ (spAssertionViolated (tr u) = true ∨
        request.Outstanding tr u ∧ ¬spExceptionHandled (tr u) = true)
      rw [handled_iff, Bool.not_eq_true]
      by_cases hr : (tr u).rst = false
      · by_cases hv : spAssertionViolated (tr u) = true
        · simp [hr, hv]
        · by_cases hx : (tr u).exceptType = exceptIllegal
          · simp [hv, hx]
          · have hih := ih hr hx
            -- The pulse alone cannot carry the request here, it would be dropped.
            have hhold : (run next s₀ tr u).spAssertionViolatedReg = true →
                (run next s₀ tr u).spExceptionHold = true := by
              intro hpulse
              cases u with
              | zero => exact absurd (hr.symm.trans tr.reset_first) Bool.false_ne_true
              | succ t =>
                  obtain ⟨hrt, hvt⟩ := (pulse_run_iff s₀ tr t).mp hpulse
                  rw [hold_run_iff]
                  refine ⟨hrt, ?_, Or.inl hvt⟩
                  intro hxt
                  exact hkept t ⟨hvt, hxt, ⟨hx, hanswer⟩, ⟨hrt, hr, hrst⟩⟩
            have hreg : (run next s₀ tr u).spExceptionHold = true ↔
                request.Outstanding tr u := by
              rw [← hih]
              exact ⟨Or.inr, fun h ↦ h.elim hhold id⟩
            simp [hr, hv, hx, hreg]
      · simp [hr]

/-- The gated request is right in every cycle exactly when no violation arrives
in a cycle in which an earlier one is handled, unless it is reset or answered
within two cycles. -/
theorem keepsRequests_iff
    (hsilent : ∀ u, gatedAt s₀ tr u = true → spAssertionViolated (tr u) = false) :
    KeepsRequests s₀ tr ↔ ∀ t, ¬Dropped tr t := by
  constructor
  · intro hkeeps t hdropped
    apply not_gated_of_dropped s₀ tr hsilent hdropped
    apply (hkeeps (t + 2) hdropped.running.2.2).mpr
    exact requested_of_dropped tr hdropped
  · intro hkept u hrst
    rw [requested_iff hrst, gatedAt, gated_iff]
    by_cases hx : (tr u).exceptType = exceptIllegal
    · simp [hx]
    · simp only [registers_iff_outstanding s₀ tr hkept u hrst hx]

end

def oneViolation : ResetTrace gate where
  cycle
    | 0 => { (default : In) with rst := true }
    | 1 => { (default : In) with spAssertionsViolated := 1#32 }
    | _ => default
  reset_first := rfl

theorem keepsRequests_oneViolation : KeepsRequests default oneViolation := by
  have hsilent : ∀ u, gatedAt default oneViolation u = true →
      spAssertionViolated (oneViolation u) = false := by
    intro u hgated
    rcases u with _ | _ | u
    · rfl
    · exact absurd hgated (by decide)
    · rfl
  apply (keepsRequests_iff default oneViolation hsilent).mpr
  intro t hdropped
  have hnone : (oneViolation t).exceptType = exceptNone := by
    rcases t with _ | _ | t <;> rfl
  have hhandled := hdropped.handled
  rw [hnone] at hhandled
  exact absurd hhandled (by decide)

/-- A violation in cycle 1 is answered in cycle 3, in which another one arrives. -/
def violationDuringHandling : ResetTrace gate where
  cycle
    | 0 => { (default : In) with rst := true }
    | 1 => { (default : In) with spAssertionsViolated := 1#32 }
    | 2 => default
    | 3 => { (default : In) with spAssertionsViolated := 1#32, exceptType := exceptIllegal }
    | _ => default
  reset_first := rfl

theorem violationDuringHandling_dropped :
    (∀ u, gatedAt default violationDuringHandling u = true →
      spAssertionViolated (violationDuringHandling u) = false) ∧
    gatedAt default violationDuringHandling 5 = false ∧ Requested violationDuringHandling 5 ∧
    ¬KeepsRequests default violationDuringHandling := by
  have hgated : gatedAt default violationDuringHandling 5 = false := by decide
  have hrequested : Requested violationDuringHandling 5 := by
    refine ⟨3, by decide, by decide, ?_, ?_⟩
    · intro v hlo hhi
      obtain rfl | rfl | rfl : v = 3 ∨ v = 4 ∨ v = 5 := by omega
      all_goals rfl
    · intro v hlo hhi
      obtain rfl | rfl : v = 4 ∨ v = 5 := by omega
      all_goals decide
  refine ⟨?_, hgated, hrequested, ?_⟩
  · intro u hu
    rcases u with _ | _ | _ | _ | u
    · rfl
    · exact absurd hu (by decide)
    · rfl
    · exact absurd hu (by decide)
    · rfl
  · intro hkeeps
    have hu := (hkeeps 5 rfl).mpr hrequested
    rw [hgated] at hu
    exact Bool.false_ne_true hu

end Specs.Or1200.Recovery
