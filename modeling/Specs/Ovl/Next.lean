import Specs.Ovl.Level
import Specs.Sync.Shift

/-!
# The next checker

`ovl_next` tests `test_expr` a number of steps after `start_event`, the number
being an input.  Past start events are kept in a shift register.
-/

namespace Specs.Ovl

open Specs.Sync

namespace Next

/-- Ports of `ovl_next_wrapped`; `w` is `num_cks_width`. -/
structure In (w : ℕ) where
  rst : Bool
  enable : Bool
  numCks : BitVec w
  startEvent : Bool
  testExpr : Bool
  prevConfigInvalid : Bool

/-- Registers of `ovl_next_logic`; `n` is `num_cks_max`. -/
structure State (n : ℕ) where
  monitor : BitVec n
  fire2State : Bool
deriving DecidableEq, Inhabited

def State.reset (n : ℕ) : State n := ⟨0, false⟩

section Logic

variable (checkOverlapping checkMissingStart : ℕ) {n w : ℕ}

def numCks_1 (i : In w) : BitVec w := i.numCks - 1

def monitor_1 (s : State n) : BitVec n := s.monitor <<< 1

def fire2State_1 (s : State n) (i : In w) : Bool :=
  checkOverlapping == 0 && monitor_1 s != 0 && i.startEvent

def fire2State_2 (s : State n) (i : In w) : Bool :=
  checkMissingStart != 0 && !s.monitor.getLsbD (numCks_1 i).toNat && i.testExpr

def fire2State_3 (s : State n) (i : In w) : Bool :=
  s.monitor.getLsbD (numCks_1 i).toNat && !i.testExpr

def fire (s : State n) (i : In w) : Bool :=
  fire2State_1 checkOverlapping s i || fire2State_2 checkMissingStart s i ||
    fire2State_3 s i

def next (s : State n) (i : In w) : State n where
  monitor :=
    if resetN i.rst == false then 0
    else if i.enable then monitor_1 s ||| (BitVec.ofBool i.startEvent).setWidth n
    else s.monitor
  fire2State :=
    if resetN i.rst == false then false
    else if i.enable then fire checkOverlapping checkMissingStart s i
    else s.fire2State

def fire2StateComb (s : State n) (i : In w) : Bool :=
  resetN i.rst && i.enable && fire checkOverlapping checkMissingStart s i

end Logic

/-- Output of `ovl_next_wrapped`, which overrides neither `check_overlapping`
nor `check_missing_start`. -/
def out {n w : ℕ} (s : State n) (i : In w) : Bool :=
  fire2StateComb 1 0 s i && !i.prevConfigInvalid

/-! ## The checker as a gated register -/

variable {n w : ℕ}

def gate : Gate (In w) := ⟨In.rst, In.enable⟩

@[simp] theorem gate_rst (i : In w) : gate.rst i = i.rst := rfl

@[simp] theorem gate_enable (i : In w) : gate.enable i = i.enable := rfl

def load (checkOverlapping checkMissingStart : ℕ) (s : State n) (i : In w) : State n :=
  ⟨monitor_1 s ||| (BitVec.ofBool i.startEvent).setWidth n,
    fire checkOverlapping checkMissingStart s i⟩

theorem next_eq_register (checkOverlapping checkMissingStart : ℕ)
    (s : State n) (i : In w) :
    next checkOverlapping checkMissingStart s i =
      gate.register (State.reset n) (load checkOverlapping checkMissingStart) s i := by
  cases hr : i.rst <;> cases he : i.enable <;>
    simp [next, Gate.register, load, State.reset, hr, he]

def loadMonitor (m : BitVec n) (i : In w) : BitVec n :=
  m <<< 1 ||| (BitVec.ofBool i.startEvent).setWidth n

theorem monitor_next (checkOverlapping checkMissingStart : ℕ) (s : State n) (i : In w) :
    (next checkOverlapping checkMissingStart s i).monitor =
      gate.register 0 loadMonitor s.monitor i := by
  rw [next_eq_register, Gate.register, Gate.register]
  split
  · rfl
  · split <;> rfl

theorem shifts_loadMonitor : Shifts (loadMonitor (n := n) (w := w)) In.startEvent where
  lowest := by
    intro m i hn
    simp [loadMonitor, hn]
  moved := by
    intro m i k hk
    have hbelow : k < n := Nat.lt_of_succ_lt hk
    simp [loadMonitor, hk, BitVec.getLsbD_eq_getElem hbelow]

/-- The shift register after a reset: bit `k` is the start event `k` steps before the
latest one. -/
theorem monitor_run_getLsbD (checkOverlapping checkMissingStart : ℕ) (s₀ : State n)
    {tr : ℕ → In w} {a t k : ℕ} (ha : (tr a).rst = true) (hat : a ≤ t) (hk : k < n) :
    (run (next checkOverlapping checkMissingStart) s₀ tr (t + 1)).monitor.getLsbD k =
      recent In.startEvent (gate.steps tr (t + 1)) k :=
  gate.run_shift State.monitor shifts_loadMonitor
    (monitor_next checkOverlapping checkMissingStart) s₀ ha hat hk

/-! ## The monitor

The index into the shift register is computed with wrap-around, which does no harm
as long as `num_cks` is not zero. -/

theorem numCks_1_toNat {i : In w} (h : 1 ≤ i.numCks.toNat) :
    (numCks_1 i).toNat = i.numCks.toNat - 1 := by
  have hw : 0 < w := by
    by_contra hzero
    obtain rfl : w = 0 := Nat.eq_zero_of_not_pos hzero
    have := i.numCks.isLt
    omega
  have hone : (1 : BitVec w).toNat = 1 := BitVec.toNat_one hw
  have hle : (1 : BitVec w) ≤ i.numCks := by
    rw [BitVec.le_def, hone]
    exact h
  rw [numCks_1, BitVec.toNat_sub_of_le hle, hone]

theorem fire_of_checks (s : State n) (i : In w) :
    fire 1 0 s i = (s.monitor.getLsbD (numCks_1 i).toNat && !i.testExpr) := by
  simp [fire, fire2State_1, fire2State_2, fire2State_3]

/-- The start event was there `num_cks` steps ago and the test fails. -/
def afterCks : Monitor (In w) := fun past i ↦
  recent In.startEvent past (i.numCks.toNat - 1) && !i.testExpr

theorem fire2StateComb_run (s₀ : State n) {tr : ℕ → In w} {a t : ℕ}
    (ha : (tr a).rst = true) (hat : a ≤ t) (hlo : 1 ≤ (tr t).numCks.toNat)
    (hhi : (tr t).numCks.toNat ≤ n) :
    fire2StateComb 1 0 (run (next 1 0) s₀ tr t) (tr t) = gate.verdict afterCks tr t := by
  cases hat with
  | refl => simp [fire2StateComb, Gate.verdict, ha]
  | @step u hau =>
      have hidx : (numCks_1 (tr (u + 1))).toNat < n := by
        rw [numCks_1_toNat hlo]
        omega
      have hbit := monitor_run_getLsbD 1 0 s₀ ha hau hidx
      rw [numCks_1_toNat hlo] at hbit
      rw [fire2StateComb, fire_of_checks, numCks_1_toNat hlo, hbit]
      rfl

theorem verdict_afterCks_iff {tr : ℕ → In w} {t : ℕ} :
    gate.verdict afterCks tr t = true ↔
      (tr t).rst = false ∧ (tr t).enable = true ∧ (tr t).testExpr = false ∧
        ∃ p, (gate.steps tr t)[(tr t).numCks.toNat - 1]? = some p ∧
          p.startEvent = true := by
  have hmonitor : afterCks (gate.steps tr t) (tr t) = true ↔
      (∃ p, (gate.steps tr t)[(tr t).numCks.toNat - 1]? = some p ∧ p.startEvent = true) ∧
        (tr t).testExpr = false := by
    rw [afterCks, Bool.and_eq_true, recent_eq_true_iff, Bool.not_eq_true']
  rw [gate.verdict_eq_true_iff, hmonitor, and_comm (a := Exists _)]
  exact and_assoc

theorem fire2StateComb_run_pos (s₀ : State n) {tr tr' : ℕ → In w} {a t : ℕ}
    (st : StallInsertion gate tr tr') (ha : (tr a).rst = true) (hat : a ≤ t)
    (hlo : 1 ≤ (tr t).numCks.toNat) (hhi : (tr t).numCks.toNat ≤ n) :
    fire2StateComb 1 0 (run (next 1 0) s₀ tr' (st.pos t)) (tr' (st.pos t)) =
      fire2StateComb 1 0 (run (next 1 0) s₀ tr t) (tr t) := by
  have ha' : (tr' (st.pos a)).rst = true := by rw [st.kept, ha]
  have hat' : st.pos a ≤ st.pos t := st.strictMono.monotone hat
  have hlo' : 1 ≤ (tr' (st.pos t)).numCks.toNat := by rw [st.kept]; exact hlo
  have hhi' : (tr' (st.pos t)).numCks.toNat ≤ n := by rw [st.kept]; exact hhi
  rw [fire2StateComb_run s₀ ha' hat' hlo' hhi', fire2StateComb_run s₀ ha hat hlo hhi]
  exact st.verdict_pos afterCks t

theorem fire2StateComb_of_isIdle (checkOverlapping checkMissingStart : ℕ) (s : State n)
    {i : In w} (h : gate.IsIdle i) :
    fire2StateComb checkOverlapping checkMissingStart s i = false := by
  have hen : i.enable = false := h.2
  simp [fire2StateComb, hen]

/-- When the checker fires, for every pattern of resets, of enables and of `num_cks`,
and that inserted stalls change nothing. -/
theorem fire2StateComb_exact (s₀ : State n) {tr : ℕ → In w} {a : ℕ}
    (ha : (tr a).rst = true)
    (hcks : ∀ t, 1 ≤ (tr t).numCks.toNat ∧ (tr t).numCks.toNat ≤ n) :
    (∀ t, a ≤ t →
      (fire2StateComb 1 0 (run (next 1 0) s₀ tr t) (tr t) = true ↔
        (tr t).rst = false ∧ (tr t).enable = true ∧ (tr t).testExpr = false ∧
          ∃ p, (gate.steps tr t)[(tr t).numCks.toNat - 1]? = some p ∧
            p.startEvent = true)) ∧
      ∀ (tr' : ℕ → In w) (st : StallInsertion gate tr tr'),
        (∀ t, a ≤ t →
          fire2StateComb 1 0 (run (next 1 0) s₀ tr' (st.pos t)) (tr' (st.pos t)) =
            fire2StateComb 1 0 (run (next 1 0) s₀ tr t) (tr t)) ∧
        ∀ u, (∀ t, st.pos t ≠ u) →
          fire2StateComb 1 0 (run (next 1 0) s₀ tr' u) (tr' u) = false := by
  refine ⟨?_, ?_⟩
  · intro t hat
    obtain ⟨hlo, hhi⟩ := hcks t
    rw [fire2StateComb_run s₀ ha hat hlo hhi]
    exact verdict_afterCks_iff
  · intro tr' st
    refine ⟨?_, ?_⟩
    · intro t hat
      obtain ⟨hlo, hhi⟩ := hcks t
      exact fire2StateComb_run_pos s₀ st ha hat hlo hhi
    · intro u hu
      exact fire2StateComb_of_isIdle 1 0 _ (st.inserted u hu)

/-- A reset, two overlapping start events, a stall in cycle 3 and a failing test. -/
def overlapTrace (t : ℕ) : In 2 where
  rst := t == 0
  enable := t != 3
  numCks := 2
  startEvent := t == 1 || t == 2
  testExpr := false
  prevConfigInvalid := false

theorem fire2StateComb_exact_overlapTrace :
    fire2StateComb 1 0 (run (next 1 0) (State.reset 2) overlapTrace 4) (overlapTrace 4) = true ∧
      fire2StateComb 1 0 (run (next 1 0) (State.reset 2) overlapTrace 5) (overlapTrace 5) =
        true := by
  have hreset : (overlapTrace 0).rst = true := rfl
  have hcks : ∀ t, 1 ≤ (overlapTrace t).numCks.toNat ∧ (overlapTrace t).numCks.toNat ≤ 2 := by
    intro t
    exact ⟨Nat.le_succ 1, le_rfl⟩
  have hexact := (fire2StateComb_exact (State.reset 2) hreset hcks).1
  refine ⟨(hexact 4 (by decide)).mpr ?_, (hexact 5 (by decide)).mpr ?_⟩
  · exact ⟨rfl, rfl, rfl, overlapTrace 1, rfl, rfl⟩
  · exact ⟨rfl, rfl, rfl, overlapTrace 2, rfl, rfl⟩

/-! ## The monitor for `num_cks = 1` -/

def afterOne {J : Type*} (event test : J → Bool) : Monitor J
  | [], _ => false
  | p :: _, i => event p && !test i

/-- With `num_cks` tied to one the wrapped output is the verdict of the
one-step monitor. -/
theorem out_run_of_numCks_one (hn : 0 < n) (s₀ : State n) {tr : ℕ → In w}
    (hreset : (tr 0).rst = true) {t : ℕ} (hcks : (tr t).numCks = 1)
    (hcfg : (tr t).prevConfigInvalid = false) :
    out (run (next 1 0) s₀ tr t) (tr t) =
      gate.verdict (afterOne In.startEvent In.testExpr) tr t := by
  cases t with
  | zero => simp [out, fire2StateComb, Gate.verdict, hreset]
  | succ t =>
      have hbit := monitor_run_getLsbD 1 0 s₀ hreset (Nat.zero_le t) hn
      have hidx : (numCks_1 (tr (t + 1))).toNat = 0 := by simp [numCks_1, hcks]
      have hfire : fire 1 0 (run (next 1 0) s₀ tr (t + 1)) (tr (t + 1)) =
          (recent In.startEvent (gate.steps tr (t + 1)) 0 && !(tr (t + 1)).testExpr) := by
        rw [fire_of_checks, hidx, hbit]
      cases hpast : gate.steps tr (t + 1) with
      | nil =>
          simp [out, fire2StateComb, hfire, hpast, Gate.verdict, afterOne]
      | cons p past =>
          simp [out, fire2StateComb, hfire, hpast, Gate.verdict, afterOne, hcfg,
            resetN]

end Next

end Specs.Ovl
