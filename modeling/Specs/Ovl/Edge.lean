import Specs.Ovl.Level
import Specs.Sync.Gate

/-!
# The edge-triggered checker

`ovl_always_on_edge` tests `test_expr` in the cycle in which `sampling_event`
rises.  The module first gives the registers and the outputs of
`ovl_always_on_edge_logic2`, then the monitor it implements: an edge is a step
with the event whose predecessor, the previous step since the last reset, did
not have it.
-/

namespace Specs.Ovl

open Specs.Sync

namespace AlwaysOnEdge

structure In where
  rst : Bool
  enable : Bool
  samplingEvent : Bool
  testExpr : Bool
  prevConfigInvalid : Bool

structure State where
  samplingEventPrev : Bool
  rResetN : Bool
  fire2State : Bool
deriving DecidableEq, Inhabited

def State.reset : State := ⟨false, false, false⟩

def next (s : State) (i : In) : State where
  rResetN :=
    if resetN i.rst == false then false
    else if i.enable then true else s.rResetN
  samplingEventPrev :=
    if resetN i.rst == false then false
    else if i.enable then i.samplingEvent else s.samplingEventPrev
  fire2State :=
    if resetN i.rst == false then false
    else if i.enable then
      !s.samplingEventPrev && i.samplingEvent && !i.testExpr && s.rResetN
    else s.fire2State

def fire2StateComb (s : State) (i : In) : Bool :=
  resetN i.rst && i.enable && !s.samplingEventPrev && i.samplingEvent &&
    !i.testExpr && s.rResetN

def out (s : State) (i : In) : Bool := fire2StateComb s i && !i.prevConfigInvalid

/-! ## The checker inside a circuit

A circuit that contains the checker feeds it from its own inputs and, possibly,
from its registers.  The reset, the enable and the event must be functions of
the inputs; the tested expression may be anything. -/

/-- The registers `π s` of a circuit are an edge checker for `event` behind the
gate `g`. -/
structure Hosted {S J : Type*} (g : Gate J) (hostNext : S → J → S) (π : S → State)
    (wire : S → J → In) (event : J → Bool) : Prop where
  next_eq : ∀ s i, π (hostNext s i) = next (π s) (wire s i)
  rst_eq : ∀ s i, (wire s i).rst = g.rst i
  enable_eq : ∀ s i, (wire s i).enable = g.enable i
  event_eq : ∀ s i, (wire s i).samplingEvent = event i

/-- `event` holds now and did not hold in the previous step since the last
reset; without such a step there is no edge. -/
def rising {J : Type*} (event : J → Bool) : Monitor J
  | [], _ => false
  | p :: _, i => !event p && event i

def edge {J : Type*} (event test : J → Bool) : Monitor J :=
  fun past i ↦ rising event past i && !test i

namespace Hosted

variable {S J : Type*} {g : Gate J} {hostNext : S → J → S} {π : S → State}
  {wire : S → J → In} {event : J → Bool}

theorem history_next (h : Hosted g hostNext π wire event) (s : S) (i : J) :
    ((π (hostNext s i)).samplingEventPrev, (π (hostNext s i)).rResetN) =
      g.register (false, false) (fun _ i ↦ (event i, true))
        ((π s).samplingEventPrev, (π s).rResetN) i := by
  rw [h.next_eq]
  cases hr : g.rst i <;> cases he : g.enable i <;>
    simp [next, Gate.register, h.rst_eq, h.enable_eq, h.event_eq, hr, he]

/-- The history registers describe the latest step since the last reset. -/
theorem history_run (h : Hosted g hostNext π wire event) (s₀ : S)
    {tr : ℕ → J} {a t : ℕ} (ha : g.rst (tr a) = true) (hat : a ≤ t) :
    ((π (run hostNext s₀ tr (t + 1))).samplingEventPrev,
      (π (run hostNext s₀ tr (t + 1))).rResetN) =
      match g.steps tr (t + 1) with
      | [] => (false, false)
      | p :: _ => (event p, true) := by
  have hfold := g.run_register_of_rst
    (fun s ↦ ((π s).samplingEventPrev, (π s).rResetN)) h.history_next s₀ ha hat
  refine hfold.trans ?_
  cases g.steps tr (t + 1) with
  | nil => rfl
  | cons p past => rfl

/-- The output is the verdict on a rising edge, masked by the present test. -/
theorem out_run_of_rst (h : Hosted g hostNext π wire event) (s₀ : S) {tr : ℕ → J}
    {a t : ℕ} (ha : g.rst (tr a) = true) (hat : a ≤ t) :
    out (π (run hostNext s₀ tr t)) (wire (run hostNext s₀ tr t) (tr t)) =
      (g.verdict (rising event) tr t &&
        !(wire (run hostNext s₀ tr t) (tr t)).testExpr &&
        !(wire (run hostNext s₀ tr t) (tr t)).prevConfigInvalid) := by
  cases hat with
  | refl => simp [out, fire2StateComb, Gate.verdict, h.rst_eq, ha]
  | @step t hat =>
      have hhist := h.history_run s₀ ha hat
      cases hpast : g.steps tr (t + 1) with
      | nil =>
          rw [hpast] at hhist
          obtain ⟨-, hvalid⟩ := Prod.mk.inj hhist
          simp [out, fire2StateComb, Gate.verdict, hpast, rising, hvalid]
      | cons p past =>
          rw [hpast] at hhist
          obtain ⟨hprev, hvalid⟩ := Prod.mk.inj hhist
          rw [out, fire2StateComb, hprev, hvalid, h.rst_eq, h.enable_eq, h.event_eq,
            Gate.verdict, hpast]
          simp only [rising, resetN, Bool.and_true, Bool.and_assoc]

theorem out_run (h : Hosted g hostNext π wire event) (s₀ : S) {tr : ℕ → J}
    (hreset : g.rst (tr 0) = true) (t : ℕ) :
    out (π (run hostNext s₀ tr t)) (wire (run hostNext s₀ tr t) (tr t)) =
      (g.verdict (rising event) tr t &&
        !(wire (run hostNext s₀ tr t) (tr t)).testExpr &&
        !(wire (run hostNext s₀ tr t) (tr t)).prevConfigInvalid) :=
  h.out_run_of_rst s₀ hreset (Nat.zero_le t)

end Hosted

/-! ## The checker on its own -/

def gate : Gate In := ⟨In.rst, In.enable⟩

theorem hosted_self :
    Hosted gate next (fun s ↦ s) (fun _ i ↦ i) In.samplingEvent where
  next_eq := fun _ _ ↦ rfl
  rst_eq := fun _ _ ↦ rfl
  enable_eq := fun _ _ ↦ rfl
  event_eq := fun _ _ ↦ rfl

def wrapped : Monitor In := fun past i ↦
  edge In.samplingEvent In.testExpr past i && !i.prevConfigInvalid

theorem out_run_eq_verdict (s₀ : State) {tr : ℕ → In} {a t : ℕ}
    (ha : (tr a).rst = true) (hat : a ≤ t) :
    out (run next s₀ tr t) (tr t) = gate.verdict wrapped tr t := by
  have hout := hosted_self.out_run_of_rst s₀ ha hat
  calc out (run next s₀ tr t) (tr t)
      = (gate.verdict (rising In.samplingEvent) tr t && !(tr t).testExpr &&
          !(tr t).prevConfigInvalid) := hout
    _ = gate.verdict wrapped tr t := by
        simp only [Gate.verdict, wrapped, edge, Bool.and_assoc]

theorem verdict_wrapped_iff {tr : ℕ → In} {t : ℕ} :
    gate.verdict wrapped tr t = true ↔
      (tr t).rst = false ∧ (tr t).enable = true ∧ (tr t).prevConfigInvalid = false ∧
        (tr t).samplingEvent = true ∧ (tr t).testExpr = false ∧
        ∃ b, gate.LastStep tr b t ∧ (tr b).samplingEvent = false := by
  have hnil : ∀ i, wrapped [] i = false := fun _ ↦ rfl
  have hcons : ∀ p past i, wrapped (p :: past) i = true ↔
      p.samplingEvent = false ∧ i.samplingEvent = true ∧ i.testExpr = false ∧
        i.prevConfigInvalid = false := by
    intro p past i
    simp [wrapped, edge, rising, and_assoc]
  rw [gate.verdict_iff_of_lastStep
    (R := fun p i ↦ p.samplingEvent = false ∧ i.samplingEvent = true ∧
      i.testExpr = false ∧ i.prevConfigInvalid = false) hnil hcons]
  constructor
  · rintro ⟨⟨hr, he⟩, b, hb, hprev, hevent, htest, hcfg⟩
    exact ⟨hr, he, hcfg, hevent, htest, b, hb, hprev⟩
  · rintro ⟨hr, he, hcfg, hevent, htest, b, hb, hprev⟩
    exact ⟨⟨hr, he⟩, b, hb, hprev, hevent, htest, hcfg⟩

/-- When the checker fires.  Inserted stalls change nothing, and neither do the values
of the other inputs in disabled cycles. -/
theorem out_exact (s₀ : State) {tr : ℕ → In} {a : ℕ} (ha : (tr a).rst = true) :
    (∀ t, a ≤ t →
      (out (run next s₀ tr t) (tr t) = true ↔
        (tr t).rst = false ∧ (tr t).enable = true ∧ (tr t).prevConfigInvalid = false ∧
          (tr t).samplingEvent = true ∧ (tr t).testExpr = false ∧
          ∃ b, gate.LastStep tr b t ∧ (tr b).samplingEvent = false)) ∧
      (∀ (tr' : ℕ → In) (st : StallInsertion gate tr tr'),
        (∀ t, a ≤ t → out (run next s₀ tr' (st.pos t)) (tr' (st.pos t)) =
          out (run next s₀ tr t) (tr t)) ∧
        ∀ u, (∀ t, st.pos t ≠ u) → out (run next s₀ tr' u) (tr' u) = false) ∧
      ∀ tr' : ℕ → In, gate.SameSteps tr tr' →
        ∀ t, a ≤ t → out (run next s₀ tr' t) (tr' t) = out (run next s₀ tr t) (tr t) := by
  refine ⟨?_, ?_, ?_⟩
  · intro t hat
    rw [out_run_eq_verdict s₀ ha hat]
    exact verdict_wrapped_iff
  · intro tr' st
    have ha' : (tr' (st.pos a)).rst = true := by rw [st.kept, ha]
    refine ⟨?_, ?_⟩
    · intro t hat
      have hat' : st.pos a ≤ st.pos t := st.strictMono.monotone hat
      rw [out_run_eq_verdict s₀ ha' hat', out_run_eq_verdict s₀ ha hat]
      exact st.verdict_pos wrapped t
    · intro u hu
      have hen : (tr' u).enable = false := (st.inserted u hu).2
      simp [out, fire2StateComb, hen]
  · intro tr' hsame t hat
    have ha' : (tr' a).rst = true := (hsame.rst_eq a).trans ha
    rw [out_run_eq_verdict s₀ ha' hat, out_run_eq_verdict s₀ ha hat]
    exact hsame.verdict_eq wrapped t

/-- The event rises in cycle 4, across the disabled cycles 2 and 3. -/
def stalledEdgeTrace (t : ℕ) : In where
  rst := t == 0
  enable := t != 2 && t != 3
  samplingEvent := t == 3 || t == 4
  testExpr := false
  prevConfigInvalid := false

theorem out_exact_stalledEdgeTrace :
    out (run next State.reset stalledEdgeTrace 4) (stalledEdgeTrace 4) = true := by
  have hreset : (stalledEdgeTrace 0).rst = true := rfl
  apply ((out_exact State.reset hreset).1 4 (Nat.zero_le 4)).mpr
  refine ⟨rfl, rfl, rfl, rfl, rfl, 1, ⟨by decide, ⟨rfl, rfl⟩, ?_⟩, rfl⟩
  intro u hlo hhi
  have hdisabled : u = 2 ∨ u = 3 := by omega
  rcases hdisabled with rfl | rfl
  · exact ⟨rfl, rfl⟩
  · exact ⟨rfl, rfl⟩

/-! ## The checker before it had an enable input

`ovl_always_on_edge_logic` is the checker that `ovl_always_on_edge_logic2` replaces.
It has the same registers and samples in every cycle. -/

/-- The clocked block of `ovl_always_on_edge_logic`. -/
def nextUngated (s : State) (i : In) : State :=
  if resetN i.rst != false then
    { fire2State := !s.samplingEventPrev && i.samplingEvent && !i.testExpr && s.rResetN
      rResetN := resetN i.rst
      samplingEventPrev := i.samplingEvent }
  else
    { fire2State := false
      rResetN := false
      samplingEventPrev := false }

theorem next_of_isIdle (s : State) (i : In) (h : gate.IsIdle i) : next s i = s := by
  have hr : i.rst = false := h.1
  have he : i.enable = false := h.2
  simp [next, hr, he]

theorem next_of_not_isIdle (s : State) (i : In) (h : ¬gate.IsIdle i) :
    next s i = nextUngated s i := by
  cases hr : i.rst with
  | true => simp [next, nextUngated, hr]
  | false =>
      have he : i.enable = true := by
        by_contra hnot
        exact h ⟨hr, Bool.eq_false_iff.mpr hnot⟩
      simp [next, nextUngated, hr, he]

theorem nextUngated_of_rst (s s' : State) (i : In) (h : gate.rst i = true) :
    nextUngated s i = nextUngated s' i := by
  have hr : i.rst = true := h
  simp [nextUngated, hr]

/-- The gated checker refines the ungated one: it does in its active cycles what the
ungated checker does on the trace without the others, and holds in the others.  The
power-up contents need not agree once there has been a reset. -/
theorem fire2State_run_ungated (s₀ r₀ : State) (tr : ℕ → In) :
    (∀ t, ¬gate.IsIdle (tr t) → (r₀ = s₀ ∨ ∃ a ≤ t, (tr a).rst = true) →
      (run next s₀ tr (t + 1)).fire2State =
        ((gate.active tr (t + 1)).foldl nextUngated r₀).fire2State) ∧
      ∀ t, gate.IsIdle (tr t) →
        (run next s₀ tr (t + 1)).fire2State = (run next s₀ tr t).fire2State := by
  refine ⟨?_, ?_⟩
  · intro t _ hstart
    rw [gate.run_eq_foldl_active next_of_isIdle next_of_not_isIdle]
    rcases hstart with rfl | ⟨a, hat, ha⟩
    · rfl
    · have hmem : tr a ∈ gate.active tr (t + 1) :=
        gate.mem_active (Nat.lt_succ_of_le hat) ha
      rw [gate.foldl_eq_of_rst nextUngated_of_rst ⟨tr a, hmem, ha⟩ s₀ r₀]
  · intro t hidle
    rw [run_succ, next_of_isIdle _ _ hidle]

theorem fire2State_run_ungated_stalledEdgeTrace :
    (run next ⟨true, true, true⟩ stalledEdgeTrace 5).fire2State =
        ((gate.active stalledEdgeTrace 5).foldl nextUngated State.reset).fire2State ∧
      (run next ⟨true, true, true⟩ stalledEdgeTrace 4).fire2State =
        (run next ⟨true, true, true⟩ stalledEdgeTrace 3).fire2State := by
  obtain ⟨hactive, hidle⟩ :=
    fire2State_run_ungated ⟨true, true, true⟩ State.reset stalledEdgeTrace
  refine ⟨hactive 4 ?_ (Or.inr ⟨0, Nat.zero_le 4, rfl⟩), hidle 3 ⟨rfl, rfl⟩⟩
  intro h
  exact absurd h.2 (by decide)

end AlwaysOnEdge

end Specs.Ovl
