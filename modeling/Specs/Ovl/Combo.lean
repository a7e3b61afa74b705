import Specs.Ovl.Edge
import Specs.Ovl.Next

/-!
# The configurable checker

`ovl_combo` is one block that `select` turns into an edge checker, a next checker
or a level checker.  All of its modes read the same shift register, whose bits are
numbered from one: bit 1 belongs to the latest step.
-/

namespace Specs.Ovl

open Specs.Sync

namespace Combo

/-- Ports of `ovl_combo_wrapped`; `w` is `num_cks_width`. -/
structure In (w : ℕ) where
  rst : Bool
  enable : Bool
  numCks : BitVec w
  startEvent : Bool
  testExpr : Bool
  select : BitVec 2
  prevConfigInvalid : Bool

/-- `monitor [num_cks_max:1]` of `ovl_combo_logic`, and the register of the wrapper. -/
structure State (n : ℕ) where
  monitor : BitVec n
  outDelayed : Bool
deriving DecidableEq, Inhabited

def State.reset (n : ℕ) : State n := ⟨0, false⟩

section Logic

variable {n w : ℕ}

/-- `monitor[k]`, where the lowest index is one. -/
def tap (m : BitVec n) (k : ℕ) : Bool := k != 0 && m.getLsbD (k - 1)

def fireGate (i : In w) : Bool := resetN i.rst && i.enable

def fireProp (i : In w) : Bool := !i.testExpr

def fireAlways (i : In w) : Bool := fireProp i

def fireEdge (s : State n) (i : In w) : Bool :=
  tap s.monitor 1 && !tap s.monitor 2 && fireProp i

def fireNext (s : State n) (i : In w) : Bool :=
  tap s.monitor i.numCks.toNat && fireProp i

def fireSelected (s : State n) (i : In w) : Bool :=
  if i.select = 2 then fireProp i
  else if i.select = 3 then fireAlways i
  else if i.select = 0 then fireEdge s i
  else fireNext s i

def fire2StateComb (s : State n) (i : In w) : Bool := fireGate i && fireSelected s i

/-- `{monitor[num_cks_max-1:1], start_event}`. -/
def loadMonitor (m : BitVec n) (i : In w) : BitVec n :=
  (BitVec.concat (m.setWidth (n - 1)) i.startEvent).setWidth n

def next (s : State n) (i : In w) : State n where
  monitor :=
    if resetN i.rst == false then 0
    else if i.enable then loadMonitor s.monitor i
    else s.monitor
  outDelayed :=
    if i.rst then false
    else if i.enable then fire2StateComb s i
    else s.outDelayed

def configInvalid (i : In w) : Bool :=
  i.prevConfigInvalid || (i.numCks == 0 && !i.select.getLsbD 1)

/-- Output of `ovl_combo_wrapped`, which `prevConfigInvalid` does not mask. -/
def out (s : State n) (i : In w) : Bool := fire2StateComb s i

end Logic

/-! ## The shift register -/

variable {n w : ℕ}

def gate : Gate (In w) := ⟨In.rst, In.enable⟩

@[simp] theorem gate_rst (i : In w) : gate.rst i = i.rst := rfl

@[simp] theorem gate_enable (i : In w) : gate.enable i = i.enable := rfl

theorem monitor_next (s : State n) (i : In w) :
    (next s i).monitor = gate.register 0 loadMonitor s.monitor i := by
  cases hr : i.rst <;> cases he : i.enable <;> simp [next, Gate.register, hr, he]

theorem shifts_loadMonitor : Shifts (loadMonitor (n := n) (w := w)) In.startEvent where
  lowest := by
    intro m i hn
    simp [loadMonitor, hn]
  moved := by
    intro m i k hk
    have hbelow : k < n - 1 := Nat.lt_sub_of_add_lt hk
    simp [loadMonitor, hk, hbelow]

theorem tap_run (s₀ : State n) {tr : ℕ → In w} {a t k : ℕ} (ha : (tr a).rst = true)
    (hat : a ≤ t) (hlo : 1 ≤ k) (hhi : k ≤ n) :
    tap (run next s₀ tr (t + 1)).monitor k =
      recent In.startEvent (gate.steps tr (t + 1)) (k - 1) := by
  have hlt : k - 1 < n := by omega
  have hbit := gate.run_shift State.monitor shifts_loadMonitor monitor_next s₀ ha hat hlt
  have hk : (k != 0) = true := by simpa using Nat.ne_zero_of_lt hlo
  rw [tap, hk, hbit, Bool.true_and]

theorem fire2StateComb_of_rst (s : State n) {i : In w} (h : i.rst = true) :
    fire2StateComb s i = false := by simp [fire2StateComb, fireGate, h]

/-! ## The next mode -/

theorem fireSelected_one {s : State n} {i : In w} (h : i.select = 1) :
    fireSelected s i = fireNext s i := by simp [fireSelected, h]

def afterCks : Monitor (In w) := fun past i ↦
  recent In.startEvent past (i.numCks.toNat - 1) && !i.testExpr

theorem fire2StateComb_run_of_select_one (s₀ : State n) {tr : ℕ → In w} {a t : ℕ}
    (ha : (tr a).rst = true) (hat : a ≤ t) (hsel : (tr t).select = 1)
    (hlo : 1 ≤ (tr t).numCks.toNat) (hhi : (tr t).numCks.toNat ≤ n) :
    fire2StateComb (run next s₀ tr t) (tr t) = gate.verdict afterCks tr t := by
  cases hat with
  | refl => simp [fire2StateComb_of_rst, Gate.verdict, ha]
  | @step u hau =>
      have htap := tap_run s₀ ha hau hlo hhi
      rw [fire2StateComb, fireSelected_one hsel, fireNext, htap]
      rfl

/-- The inputs as `ovl_next_wrapped` takes them. -/
def nextIn (i : In w) : Next.In w :=
  ⟨i.rst, i.enable, i.numCks, i.startEvent, i.testExpr, i.prevConfigInvalid⟩

theorem verdict_nextIn (tr : ℕ → In w) (t : ℕ) :
    Next.gate.verdict Next.afterCks (fun u ↦ nextIn (tr u)) t =
      gate.verdict afterCks tr t := by
  rw [gate.verdict_map Next.gate nextIn (fun _ ↦ rfl) (fun _ ↦ rfl)]
  simp only [Next.afterCks, recent_map]
  rfl

/-- In the next mode the block and the next checker give the same output. -/
theorem fire2StateComb_eq_next (s₀ : State n) (r₀ : Next.State n) {tr : ℕ → In w}
    {a : ℕ} (ha : (tr a).rst = true) (hsel : ∀ t, (tr t).select = 1)
    (hcks : ∀ t, 1 ≤ (tr t).numCks.toNat ∧ (tr t).numCks.toNat ≤ n) :
    ∀ t, a ≤ t →
      fire2StateComb (run next s₀ tr t) (tr t) =
        Next.fire2StateComb 1 0 (run (Next.next 1 0) r₀ (fun u ↦ nextIn (tr u)) t)
          (nextIn (tr t)) := by
  intro t hat
  obtain ⟨hlo, hhi⟩ := hcks t
  have hnext : Next.fire2StateComb 1 0 (run (Next.next 1 0) r₀ (fun u ↦ nextIn (tr u)) t)
      (nextIn (tr t)) = Next.gate.verdict Next.afterCks (fun u ↦ nextIn (tr u)) t :=
    Next.fire2StateComb_run r₀ ha hat hlo hhi
  calc fire2StateComb (run next s₀ tr t) (tr t)
      = gate.verdict afterCks tr t :=
        fire2StateComb_run_of_select_one s₀ ha hat (hsel t) hlo hhi
    _ = Next.gate.verdict Next.afterCks (fun u ↦ nextIn (tr u)) t :=
        (verdict_nextIn tr t).symm
    _ = _ := hnext.symm

/-- Two start events, a stall and two values of `num_cks`. -/
def mixedCksTrace (t : ℕ) : In 3 where
  rst := t == 0
  enable := t != 2
  numCks := if t = 3 then 1 else 2
  startEvent := t == 1 || t == 3
  testExpr := false
  select := 1
  prevConfigInvalid := false

theorem fire2StateComb_eq_next_mixedCksTrace :
    fire2StateComb (run next (State.reset 7) mixedCksTrace 3) (mixedCksTrace 3) =
      Next.fire2StateComb 1 0
        (run (Next.next 1 0) (Next.State.reset 7) (fun u ↦ nextIn (mixedCksTrace u)) 3)
        (nextIn (mixedCksTrace 3)) := by
  have hreset : (mixedCksTrace 0).rst = true := rfl
  have hcks : ∀ t, 1 ≤ (mixedCksTrace t).numCks.toNat ∧
      (mixedCksTrace t).numCks.toNat ≤ 7 := by
    intro t
    by_cases h : t = 3 <;> simp [mixedCksTrace, h]
  exact fire2StateComb_eq_next (State.reset 7) (Next.State.reset 7) hreset (fun _ ↦ rfl) hcks
    3 (Nat.zero_le 3)

/-! ## The edge mode -/

theorem fireSelected_zero {s : State n} {i : In w} (h : i.select = 0) :
    fireSelected s i = fireEdge s i := by simp [fireSelected, h]

/-- The event rose in the latest step, be it from the reset, and the test fails in the
present one. -/
def lateEdge : Monitor (In w) := fun past i ↦
  recent In.startEvent past 0 && !recent In.startEvent past 1 && !i.testExpr

theorem out_run_of_select_zero (hn : 2 ≤ n) (s₀ : State n) {tr : ℕ → In w} {a t : ℕ}
    (ha : (tr a).rst = true) (hat : a ≤ t) (hsel : (tr t).select = 0) :
    out (run next s₀ tr t) (tr t) = gate.verdict lateEdge tr t := by
  cases hat with
  | refl => simp [out, fire2StateComb_of_rst, Gate.verdict, ha]
  | @step u hau =>
      have hlatest := tap_run s₀ ha hau le_rfl (Nat.one_le_of_lt hn)
      have hbefore := tap_run s₀ ha hau (Nat.le_succ 1) hn
      rw [out, fire2StateComb, fireSelected_zero hsel, fireEdge, hlatest, hbefore]
      rfl

/-- The inputs as `ovl_always_on_edge_wrapped` takes them. -/
def edgeIn (i : In w) : AlwaysOnEdge.In :=
  ⟨i.rst, i.enable, i.startEvent, i.testExpr, i.prevConfigInvalid⟩

theorem verdict_edgeIn (tr : ℕ → In w) (t : ℕ) :
    AlwaysOnEdge.gate.verdict AlwaysOnEdge.wrapped (fun u ↦ edgeIn (tr u)) t =
      gate.verdict (fun past i ↦ AlwaysOnEdge.edge In.startEvent In.testExpr past i &&
        !i.prevConfigInvalid) tr t := by
  rw [gate.verdict_map AlwaysOnEdge.gate edgeIn (fun _ ↦ rfl) (fun _ ↦ rfl)]
  congr 1
  funext past i
  cases past <;> rfl

/-- The event neither rises in the present step nor rose in the latest one; before the
first step it counts as low. -/
def Settled (past : List (In w)) (i : In w) : Prop :=
  (recent In.startEvent past 0 = false → i.startEvent = false) ∧
    (recent In.startEvent past 0 = true → recent In.startEvent past 1 = true)

theorem lateEdge_eq_edge_iff {past : List (In w)} {i : In w} (hpast : past ≠ [])
    (hcfg : i.prevConfigInvalid = false) :
    lateEdge past i = (AlwaysOnEdge.edge In.startEvent In.testExpr past i &&
        !i.prevConfigInvalid) ↔ i.testExpr = true ∨ Settled past i := by
  obtain ⟨p, rest, rfl⟩ := List.exists_cons_of_ne_nil hpast
  simp only [lateEdge, AlwaysOnEdge.edge, AlwaysOnEdge.rising, Settled, hcfg,
    recent_cons_zero, recent_cons_succ]
  cases p.startEvent <;> cases recent In.startEvent rest 0 <;> cases i.startEvent <;>
    cases i.testExpr <;> simp

/-- With an enabled cycle behind it, the block in edge mode agrees with the edge checker
exactly where no edge is at hand or the test holds. -/
theorem out_eq_edge_iff (hn : 2 ≤ n) (s₀ : State n) (e₀ : AlwaysOnEdge.State)
    {tr : ℕ → In w} {a : ℕ} (ha : (tr a).rst = true) (hsel : ∀ t, (tr t).select = 0)
    (hcfg : ∀ t, (tr t).prevConfigInvalid = false) :
    ∀ t, a ≤ t → gate.steps tr t ≠ [] →
      (out (run next s₀ tr t) (tr t) =
          AlwaysOnEdge.out (run AlwaysOnEdge.next e₀ (fun u ↦ edgeIn (tr u)) t)
            (edgeIn (tr t)) ↔
        ¬gate.IsStep (tr t) ∨ (tr t).testExpr = true ∨
          Settled (gate.steps tr t) (tr t)) := by
  intro t hat hpast
  have hedge : AlwaysOnEdge.out (run AlwaysOnEdge.next e₀ (fun u ↦ edgeIn (tr u)) t)
      (edgeIn (tr t)) =
        AlwaysOnEdge.gate.verdict AlwaysOnEdge.wrapped (fun u ↦ edgeIn (tr u)) t :=
    AlwaysOnEdge.out_run_eq_verdict e₀ ha hat
  rw [out_run_of_select_zero hn s₀ ha hat (hsel t), hedge, verdict_edgeIn]
  by_cases hstep : gate.IsStep (tr t)
  · rw [gate.verdict_of_isStep hstep, gate.verdict_of_isStep hstep,
      lateEdge_eq_edge_iff hpast (hcfg t)]
    simp [hstep]
  · simp [gate.verdict_of_not_isStep hstep, hstep]

/-- After a reset the event is low in cycle 1 and high in cycle 2. -/
def riseTrace (t : ℕ) : In 3 where
  rst := t == 0
  enable := true
  numCks := 1
  startEvent := t == 2
  testExpr := false
  select := 0
  prevConfigInvalid := false

theorem out_eq_edge_iff_riseTrace :
    out (run next (State.reset 7) riseTrace 5) (riseTrace 5) =
      AlwaysOnEdge.out
        (run AlwaysOnEdge.next AlwaysOnEdge.State.reset (fun u ↦ edgeIn (riseTrace u)) 5)
        (edgeIn (riseTrace 5)) := by
  have hreset : (riseTrace 0).rst = true := rfl
  apply (out_eq_edge_iff (Nat.le_add_left 2 5) (State.reset 7) AlwaysOnEdge.State.reset
    hreset (fun _ ↦ rfl) (fun _ ↦ rfl) 5 (Nat.zero_le 5) (by decide)).mpr
  right
  right
  exact ⟨fun _ ↦ rfl, fun h ↦ absurd h (by decide)⟩

/-- The edge checker fires in the cycle of the edge, the block in edge mode does not. -/
theorem not_out_eq_edge :
    ¬∀ tr : ℕ → In 3, (tr 0).rst = true → (∀ t, (tr t).select = 0) →
      (∀ t, (tr t).prevConfigInvalid = false) → ∀ t, gate.steps tr t ≠ [] →
        out (run next (State.reset 7) tr t) (tr t) =
          AlwaysOnEdge.out
            (run AlwaysOnEdge.next AlwaysOnEdge.State.reset (fun u ↦ edgeIn (tr u)) t)
            (edgeIn (tr t)) := by
  intro h
  have hsame := h riseTrace rfl (fun _ ↦ rfl) (fun _ ↦ rfl) 2 (by decide)
  exact absurd hsame (by decide)

end Combo

end Specs.Ovl
