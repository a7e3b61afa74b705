import Specs.Fabric.Monitors

/-!
# Restarting the checkers

A reset cycle sets every history register of the fabric to its reset value, with
one exception.  The delta checker has a synchronous reset on the gated clock
`clk & enable`, so it sees the reset only in an enabled cycle.
-/

namespace Specs.BakedInAssertions

open Specs.Sync Specs.Ovl

def edgeCheckers (s : State) : List AlwaysOnEdge.State :=
  [s.oaoew3_1, s.oaoew3_3a, s.oaoew3_5, s.oaoew3_5b, s.oaoew3_7, s.oaoew5_1, s.oaoew8_1,
    s.oaoew8_2, s.oaoew9_1, s.oaoew9_2, s.oaoew15_1, s.oaoew16_1, s.oaoew16_2, s.oaoew16_3,
    s.oaoew16_4, s.oaoew16_5]

def nextCheckers (s : State) : List (Next.State 7) := [s.onw15_2, s.onw18_1, s.onw18_2]

def delayRegisters (s : State) : List Bool :=
  [s.checker3_3b_1, s.checker13_2_1, s.checker13_2_2, s.checker13_3_1, s.checker13_3_2,
    s.checker13_4_1, s.checker13_4_2, s.checker13_5_1]

def DeltaReset (d : Delta.State 32) : Prop := d.lastTestExpr = 0#32 ∧ d.rResetN = false

instance (d : Delta.State 32) : Decidable (DeltaReset d) := by unfold DeltaReset; infer_instance

structure HistoryReset (s : State) : Prop where
  edges : ∀ e ∈ edgeCheckers s, e.samplingEventPrev = false ∧ e.rResetN = false
  nexts : ∀ n ∈ nextCheckers s, n.monitor = 0#7
  registers : ∀ b ∈ delayRegisters s, b = false
  delta : DeltaReset s.odw13_1

theorem edge_next_of_rst (e : AlwaysOnEdge.State) {i : AlwaysOnEdge.In} (h : i.rst = true) :
    (AlwaysOnEdge.next e i).samplingEventPrev = false ∧
      (AlwaysOnEdge.next e i).rResetN = false := by
  simp [AlwaysOnEdge.next, h]

theorem monitor_next_of_rst (n : Next.State 7) {i : Next.In 3} (h : i.rst = true) :
    (Next.next 1 0 n i).monitor = 0#7 := by
  simp [Next.next, h]

/-- What is left to see after a reset cycle is the delta checker. -/
theorem historyReset_next_iff (s : State) {i : In} (h : i.rst = true) :
    HistoryReset (next s i) ↔ DeltaReset (next s i).odw13_1 := by
  refine ⟨HistoryReset.delta, ?_⟩
  intro hdelta
  refine ⟨?_, ?_, ?_, hdelta⟩
  · simp only [edgeCheckers, next, List.forall_mem_cons, List.not_mem_nil, false_imp_iff,
      implies_true, and_true]
    exact ⟨edge_next_of_rst _ h, edge_next_of_rst _ h, edge_next_of_rst _ h,
      edge_next_of_rst _ h, edge_next_of_rst _ h, edge_next_of_rst _ h, edge_next_of_rst _ h,
      edge_next_of_rst _ h, edge_next_of_rst _ h, edge_next_of_rst _ h, edge_next_of_rst _ h,
      edge_next_of_rst _ h, edge_next_of_rst _ h, edge_next_of_rst _ h, edge_next_of_rst _ h,
      edge_next_of_rst _ h⟩
  · simp only [nextCheckers, next, List.forall_mem_cons, List.not_mem_nil, false_imp_iff,
      implies_true, and_true]
    exact ⟨monitor_next_of_rst _ h, monitor_next_of_rst _ h, monitor_next_of_rst _ h⟩
  · simp [delayRegisters, next, delayed, h]

/-! ## The delta checker on the gated clock -/

/-- The clock of the delta checker ticks in the enabled cycles, resets included. -/
def gatedClock : Gate In := ⟨fun _ ↦ false, In.enable⟩

theorem deltaReset_next_iff (d : Delta.State 32) (i : In) :
    DeltaReset (Delta.next d (odw13_1 i)) ↔ i.rst = true := by
  cases hr : i.rst <;> simp [DeltaReset, Delta.next, odw13_1, hr]

/-- The delta checker is reset exactly when its last tick was a reset, or when it
never ticked and powered up that way. -/
theorem deltaReset_run_iff (s₀ : State) (tr : ℕ → In) (t : ℕ) :
    DeltaReset (stateAt s₀ tr t).odw13_1 ↔
      match gatedClock.steps tr t with
      | [] => DeltaReset s₀.odw13_1
      | i :: _ => i.rst = true := by
  induction t with
  | zero => rfl
  | succ t ih =>
      rw [stateAt_succ, next]
      cases henable : (tr t).enable with
      | false =>
          rw [gatedClock.steps_succ_of_isIdle ⟨rfl, henable⟩]
          simpa using ih
      | true =>
          rw [gatedClock.steps_succ_of_isStep ⟨rfl, henable⟩]
          exact deltaReset_next_iff _ _

end Specs.BakedInAssertions
