import Mathlib.Data.Nat.Find
import Mathlib.Data.Nat.Init
import Mathlib.Order.Monotone.Basic

/-!
# Runs of synchronous logic

A block of synchronous logic is a next-state function: its registers at the
start of a cycle together with the input values of that cycle give the
registers at the start of the next one.  A run is that function iterated along
a trace of inputs, one input record a cycle.

Nothing here mentions a particular circuit.  Two facts carry the later modules:
a run is closed under an inductive predicate on states, and a component of a
circuit runs on its own, fed with what the circuit wires it to.
-/

namespace Specs.Sync

variable {I I' S S' : Type*}

/-- The registers at the start of cycle `t`, from power-up content `s₀`. -/
def run (next : S → I → S) (s₀ : S) (tr : ℕ → I) : ℕ → S
  | 0 => s₀
  | t + 1 => next (run next s₀ tr t) (tr t)

theorem run_succ (next : S → I → S) (s₀ : S) (tr : ℕ → I) (t : ℕ) :
    run next s₀ tr (t + 1) = next (run next s₀ tr t) (tr t) := rfl

/-- What holds at power-up and is kept by every clock edge of the trace holds
in every cycle. -/
theorem run_induction {next : S → I → S} {s₀ : S} {tr : ℕ → I}
    {P : ℕ → S → Prop} (hinit : P 0 s₀)
    (hstep : ∀ t s, P t s → P (t + 1) (next s (tr t))) (t : ℕ) :
    P t (run next s₀ tr t) := by
  induction t with
  | zero => exact hinit
  | succ t ih => exact hstep t _ ih

/-- When the steps that lose an invariant are known, it holds from cycle `a` on exactly
when there is none of them. -/
theorem run_invariant_iff {next : S → I → S} {s₀ : S} {tr : ℕ → I} {Inv : S → Prop}
    {Loses : S → I → Prop} {a : ℕ} (hinit : Inv (run next s₀ tr a))
    (hstep : ∀ t, Inv (run next s₀ tr t) →
      (Inv (next (run next s₀ tr t) (tr t)) ↔ ¬Loses (run next s₀ tr t) (tr t))) :
    (∀ t, a ≤ t → Inv (run next s₀ tr t)) ↔
      ∀ t, a ≤ t → ¬Loses (run next s₀ tr t) (tr t) := by
  constructor
  · intro hall t hat
    apply (hstep t (hall t hat)).mp
    exact hall (t + 1) (Nat.le_succ_of_le hat)
  · intro hnone t hat
    induction t, hat using Nat.le_induction with
    | base => exact hinit
    | succ t hat ih => exact (hstep t ih).mpr (hnone t hat)

/-! ## Registers -/

/-- If something has happened before `t`, there is a last time. -/
theorem exists_latest {P : ℕ → Prop} {t : ℕ} (h : ∃ u < t, P u) :
    ∃ u < t, P u ∧ ∀ v, u < v → v < t → ¬P v := by
  classical
  obtain ⟨w, hwt, hw⟩ := h
  obtain ⟨k, rfl⟩ := Nat.exists_eq_add_one_of_ne_zero (Nat.ne_zero_of_lt hwt)
  have hwk : w ≤ k := Nat.le_of_lt_succ hwt
  refine ⟨Nat.findGreatest P k, Nat.lt_succ_of_le (Nat.findGreatest_le k), ?_, ?_⟩
  · exact Nat.findGreatest_spec hwk hw
  · intro v huv hvt
    exact Nat.findGreatest_is_greatest huv (Nat.le_of_lt_succ hvt)

theorem register_kept {α : Type*} {f : ℕ → α} {m n : ℕ} (hle : m ≤ n)
    (hstep : ∀ u, m ≤ u → u < n → f (u + 1) = f u) : f n = f m := by
  induction n, hle using Nat.le_induction with
  | base => rfl
  | succ n hle ih =>
      rw [hstep n hle (Nat.lt_succ_self n)]
      apply ih
      intro u hm hn
      exact hstep u hm (hn.trans (Nat.lt_succ_self n))

/-- A register that is written at least once, and always with the same value, holds that
value in the end. -/
theorem register_settles {α : Type*} {f : ℕ → α} {v : α} {m n : ℕ}
    (hstep : ∀ u, m ≤ u → u < n → f (u + 1) = f u ∨ f (u + 1) = v)
    (hwrite : ∃ u, m ≤ u ∧ u < n ∧ f (u + 1) = v) : f n = v := by
  obtain ⟨w, hm, hn, hw⟩ := hwrite
  have hsettled : ∀ t, w < t → t ≤ n → f t = v := by
    intro t hwt
    induction t, hwt using Nat.le_induction with
    | base =>
        intro _
        exact hw
    | succ t hwt ih =>
        intro ht
        have hnow : f t = v := ih (Nat.le_of_succ_le ht)
        rcases hstep t (hm.trans (Nat.le_of_succ_le hwt)) ht with hkept | hv
        · exact hkept.trans hnow
        · exact hv
  exact hsettled n hn le_rfl

/-! ## Components -/

/-- A component of a circuit runs like a circuit of its own on what it is wired
to, which may be inputs and registers of the whole circuit. -/
theorem component_run {next : S → I → S} {next' : S' → I' → S'} (π : S → S')
    (wire : S → I → I') (h : ∀ s i, π (next s i) = next' (π s) (wire s i))
    (s₀ : S) (tr : ℕ → I) (t : ℕ) :
    π (run next s₀ tr t) =
      run next' (π s₀) (fun u ↦ wire (run next s₀ tr u) (tr u)) t := by
  induction t with
  | zero => rfl
  | succ t ih => rw [run_succ, h, ih, run_succ]

end Specs.Sync
