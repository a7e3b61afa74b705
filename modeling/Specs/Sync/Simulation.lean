import Specs.Sync.Run
import Mathlib.Data.List.Basic

/-!
# Simulations

What a run shows of itself, cycle by cycle, is a list of events.  A relation between
the states of the run and those of an abstract machine that consumes the events is
kept along the run when every cycle keeps it; a cycle that shows nothing leaves the
abstract machine where it is.
-/

namespace Specs.Sync

variable {I S A E : Type*}

/-- What a run shows in the `n` cycles from `m` on. -/
def observed (view : S → I → List E) (next : S → I → S) (s₀ : S) (tr : ℕ → I) (m n : ℕ) : List E :=
  (List.range' m n).flatMap fun u ↦ view (run next s₀ tr u) (tr u)

section

variable {view : S → I → List E} {next : S → I → S} {s₀ : S} {tr : ℕ → I} {m : ℕ}

theorem observed_zero : observed view next s₀ tr m 0 = [] := rfl

theorem observed_succ (n : ℕ) :
    observed view next s₀ tr m (n + 1) =
      observed view next s₀ tr m n ++ view (run next s₀ tr (m + n)) (tr (m + n)) := by
  rw [observed, List.range'_1_concat, List.flatMap_append, List.flatMap_singleton]
  rfl

/-- A run is simulated by the machine that consumes what it shows. -/
theorem simulates {R : S → A → Prop} {step : A → E → A} {a : A}
    (hinit : R (run next s₀ tr m) a) {n : ℕ}
    (hstep : ∀ k < n, ∀ b, R (run next s₀ tr (m + k)) b →
      R (run next s₀ tr (m + k + 1))
        ((view (run next s₀ tr (m + k)) (tr (m + k))).foldl step b)) :
    R (run next s₀ tr (m + n)) ((observed view next s₀ tr m n).foldl step a) := by
  induction n with
  | zero => exact hinit
  | succ n ih =>
      rw [observed_succ, List.foldl_append]
      apply hstep n (Nat.lt_succ_self n)
      exact ih fun k hk ↦ hstep k (hk.trans (Nat.lt_succ_self n))

end

end Specs.Sync
