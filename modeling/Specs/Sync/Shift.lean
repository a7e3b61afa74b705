import Specs.Sync.Gate

/-!
# Shift registers

A shift register behind a gate keeps one bit of each of the last `n` steps, the
latest one in its lowest bit.  `recent` reads such a bit off the list of steps.
-/

namespace Specs.Sync

variable {I S : Type*} {n : ℕ}

/-- Whether the step `k` places before the latest one had `event`. -/
def recent (event : I → Bool) (past : List I) (k : ℕ) : Bool :=
  (past[k]?.map event).getD false

@[simp] theorem recent_nil (event : I → Bool) (k : ℕ) : recent event [] k = false := rfl

@[simp] theorem recent_cons_zero (event : I → Bool) (p : I) (past : List I) :
    recent event (p :: past) 0 = event p := rfl

@[simp] theorem recent_cons_succ (event : I → Bool) (p : I) (past : List I) (k : ℕ) :
    recent event (p :: past) (k + 1) = recent event past k := rfl

theorem recent_eq_true_iff {event : I → Bool} {past : List I} {k : ℕ} :
    recent event past k = true ↔ ∃ p, past[k]? = some p ∧ event p = true := by
  cases h : past[k]? <;> simp [recent, h]

theorem recent_map {J : Type*} (event : J → Bool) (f : I → J) (past : List I) (k : ℕ) :
    recent event (past.map f) k = recent (fun i ↦ event (f i)) past k := by
  simp [recent, Function.comp_def]

/-- A load function that moves every bit up by one and puts `event` into the lowest. -/
structure Shifts (load : BitVec n → I → BitVec n) (event : I → Bool) : Prop where
  lowest : ∀ s i, 0 < n → (load s i).getLsbD 0 = event i
  moved : ∀ s i k, k + 1 < n → (load s i).getLsbD (k + 1) = s.getLsbD k

theorem Shifts.foldr_getLsbD {load : BitVec n → I → BitVec n} {event : I → Bool}
    (h : Shifts load event) (past : List I) {k : ℕ} (hk : k < n) :
    (past.foldr (fun i s ↦ load s i) 0).getLsbD k = recent event past k := by
  induction past generalizing k with
  | nil => simp
  | cons p past ih =>
      cases k with
      | zero => exact h.lowest _ p hk
      | succ k =>
          have hbelow : k < n := Nat.lt_of_succ_lt hk
          calc (load (past.foldr (fun i s ↦ load s i) 0) p).getLsbD (k + 1)
              = (past.foldr (fun i s ↦ load s i) 0).getLsbD k := h.moved _ p k hk
            _ = recent event past k := ih hbelow

/-- Bit `k` of a gated shift register after a reset. -/
theorem Gate.run_shift (g : Gate I) {next : S → I → S} (π : S → BitVec n)
    {load : BitVec n → I → BitVec n} {event : I → Bool} (hload : Shifts load event)
    (h : ∀ s i, π (next s i) = g.register 0 load (π s) i) (s₀ : S) {tr : ℕ → I}
    {a t k : ℕ} (ha : g.rst (tr a) = true) (hat : a ≤ t) (hk : k < n) :
    (π (run next s₀ tr (t + 1))).getLsbD k = recent event (g.steps tr (t + 1)) k := by
  rw [g.run_register_of_rst π h s₀ ha hat]
  exact hload.foldr_getLsbD _ hk

end Specs.Sync
