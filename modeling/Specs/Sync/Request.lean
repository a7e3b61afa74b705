import Mathlib.Order.Monotone.Basic

/-!
# Sticky requests

A request is raised in some cycle and stays outstanding until it is answered.
What is outstanding at the start of a cycle is a statement on the whole trace
before it; it obeys the recursion of a register that a raise sets, an answer
clears and a reset forgets.
-/

namespace Specs.Sync

variable {I : Type*}

structure Request (I : Type*) where
  rst : I → Prop
  raised : I → Prop
  answered : I → Prop

namespace Request

variable (r : Request I) (tr : ℕ → I)

/-- At the start of cycle `u` a raise is on record: there was no reset from it
on, and no answer after it. -/
def Outstanding (u : ℕ) : Prop :=
  ∃ t < u, r.raised (tr t) ∧ (∀ v, t ≤ v → v < u → ¬r.rst (tr v)) ∧
    ∀ v, t < v → v < u → ¬r.answered (tr v)

/-- One cycle: a raise always goes on record, and what was on record stays there
unless it is answered. -/
theorem outstanding_succ_iff (u : ℕ) :
    r.Outstanding tr (u + 1) ↔
      ¬r.rst (tr u) ∧ (r.raised (tr u) ∨ (r.Outstanding tr u ∧ ¬r.answered (tr u))) := by
  constructor
  · rintro ⟨t, ht, hraised, hrst, hanswer⟩
    have htu : t ≤ u := Nat.le_of_lt_succ ht
    refine ⟨hrst u htu (Nat.lt_succ_self u), ?_⟩
    rcases Nat.lt_or_eq_of_le htu with hlt | rfl
    · refine Or.inr ⟨⟨t, hlt, hraised, ?_, ?_⟩, hanswer u hlt (Nat.lt_succ_self u)⟩
      · intro v htv hvu
        exact hrst v htv (hvu.trans (Nat.lt_succ_self u))
      · intro v htv hvu
        exact hanswer v htv (hvu.trans (Nat.lt_succ_self u))
    · exact Or.inl hraised
  · rintro ⟨hrst, hraised | ⟨⟨t, ht, hraised, hrst', hanswer'⟩, hanswer⟩⟩
    · refine ⟨u, Nat.lt_succ_self u, hraised, ?_, ?_⟩
      · intro v huv hvu
        have hv : v = u := Nat.le_antisymm (Nat.le_of_lt_succ hvu) huv
        rwa [hv]
      · intro v huv hvu
        exact absurd huv (Nat.not_lt.mpr (Nat.le_of_lt_succ hvu))
    · refine ⟨t, ht.trans (Nat.lt_succ_self u), hraised, ?_, ?_⟩
      · intro v htv hvu
        rcases Nat.lt_or_eq_of_le (Nat.le_of_lt_succ hvu) with hlt | rfl
        · exact hrst' v htv hlt
        · exact hrst
      · intro v htv hvu
        rcases Nat.lt_or_eq_of_le (Nat.le_of_lt_succ hvu) with hlt | rfl
        · exact hanswer' v htv hlt
        · exact hanswer

end Request

end Specs.Sync
