import Mathlib.Data.List.Basic
import Mathlib.Order.Monotone.Basic

/-!
# A pipeline stage

A stage holds at most one item.  A flush empties it, a freeze makes it hold, and
otherwise it takes what is offered, so that what was in it leaves.  An item that is
neither flushed nor held for ever passes the stage exactly once: the items seen in the
unfrozen cycles are the ones that have entered and left, in the order in which they
entered.
-/

namespace Specs.Sync

variable {α : Type*}

structure Stage (α : Type*) where
  frozen : ℕ → Bool
  flushed : ℕ → Bool
  offered : ℕ → Option α
  content : ℕ → Option α
  content_zero : content 0 = none
  content_succ : ∀ t, content (t + 1) =
    if flushed t then none else if frozen t then content t else offered t

namespace Stage

variable (p : Stage α)

/-- The stage takes what is offered in cycle `m`. -/
def Takes (m : ℕ) : Prop := p.frozen m = false ∧ p.flushed m = false

/-- What the stage takes in cycle `m` is in it in cycle `u`. -/
def Stays (m u : ℕ) : Prop :=
  m < u ∧ ∀ w < u, m < w → p.frozen w = true ∧ p.flushed w = false

/-- What the stage takes in cycle `m` leaves it through the unfrozen cycle `u`. -/
def Leaves (m u : ℕ) : Prop := p.Stays m u ∧ p.frozen u = false

instance (m : ℕ) : Decidable (p.Takes m) := inferInstanceAs (Decidable (_ ∧ _))

instance (m u : ℕ) : Decidable (p.Stays m u) := inferInstanceAs (Decidable (_ ∧ _))

instance (m u : ℕ) : Decidable (p.Leaves m u) := inferInstanceAs (Decidable (_ ∧ _))

/-- The item of cycle `m`, if it has left before cycle `t`. -/
def delivered (t m : ℕ) : Option α :=
  if p.Takes m ∧ ∃ u < t, p.Leaves m u then p.offered m else none

/-- The items that have entered and left before cycle `t`, in the order of entry. -/
def passed (t : ℕ) : List α := (List.range t).filterMap (p.delivered t)

def sample (u : ℕ) : Option α := if p.frozen u then none else p.content u

/-- The items seen in the unfrozen cycles before cycle `t`. -/
def sampled (t : ℕ) : List α := (List.range t).filterMap p.sample

/-! ## What is in the stage -/

theorem stays_succ (m : ℕ) : p.Stays m (m + 1) := by
  refine ⟨Nat.lt_succ_self m, ?_⟩
  intro w hw hmw
  exact absurd hmw (Nat.not_lt.mpr (Nat.le_of_lt_succ hw))

theorem stays_succ_iff {m u : ℕ} (hmu : m < u) :
    p.Stays m (u + 1) ↔ p.Stays m u ∧ p.frozen u = true ∧ p.flushed u = false := by
  constructor
  · rintro ⟨-, hkept⟩
    refine ⟨⟨hmu, ?_⟩, hkept u (Nat.lt_succ_self u) hmu⟩
    intro w hw hmw
    exact hkept w (hw.trans (Nat.lt_succ_self u)) hmw
  · rintro ⟨⟨-, hkept⟩, hnow⟩
    refine ⟨hmu.trans (Nat.lt_succ_self u), ?_⟩
    intro w hw hmw
    rcases Nat.lt_or_eq_of_le (Nat.le_of_lt_succ hw) with hlt | rfl
    · exact hkept w hlt hmw
    · exact hnow

/-- The content of the stage was taken in some cycle and has stayed since. -/
theorem content_eq_some_iff {u : ℕ} {x : α} :
    p.content u = some x ↔ ∃ m, p.Takes m ∧ p.offered m = some x ∧ p.Stays m u := by
  induction u with
  | zero =>
      rw [p.content_zero]
      constructor
      · intro h
        cases h
      · rintro ⟨m, -, -, hm, -⟩
        exact absurd hm (Nat.not_lt_zero m)
  | succ u ih =>
      rw [p.content_succ]
      constructor
      · intro h
        by_cases hflush : p.flushed u = true
        · rw [if_pos hflush] at h
          cases h
        · rw [if_neg hflush] at h
          have hflush' : p.flushed u = false := Bool.eq_false_iff.mpr hflush
          by_cases hfreeze : p.frozen u = true
          · rw [if_pos hfreeze] at h
            obtain ⟨m, htakes, hoffer, hstays⟩ := ih.mp h
            refine ⟨m, htakes, hoffer, ?_⟩
            exact (p.stays_succ_iff hstays.1).mpr ⟨hstays, hfreeze, hflush'⟩
          · rw [if_neg hfreeze] at h
            exact ⟨u, ⟨Bool.eq_false_iff.mpr hfreeze, hflush'⟩, h, p.stays_succ u⟩
      · rintro ⟨m, htakes, hoffer, hstays⟩
        rcases Nat.lt_or_eq_of_le (Nat.le_of_lt_succ hstays.1) with hmu | rfl
        · obtain ⟨hbefore, hfreeze, hflush⟩ := (p.stays_succ_iff hmu).mp hstays
          rw [hflush, hfreeze, if_neg Bool.false_ne_true, if_pos rfl]
          exact ih.mpr ⟨m, htakes, hoffer, hbefore⟩
        · rw [htakes.2, htakes.1, if_neg Bool.false_ne_true, if_neg Bool.false_ne_true]
          exact hoffer

theorem sample_eq_some_iff {u : ℕ} {x : α} :
    p.sample u = some x ↔ ∃ m, p.Takes m ∧ p.offered m = some x ∧ p.Leaves m u := by
  rw [sample]
  split
  · next hfreeze =>
      constructor
      · intro h
        cases h
      · rintro ⟨m, -, -, -, hleaves⟩
        rw [hleaves] at hfreeze
        exact absurd hfreeze Bool.false_ne_true
  · next hfreeze =>
      rw [p.content_eq_some_iff]
      constructor
      · rintro ⟨m, htakes, hoffer, hstays⟩
        exact ⟨m, htakes, hoffer, hstays, Bool.eq_false_iff.mpr hfreeze⟩
      · rintro ⟨m, htakes, hoffer, hleaves⟩
        exact ⟨m, htakes, hoffer, hleaves.1⟩

/-! ## Items leave in the order in which they enter -/

/-- An item does not stay beyond the cycle in which it leaves. -/
theorem Leaves.le_of_stays {p : Stage α} {m u w : ℕ} (h : p.Leaves m u) (hw : p.Stays m w) :
    w ≤ u := by
  by_contra hnot
  obtain ⟨hfrozen, -⟩ := hw.2 u (Nat.lt_of_not_le hnot) h.1.1
  rw [h.2] at hfrozen
  exact Bool.false_ne_true hfrozen

theorem Leaves.unique {p : Stage α} {m u u' : ℕ} (h : p.Leaves m u) (h' : p.Leaves m u') :
    u = u' :=
  Nat.le_antisymm (h'.le_of_stays h.1) (h.le_of_stays h'.1)

/-- What is flushed in a freeze never leaves. -/
theorem Stays.not_leaves_of_flushed {p : Stage α} {m w : ℕ} (h : p.Stays m w)
    (hfrozen : p.frozen w = true) (hflushed : p.flushed w = true) (u : ℕ) : ¬p.Leaves m u := by
  intro hleaves
  rcases Nat.lt_or_eq_of_le (hleaves.le_of_stays h) with hlt | rfl
  · obtain ⟨-, hkept⟩ := hleaves.1.2 w hlt h.1
    rw [hflushed] at hkept
    exact Bool.false_ne_true hkept.symm
  · rw [hleaves.2] at hfrozen
    exact Bool.false_ne_true hfrozen

/-- Nothing is taken while an item stays. -/
theorem Stays.not_takes {p : Stage α} {m u w : ℕ} (h : p.Stays m u) (hmw : m < w) (hwu : w < u) :
    ¬p.Takes w := by
  intro htakes
  obtain ⟨hfrozen, -⟩ := h.2 w hwu hmw
  rw [htakes.1] at hfrozen
  exact Bool.false_ne_true hfrozen

theorem delivered_succ_of_not_leaves {t m : ℕ}
    (h : p.Takes m → p.offered m ≠ none → ¬p.Leaves m t) :
    p.delivered (t + 1) m = p.delivered t m := by
  by_cases hnone : p.offered m = none
  · rw [delivered, delivered, hnone, ite_self, ite_self]
  · have hiff : (p.Takes m ∧ ∃ u < t + 1, p.Leaves m u) ↔
        p.Takes m ∧ ∃ u < t, p.Leaves m u := by
      apply and_congr_right
      intro htakes
      constructor
      · rintro ⟨u, hu, hleaves⟩
        rcases Nat.lt_or_eq_of_le (Nat.le_of_lt_succ hu) with hlt | rfl
        · exact ⟨u, hlt, hleaves⟩
        · exact absurd hleaves (h htakes hnone)
      · rintro ⟨u, hu, hleaves⟩
        exact ⟨u, hu.trans (Nat.lt_succ_self t), hleaves⟩
    rw [delivered, delivered]
    exact if_congr hiff rfl rfl

theorem delivered_self (t : ℕ) : p.delivered (t + 1) t = none := by
  apply if_neg
  rintro ⟨-, u, hu, hleaves⟩
  exact absurd hleaves.1.1 (Nat.not_lt.mpr (Nat.le_of_lt_succ hu))

theorem passed_succ (t : ℕ) :
    p.passed (t + 1) = (List.range t).filterMap (p.delivered (t + 1)) := by
  rw [passed, List.range_succ, List.filterMap_append]
  simp [p.delivered_self]

/-- Of two lists of picks that differ at `m` only, where the second one has nothing from `m`
on, the first one is longer by its pick at `m`. -/
theorem filterMap_range_eq_append {f g : ℕ → Option α} {m t : ℕ} {x : α} (hmt : m < t)
    (hother : ∀ k, k ≠ m → g k = f k) (hg : g m = some x) (hf : f m = none)
    (hafter : ∀ k, m < k → k < t → f k = none) :
    (List.range t).filterMap g = (List.range t).filterMap f ++ [x] := by
  induction t, hmt using Nat.le_induction with
  | base =>
      have hbefore : (List.range m).filterMap g = (List.range m).filterMap f := by
        apply List.filterMap_congr
        intro k hk
        exact hother k (List.mem_range.mp hk).ne
      rw [List.range_succ, List.filterMap_append, List.filterMap_append, hbefore]
      simp [hg, hf]
  | succ t hmt ih =>
      have hlast : f t = none := hafter t hmt (Nat.lt_succ_self t)
      have hlast' : g t = none := (hother t (Nat.ne_of_gt hmt)).trans hlast
      have hstart : (List.range t).filterMap g = (List.range t).filterMap f ++ [x] := by
        apply ih
        intro k hmk hkt
        exact hafter k hmk (hkt.trans (Nat.lt_succ_self t))
      rw [List.range_succ, List.filterMap_append, List.filterMap_append, hstart]
      simp [hlast, hlast']

/-- When the item of cycle `m` leaves through cycle `t`, it is the last one so far. -/
theorem passed_succ_of_leaves {m t : ℕ} {x : α} (htakes : p.Takes m)
    (hoffer : p.offered m = some x) (hleaves : p.Leaves m t) :
    p.passed (t + 1) = p.passed t ++ [x] := by
  have hmt : m < t := hleaves.1.1
  have hother : ∀ k, k ≠ m → p.delivered (t + 1) k = p.delivered t k := by
    intro k hk
    apply p.delivered_succ_of_not_leaves
    intro hk' _ hkt
    rcases lt_or_gt_of_ne hk with hkm | hmk
    · exact hkt.1.not_takes hkm hmt htakes
    · exact hleaves.1.not_takes hmk hkt.1.1 hk'
  have hafter : ∀ k, m < k → k < t → p.delivered t k = none := by
    intro k hmk hkt
    apply if_neg
    rintro ⟨hk, -⟩
    exact hleaves.1.not_takes hmk hkt hk
  have hnow : p.delivered (t + 1) m = some x := by
    rw [delivered, if_pos ⟨htakes, t, Nat.lt_succ_self t, hleaves⟩]
    exact hoffer
  have hbefore : p.delivered t m = none := by
    apply if_neg
    rintro ⟨-, u, hu, hearly⟩
    exact absurd (hearly.unique hleaves) hu.ne
  rw [p.passed_succ, passed]
  exact filterMap_range_eq_append hmt hother hnow hbefore hafter

theorem passed_succ_of_sample_none {t : ℕ} (h : p.sample t = none) :
    p.passed (t + 1) = p.passed t := by
  rw [p.passed_succ, passed]
  apply List.filterMap_congr
  intro m _
  apply p.delivered_succ_of_not_leaves
  intro htakes hoffer hleaves
  obtain ⟨x, hx⟩ := Option.ne_none_iff_exists'.mp hoffer
  have hsome := p.sample_eq_some_iff.mpr ⟨m, htakes, hx, hleaves⟩
  rw [h] at hsome
  cases hsome

/-- Every item is seen exactly once, in the order of entry. -/
theorem sampled_eq_passed (t : ℕ) : p.sampled t = p.passed t := by
  induction t with
  | zero => rfl
  | succ t ih =>
      rw [sampled, List.range_succ, List.filterMap_append]
      cases hsample : p.sample t with
      | none =>
          rw [p.passed_succ_of_sample_none hsample, ← ih]
          simp [sampled, hsample]
      | some x =>
          obtain ⟨m, htakes, hoffer, hleaves⟩ := p.sample_eq_some_iff.mp hsample
          rw [p.passed_succ_of_leaves htakes hoffer hleaves, ← ih]
          simp [sampled, hsample]

end Stage

end Specs.Sync
