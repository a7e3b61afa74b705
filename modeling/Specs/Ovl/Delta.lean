import Specs.Ovl.Level
import Specs.Sync.Run
import Mathlib.Data.Nat.Dist

/-!
# The delta checker

`ovl_delta` is meant to fire when `test_expr` changes by an amount outside the
range from `min` to `max`.  The test is made on two wrapped differences,
`temp_expr1` and `temp_expr2`, one bit wider than the operands; the last value
and a validity flag are registers.

The level-sensitive block that computes the differences clears them when the
validity flag is set, and the output looks at them only then.  So the range
test always reads zero: a change is reported exactly when `min` is not zero,
whatever its size.
-/

namespace Specs.Ovl

open Specs.Sync

namespace Delta

variable {w l : ℕ}

/-- Ports of `ovl_delta_wrapped`; `w` is `width` and `l` is `limit_width`. -/
structure In (w l : ℕ) where
  rst : Bool
  min : BitVec l
  max : BitVec l
  testExpr : BitVec w
  prevConfigInvalid : Bool

structure State (w : ℕ) where
  lastTestExpr : BitVec w
  rResetN : Bool
  fire2State : Bool
deriving DecidableEq, Inhabited

def State.reset (w : ℕ) : State w := ⟨0, false, false⟩

def tempExpr1 (s : State w) (i : In w l) : BitVec (w + 1) :=
  if resetN i.rst == false || s.rResetN then 0
  else s.lastTestExpr.setWidth (w + 1) - i.testExpr.setWidth (w + 1)

def tempExpr2 (s : State w) (i : In w l) : BitVec (w + 1) :=
  if resetN i.rst == false || s.rResetN then 0
  else i.testExpr.setWidth (w + 1) - s.lastTestExpr.setWidth (w + 1)

/-- The comparisons `temp >= min && temp <= max`, on unsigned values. -/
def inRange (i : In w l) (temp : BitVec (w + 1)) : Bool :=
  decide (i.min.toNat ≤ temp.toNat) && decide (temp.toNat ≤ i.max.toNat)

def next (s : State w) (i : In w l) : State w where
  fire2State :=
    resetN i.rst != false && (s.rResetN && s.lastTestExpr != i.testExpr) &&
      !(inRange i (tempExpr1 s i) || inRange i (tempExpr2 s i))
  rResetN := if resetN i.rst != false then resetN i.rst else false
  lastTestExpr := if resetN i.rst != false then i.testExpr else 0

def fire2StateComb (enable : Bool) (s : State w) (i : In w l) : Bool :=
  resetN i.rst && enable && s.rResetN && s.lastTestExpr != i.testExpr &&
    !(inRange i (tempExpr1 s i) || inRange i (tempExpr2 s i))

/-- Output of `ovl_delta_wrapped`, which ties `enable` to one. -/
def out (s : State w) (i : In w l) : Bool :=
  fire2StateComb true s i && !i.prevConfigInvalid

/-! ## What the output depends on -/

theorem inRange_zero (i : In w l) : inRange i 0#(w + 1) = (i.min == 0#l) := by
  have hmin : i.min.toNat = 0 ↔ i.min = 0#l := by
    rw [← BitVec.toNat_inj, BitVec.toNat_ofNat, Nat.zero_mod]
  rw [Bool.eq_iff_iff]
  simp [inRange, hmin]

/-- Whenever the output can be one, both differences read zero. -/
theorem out_eq (s : State w) (i : In w l) :
    out s i = (!i.rst && s.rResetN && s.lastTestExpr != i.testExpr &&
      i.min != 0#l && !i.prevConfigInvalid) := by
  cases hv : s.rResetN with
  | false => simp [out, fire2StateComb, hv]
  | true =>
      have h₁ : tempExpr1 s i = 0#(w + 1) := by simp [tempExpr1, hv]
      have h₂ : tempExpr2 s i = 0#(w + 1) := by simp [tempExpr2, hv]
      rw [out, fire2StateComb, h₁, h₂, inRange_zero, Bool.or_self, hv]
      simp [resetN, bne]

theorem out_of_min_zero (s : State w) {i : In w l} (h : i.min = 0#l) :
    out s i = false := by
  simp [out_eq, h]

theorem out_of_rst (s : State w) {i : In w l} (h : i.rst = true) :
    out s i = false := by
  simp [out_eq, h]

theorem out_next_of_rst (s : State w) {i : In w l} (h : i.rst = true) (i' : In w l) :
    out (next s i) i' = false := by
  simp [out_eq, next, h]

theorem next_of_not_rst (s : State w) {i : In w l} (h : i.rst = false) :
    (next s i).rResetN = true ∧ (next s i).lastTestExpr = i.testExpr := by
  simp [next, h]

/-! ## The range test that the checker is specified by -/

def change (a b : BitVec w) : ℕ := Nat.dist a.toNat b.toNat

def LargeDelta (prev i : In w l) : Prop :=
  i.testExpr ≠ prev.testExpr ∧
    (change prev.testExpr i.testExpr < i.min.toNat ∨
      i.max.toNat < change prev.testExpr i.testExpr)

/-- The checker reports large deltas and nothing else, between cycles out of
reset, and is silent in a reset cycle and in the one after it. -/
def ReportsLargeDeltas (s₀ : State w) (tr : ℕ → In w l) : Prop :=
  ∀ t,
    ((tr t).rst = false → (tr (t + 1)).rst = false →
      (out (run next s₀ tr (t + 1)) (tr (t + 1)) = true ↔
        LargeDelta (tr t) (tr (t + 1)))) ∧
    ((tr t).rst = true →
      out (run next s₀ tr t) (tr t) = false ∧
        out (run next s₀ tr (t + 1)) (tr (t + 1)) = false)

/-- Where the constant verdict on a change is the right one: the value does not
change, or it changes within a range that starts at zero, or out of one that
does not. -/
def VerdictFits (prev i : In w l) : Prop :=
  i.testExpr = prev.testExpr ∨
    (i.min = 0#l ∧ change prev.testExpr i.testExpr ≤ i.max.toNat) ∨
    (i.min ≠ 0#l ∧ (change prev.testExpr i.testExpr < i.min.toNat ∨
      i.max.toNat < change prev.testExpr i.testExpr))

theorem out_run_succ (s₀ : State w) {tr : ℕ → In w l} {t : ℕ}
    (hprev : (tr t).rst = false) (hnow : (tr (t + 1)).rst = false)
    (hcfg : (tr (t + 1)).prevConfigInvalid = false) :
    out (run next s₀ tr (t + 1)) (tr (t + 1)) = true ↔
      (tr (t + 1)).testExpr ≠ (tr t).testExpr ∧ (tr (t + 1)).min ≠ 0#l := by
  obtain ⟨hvalid, hlast⟩ := next_of_not_rst (run next s₀ tr t) hprev
  rw [run_succ, out_eq, hvalid, hlast, hnow, hcfg]
  simp only [Bool.not_false, Bool.true_and, Bool.and_true, Bool.and_eq_true, bne_iff_ne]
  rw [ne_comm]

theorem largeDelta_agrees_iff (prev i : In w l) :
    ((i.testExpr ≠ prev.testExpr ∧ i.min ≠ 0#l) ↔ LargeDelta prev i) ↔
      VerdictFits prev i := by
  unfold LargeDelta VerdictFits
  by_cases hsame : i.testExpr = prev.testExpr
  · simp [hsame]
  · by_cases hmin : i.min = 0#l
    · simp [hsame, hmin]
    · simp [hsame, hmin]

/-- The delta checker meets its specification exactly in the runs in which every
change out of reset fits the constant verdict. -/
theorem reportsLargeDeltas_iff (s₀ : State w) (tr : ℕ → In w l)
    (hcfg : ∀ t, (tr t).prevConfigInvalid = false) :
    ReportsLargeDeltas s₀ tr ↔
      ∀ t, (tr t).rst = false → (tr (t + 1)).rst = false →
        VerdictFits (tr t) (tr (t + 1)) := by
  constructor
  · intro h t hprev hnow
    have hspec := (h t).1 hprev hnow
    rw [out_run_succ s₀ hprev hnow (hcfg (t + 1))] at hspec
    exact (largeDelta_agrees_iff _ _).mp hspec
  · intro h t
    constructor
    · intro hprev hnow
      rw [out_run_succ s₀ hprev hnow (hcfg (t + 1))]
      exact (largeDelta_agrees_iff _ _).mpr (h t hprev hnow)
    · intro hrst
      refine ⟨out_of_rst _ hrst, ?_⟩
      rw [run_succ]
      exact out_next_of_rst _ hrst _

def smallStep (t : ℕ) : In 32 8 where
  rst := t == 0
  min := 0
  max := 4
  testExpr := if t < 2 then 0x100#32 else 0x104#32
  prevConfigInvalid := false

theorem reportsLargeDeltas_smallStep :
    (∀ t, (smallStep t).rst = false → (smallStep (t + 1)).rst = false →
      VerdictFits (smallStep t) (smallStep (t + 1))) ∧
      ReportsLargeDeltas (State.reset 32) smallStep := by
  have hfits : ∀ t, (smallStep t).rst = false → (smallStep (t + 1)).rst = false →
      VerdictFits (smallStep t) (smallStep (t + 1)) := by
    intro t _ _
    refine Or.inr (Or.inl ⟨rfl, ?_⟩)
    simp only [smallStep, change]
    split <;> split <;> simp [Nat.dist]
  exact ⟨hfits, (reportsLargeDeltas_iff _ _ fun _ ↦ rfl).mpr hfits⟩

def jump (t : ℕ) : In 32 8 where
  rst := t == 0
  min := 0
  max := 4
  testExpr := if t < 2 then 0 else 100
  prevConfigInvalid := false

theorem jump_unreported :
    LargeDelta (jump 1) (jump 2) ∧ out (run next (State.reset 32) jump 2) (jump 2) = false ∧
      ¬ReportsLargeDeltas (State.reset 32) jump := by
  have hlarge : LargeDelta (jump 1) (jump 2) := ⟨by decide, Or.inr (by decide)⟩
  have hout : out (run next (State.reset 32) jump 2) (jump 2) = false := by decide
  refine ⟨hlarge, hout, ?_⟩
  intro h
  obtain ⟨hreports, -⟩ := h 1
  have hfire := (hreports rfl rfl).mpr hlarge
  rw [hout] at hfire
  exact Bool.false_ne_true hfire

end Delta

end Specs.Ovl
