import Mathlib.Tactic.IntervalCases
import Specs.Or1200.Accumulator
import Specs.Or1200.Division

/-!
# How long a multiplication or a division takes

Once a division by a number other than zero has entered EX, it holds EX for 34 cycles,
and a multiplication holds it for 4.  Nothing else can make this shorter or longer:
not the other reasons for freezing, and not a flush, which only empties EX.
-/

namespace Specs.Or1200.Execute

open Specs.Sync

/-- After `k` cycles without a new operation, the pipeline of the accumulator is empty up
to stage `k`. -/
structure MacDrained (s : State) (k : ℕ) : Prop where
  exMacOp : s.exMacOp = macopNop
  first : 1 ≤ k → s.multMac.macOpR1 = macopNop
  second : 2 ≤ k → s.multMac.macOpR2 = macopNop
  stall : 3 ≤ k → s.multMac.macStallR = false

section step

variable {s : State} {i : In} {k : ℕ}

theorem exFreeze_of_waits (h : s.waitingOn = waitOnMultmac) : exFreeze s i = true := by
  rw [← Bool.not_eq_false]
  intro hmoves
  rw [(waitingOn_of_exFreeze hmoves).1] at h
  exact absurd h (by decide)

/-- While EX is frozen, its operation stays or is flushed. -/
theorem latch_eq_or {α : Type*} (nop : α) (decode : BitVec 32 → α) (old : α)
    (hfrozen : exFreeze s i = true) :
    latch nop decode s i old = old ∨ latch nop decode s i old = nop := by
  cases hrst : i.rst with
  | true => exact Or.inr (latch_of_rst hrst)
  | false =>
      cases hflush : i.flushpipe with
      | true => exact Or.inr (latch_of_flushpipe hflush)
      | false => exact Or.inl (latch_of_exFreeze hrst hflush hfrozen)

theorem MacDrained.next (h : MacDrained s k) (hfrozen : exFreeze s i = true) :
    MacDrained (next s i) (k + 1) := by
  have hop : macOp s i = macopNop := by rw [macOp, h.exMacOp, ite_self]
  constructor
  · rcases latch_eq_or macopNop idMacOp s.exMacOp hfrozen with hold | hnop
    · exact hold.trans h.exMacOp
    · exact hnop
  · intro _
    simp [Execute.next, MultMac.next, multMacIn, hop]
  · intro hk
    simp [Execute.next, MultMac.next, h.first (Nat.le_of_succ_le_succ hk)]
  · intro hk
    have h1 := h.first (by omega)
    have h2 := h.second (Nat.le_of_succ_le_succ hk)
    simp [Execute.next, MultMac.next, multMacIn, hop, h1, h2]

theorem macDrained_of_aluOp (hdecoded : Decoded s) (hop : IsDiv s.aluOp ∨ IsMul s.aluOp) :
    MacDrained s 0 where
  exMacOp := by
    rw [hdecoded.exMacOp]
    by_contra hmac
    rw [hdecoded.aluOp, decodeAluOp_of_mac hmac] at hop
    exact absurd hop (by decide)
  first hk := absurd hk (by decide)
  second hk := absurd hk (by decide)
  stall hk := absurd hk (by decide)

end step

/-- The unit has held EX for `k` cycles and goes on. -/
structure Held (Op : BitVec 5 → Prop) (s : State) (k : ℕ) : Prop where
  waits : s.waitingOn = waitOnMultmac
  drained : MacDrained s k
  frozen : s.multMac.exFreezeR = true
  aluOp : Op s.aluOp ∨ s.aluOp = aluopNop

section step

variable {s : State} {i : In} {k : ℕ} {Op : BitVec 5 → Prop}

theorem held_next (hrst : i.rst = false) (hwaits : s.waitingOn = waitOnMultmac)
    (hdrained : MacDrained s k) (haluOp : Op s.aluOp ∨ s.aluOp = aluopNop)
    (hstall : macStall s i = true) : Held Op (next s i) (k + 1) := by
  have hfrozen : exFreeze s i = true := exFreeze_of_waits hwaits
  refine ⟨?_, hdrained.next hfrozen, ?_, ?_⟩
  · exact waitingOn_next_of_stall hrst hfrozen hwaits hstall
  · exact (exFreezeR_next hrst).trans hfrozen
  · rcases latch_eq_or aluopNop decodeAluOp s.aluOp hfrozen with hold | hnop
    · have haluOp' : (next s i).aluOp = s.aluOp := hold
      rwa [haluOp']
    · exact Or.inr hnop

/-- The wait ends when neither the counter of the divider nor that of the multiplier runs. -/
theorem Held.waitingOn_next (h : Held Op s k) (hk : 3 ≤ k)
    (hcntr : s.multMac.divCntr = 0#6) (hcount : s.multMac.mulStallCount = 0#2) :
    (next s i).waitingOn = waitOnNothing := by
  have hstall : macStall s i = false := by
    apply (MultMac.multMacStall_eq_false_iff _ _).mpr
    refine ⟨h.drained.stall hk, hcntr, hcount, ?_⟩
    intro hfresh
    exact absurd (h.frozen.symm.trans hfresh) (by decide)
  simp [next, h.waits, hstall]

theorem macStall_of_divCntr (h : s.multMac.divCntr ≠ 0#6) : macStall s i = true := by
  rw [← Bool.not_eq_false]
  intro hstall
  exact h ((MultMac.multMacStall_eq_false_iff _ _).mp hstall).2.1

theorem macStall_of_mulStallCount (h : s.multMac.mulStallCount ≠ 0#2) :
    macStall s i = true := by
  rw [← Bool.not_eq_false]
  intro hstall
  exact h ((MultMac.multMacStall_eq_false_iff _ _).mp hstall).2.2.1

theorem macStall_of_fresh (hfresh : s.multMac.exFreezeR = false)
    (hop : IsDiv s.aluOp ∨ IsMul s.aluOp) : macStall s i = true := by
  rw [← Bool.not_eq_false]
  intro hstall
  obtain ⟨hdiv, hmul⟩ := ((MultMac.multMacStall_eq_false_iff _ _).mp hstall).2.2.2 hfresh
  rw [← isDiv_iff s i, ← isMul_iff s i, hdiv, hmul] at hop
  exact absurd hop (by decide)

/-! ## Divisions -/

/-- A division by a number other than zero is `k` steps on. -/
structure DivHeld (s : State) (k : ℕ) : Prop extends Held IsDiv s k where
  divisor : operandB s ≠ 0#32
  count : s.multMac.mulStallCount = 0#2
  cntr : s.multMac.divCntr.toNat = 33 - k

theorem mulStallCount_next_of_isDiv (hcount : s.multMac.mulStallCount = 0#2)
    (hop : IsDiv s.aluOp ∨ s.aluOp = aluopNop) : (next s i).multMac.mulStallCount = 0#2 := by
  apply MultMac.mulStallCount_next_of_idle hcount
  intro _
  rw [← Bool.not_eq_true, isMul_iff]
  rcases hop with (hop | hop) | hop <;> rw [hop] <;> decide

theorem divHeld_start (htimed : Timed s) (hdecoded : Decoded s) (hrst : i.rst = false)
    (hfresh : s.multMac.exFreezeR = false) (hop : IsDiv s.aluOp) (hb : operandB s ≠ 0#32) :
    DivHeld (next s i) 1 := by
  have hwaits := htimed.waits hfresh (Or.inl hop)
  have hcntr := htimed.divCntr_of_fresh hfresh
  have hfrozen : exFreeze s i = true := exFreeze_of_waits hwaits
  have hunit := (isDiv_iff s i).mpr hop
  have hzero : MultMac.divByZero (multMacIn s i) = false := MultMac.divByZero_of_ne hb
  have hstarts : MultMac.divStarts s.multMac (multMacIn s i) = true := by
    rw [MultMac.divStarts, hunit, htimed.divFree_of_fresh hfresh, Bool.true_and]
  have hcntr' : (next s i).multMac.divCntr = 32#6 := by
    have hrst' : (multMacIn s i).rst = false := hrst
    simp [next, MultMac.next, hrst', hzero, hcntr, hstarts]
  refine ⟨held_next hrst hwaits (macDrained_of_aluOp hdecoded (Or.inl hop)) (Or.inl hop)
    (macStall_of_fresh hfresh (Or.inl hop)), ?_, ?_, ?_⟩
  · rw [(operands_next_of_exFreeze hrst hfrozen).2]
    exact hb
  · exact mulStallCount_next_of_isDiv (htimed.mulIdle_of_fresh hfresh) (Or.inl hop)
  · rw [hcntr']
    rfl

theorem DivHeld.next (h : DivHeld s k) (hk : k < 33) (hrst : i.rst = false) :
    DivHeld (next s i) (k + 1) := by
  have hfrozen : exFreeze s i = true := exFreeze_of_waits h.waits
  have hpos : s.multMac.divCntr ≠ 0#6 := by
    intro hzero
    have hcntr := h.cntr
    rw [hzero, BitVec.toNat_ofNat] at hcntr
    omega
  have hcntr' : (Execute.next s i).multMac.divCntr = s.multMac.divCntr - 1#6 := by
    have hrst' : (multMacIn s i).rst = false := hrst
    have hzero : MultMac.divByZero (multMacIn s i) = false := MultMac.divByZero_of_ne h.divisor
    simp [Execute.next, MultMac.next, hrst', hzero, hpos]
  refine ⟨held_next hrst h.waits h.drained h.aluOp (macStall_of_divCntr hpos), ?_, ?_, ?_⟩
  · rw [(operands_next_of_exFreeze hrst hfrozen).2]
    exact h.divisor
  · exact mulStallCount_next_of_isDiv h.count h.aluOp
  · rw [hcntr', BitVec.toNat_sub, h.cntr, BitVec.toNat_ofNat]
    omega

/-! ## Multiplications -/

/-- A multiplication is `k` steps on: the counter shows 1, 2, 0. -/
structure MulHeld (s : State) (k : ℕ) : Prop extends Held IsMul s k where
  cntr : s.multMac.divCntr = 0#6
  count : s.multMac.mulStallCount = BitVec.ofNat 2 (k % 3)

theorem divCntr_next_of_isMul (hcntr : s.multMac.divCntr = 0#6)
    (hop : IsMul s.aluOp ∨ s.aluOp = aluopNop) : (next s i).multMac.divCntr = 0#6 := by
  have hdiv : MultMac.aluOpDiv (multMacIn s i) = false := by
    rw [← Bool.not_eq_true, isDiv_iff]
    rcases hop with (hop | hop) | hop <;> rw [hop] <;> decide
  exact (MultMac.divStays_of_aluOp hdiv).divCntr_next hcntr

theorem mulHeld_start (htimed : Timed s) (hdecoded : Decoded s) (hrst : i.rst = false)
    (hfresh : s.multMac.exFreezeR = false) (hop : IsMul s.aluOp) : MulHeld (next s i) 1 := by
  have hwaits := htimed.waits hfresh (Or.inr hop)
  have hunit := (isMul_iff s i).mpr hop
  have hcount : (next s i).multMac.mulStallCount = 1#2 := by
    have hrst' : (multMacIn s i).rst = false := hrst
    change (MultMac.next s.multMac (multMacIn s i)).mulStallCount = 1#2
    rw [MultMac.mulStallCount_next hrst', htimed.mulIdle_of_fresh hfresh, hunit, hfresh]
    rfl
  exact ⟨held_next hrst hwaits (macDrained_of_aluOp hdecoded (Or.inr hop)) (Or.inl hop)
      (macStall_of_fresh hfresh (Or.inr hop)),
    divCntr_next_of_isMul (htimed.divCntr_of_fresh hfresh) (Or.inl hop), hcount⟩

theorem MulHeld.next (h : MulHeld s k) (hk : 1 ≤ k) (hk' : k < 3) (hrst : i.rst = false) :
    MulHeld (next s i) (k + 1) := by
  have hbusy : s.multMac.mulStallCount ≠ 0#2 := by
    rw [h.count]
    interval_cases k <;> decide
  have hcount : (Execute.next s i).multMac.mulStallCount = BitVec.ofNat 2 ((k + 1) % 3) := by
    have hrst' : (multMacIn s i).rst = false := hrst
    change (MultMac.next s.multMac (multMacIn s i)).mulStallCount = _
    rw [MultMac.mulStallCount_next hrst', h.frozen, Bool.not_true, Bool.and_false,
      Bool.and_false, h.count]
    interval_cases k <;> rfl
  exact ⟨held_next hrst h.waits h.drained h.aluOp (macStall_of_mulStallCount hbusy),
    divCntr_next_of_isMul h.cntr h.aluOp, hcount⟩

end step

/-! ## Runs -/

section

variable (s₀ : State) (tr : ResetTrace gate) (hreserved : ∀ t, Reserved (tr t).ifInsn)
include hreserved

/-- A division that has just entered EX holds it for 34 cycles. -/
theorem division_holds {t : ℕ}
    (hfresh : (stateAt s₀ tr (t + 1)).multMac.exFreezeR = false)
    (hop : IsDiv (stateAt s₀ tr (t + 1)).aluOp)
    (hb : operandB (stateAt s₀ tr (t + 1)) ≠ 0#32)
    (hrst : ∀ k < 34, (tr (t + 1 + k)).rst = false) :
    (∀ k < 34, (stateAt s₀ tr (t + 1 + k)).waitingOn = waitOnMultmac) ∧
      (stateAt s₀ tr (t + 1 + 34)).waitingOn = waitOnNothing := by
  have htimed := timed_stateAt s₀ tr hreserved t
  have hheld : ∀ k, k < 33 → DivHeld (stateAt s₀ tr (t + 1 + (k + 1))) (k + 1) := by
    intro k
    induction k with
    | zero =>
        intro _
        exact divHeld_start htimed (decoded_stateAt s₀ tr t) (hrst 0 (by decide)) hfresh hop hb
    | succ k ih =>
        intro hk
        exact (ih (Nat.lt_of_succ_lt hk)).next (by omega) (hrst (k + 1) (by omega))
  constructor
  · intro k hk
    rcases k with _ | k
    · exact htimed.waits hfresh (Or.inl hop)
    · exact (hheld k (by omega)).waits
  · have hlast := hheld 32 (by decide)
    have hcntr : (stateAt s₀ tr (t + 1 + 33)).multMac.divCntr = 0#6 :=
      BitVec.eq_of_toNat_eq hlast.cntr
    exact hlast.waitingOn_next (by decide) hcntr hlast.count

/-- A multiplication that has just entered EX holds it for 4 cycles. -/
theorem multiplication_holds {t : ℕ}
    (hfresh : (stateAt s₀ tr (t + 1)).multMac.exFreezeR = false)
    (hop : IsMul (stateAt s₀ tr (t + 1)).aluOp)
    (hrst : ∀ k < 4, (tr (t + 1 + k)).rst = false) :
    (∀ k < 4, (stateAt s₀ tr (t + 1 + k)).waitingOn = waitOnMultmac) ∧
      (stateAt s₀ tr (t + 1 + 4)).waitingOn = waitOnNothing := by
  have htimed := timed_stateAt s₀ tr hreserved t
  have hheld : ∀ k, k < 3 → MulHeld (stateAt s₀ tr (t + 1 + (k + 1))) (k + 1) := by
    intro k
    induction k with
    | zero =>
        intro _
        exact mulHeld_start htimed (decoded_stateAt s₀ tr t) (hrst 0 (by decide)) hfresh hop
    | succ k ih =>
        intro hk
        exact (ih (Nat.lt_of_succ_lt hk)).next (by omega) (by omega) (hrst (k + 1) (by omega))
  constructor
  · intro k hk
    rcases k with _ | k
    · exact htimed.waits hfresh (Or.inr hop)
    · exact (hheld k (by omega)).waits
  · have hlast := hheld 2 (by decide)
    exact hlast.waitingOn_next (by decide) hlast.cntr hlast.count

end

/-- The cycles for which the operation in EX keeps the unit busy. -/
def duration (aluOp : BitVec 5) : ℕ := if IsDiv aluOp then 34 else 4

end Specs.Or1200.Execute
