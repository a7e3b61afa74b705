import Specs.Fabric.Decode

/-!
# Checkers 15 and 18: leaving and entering exceptions

Checker 18 watches the step after a system call or a trap, checker 15 the step
of `l.rfe` and the step after it.  Both are monitors, and their verdicts are
statements on the present step and the one before.  The level checker
`oaw15_3`, which masks the second half of checker 15, matters in steps only.
Its reset pin makes no difference as long as it does not hold the checker in
reset.
-/

namespace Specs.BakedInAssertions

open Specs.Sync Specs.Ovl Specs.Or1200

/-! ## Decoding -/

/-- The address of an exception vector in the low page. -/
def LowVector (pc : BitVec 32) : Prop := ∃ n : BitVec 4, pc = 0#20 ++ n ++ 0#8

theorem eq_append_iff (pc : BitVec 32) (page : BitVec 20) (n : BitVec 4) (ofs : BitVec 8) :
    pc = page ++ n ++ ofs ↔
      (pc.extractLsb' 12 20 = page ∧ pc.extractLsb' 8 4 = n) ∧ pc.extractLsb' 0 8 = ofs := by
  have hwhole := Bits.extractLsb'_eq_append_iff pc 0 (page ++ n) ofs
  rw [BitVec.extractLsb'_eq_self] at hwhole
  rw [hwhole]
  apply and_congr_left'
  exact Bits.extractLsb'_eq_append_iff pc 8 page n

theorem atVector_iff (i : In) : atVector i = true ↔ LowVector i.exPc := by
  have hmask : exceptionVectorUnmask = Bits.fieldMask 32 12 20 ||| Bits.fieldMask 32 0 8 := by
    decide
  have hzero : 0#32 = Bits.place 32 12 0#20 ||| Bits.place 32 0 0#8 := by decide
  rw [atVector, beq_iff_eq, hmask, hzero,
    Bits.and_fieldMasks_eq_places_iff (by decide) (by decide)]
  constructor
  · rintro ⟨hpage, hofs⟩
    exact ⟨i.exPc.extractLsb' 8 4, (eq_append_iff _ _ _ _).mpr ⟨⟨hpage, rfl⟩, hofs⟩⟩
  · rintro ⟨n, hn⟩
    obtain ⟨⟨hpage, -⟩, hofs⟩ := (eq_append_iff _ _ _ _).mp hn
    exact ⟨hpage, hofs⟩

instance (pc : BitVec 32) : Decidable (LowVector pc) :=
  decidable_of_iff (atVector { (default : In) with exPc := pc } = true) (atVector_iff _)

theorem upperHalf_iff {pattern : BitVec 32} {half : BitVec 16}
    (h : pattern = Bits.place 32 16 half) (insn : BitVec 32) :
    ((insn &&& 0xFFFF0000#32) == pattern) = true ↔ insn.extractLsb' 16 16 = half := by
  have hmask : 0xFFFF0000#32 = Bits.fieldMask 32 16 16 := by decide
  rw [beq_iff_eq, hmask, h, Bits.and_fieldMask_eq_place_iff (by decide)]

theorem isRfe_iff (i : In) : hasOpcode 0x24000000#32 i = true ↔ opcode i.exInsn = or32Rfe :=
  hasOpcode_iff (by decide) i

/-! ## The verdicts -/

/-- The step `i` is not where a system call or a trap in the step `p` leads. -/
def MissedException (p i : In) : Prop :=
  (p.exInsn.extractLsb' 16 16 = 0x2000#16 ∧ i.exPc ≠ 0x00000C00#32) ∨
    (p.exInsn.extractLsb' 16 16 = 0x2100#16 ∧ i.exPc ≠ 0x00000E00#32)

/-- The step `i` begins a row of `l.rfe` with SR other than ESR, or it comes after an
`l.rfe` in the step `p` and is neither at EPCR nor at a vector. -/
def WrongReturn (p i : In) : Prop :=
  (opcode i.exInsn = or32Rfe ∧ opcode p.exInsn ≠ or32Rfe ∧ i.sr ≠ i.esr) ∨
    (opcode p.exInsn = or32Rfe ∧ i.exPc ≠ i.epcr ∧ ¬LowVector i.exPc)

theorem exceptionTaken_cons_iff (p : In) (past : List In) (i : In) :
    exceptionTaken (p :: past) i = true ↔ MissedException p i := by
  simp only [exceptionTaken, Next.afterOne, MissedException, Bool.or_eq_true, Bool.and_eq_true,
    Bool.not_eq_true', beq_eq_false_iff_ne,
    upperHalf_iff (by decide : 0x20000000#32 = Bits.place 32 16 0x2000#16),
    upperHalf_iff (by decide : 0x21000000#32 = Bits.place 32 16 0x2100#16)]

theorem exceptionReturn_cons_iff (p : In) (past : List In) (i : In) :
    exceptionReturn (p :: past) i = true ↔ WrongReturn p i := by
  have hprev : hasOpcode 0x24000000#32 p = false ↔ opcode p.exInsn ≠ or32Rfe := by
    rw [← Bool.not_eq_true, isRfe_iff]
  have hvector : atVector i = false ↔ ¬LowVector i.exPc := by
    rw [← Bool.not_eq_true, atVector_iff]
  simp only [exceptionReturn, AlwaysOnEdge.edge, AlwaysOnEdge.rising, Next.afterOne,
    WrongReturn, Bool.or_eq_true, Bool.and_eq_true, Bool.not_eq_true', beq_eq_false_iff_ne,
    isRfe_iff, hprev, hvector]
  constructor
  · rintro (⟨⟨hp, hi⟩, hsr⟩ | ⟨⟨hp, hpc⟩, hv⟩)
    · exact Or.inl ⟨hi, hp, hsr⟩
    · exact Or.inr ⟨hp, hpc, hv⟩
  · rintro (⟨hi, hp, hsr⟩ | ⟨hp, hpc, hv⟩)
    · exact Or.inl ⟨⟨hp, hi⟩, hsr⟩
    · exact Or.inr ⟨⟨hp, hpc⟩, hv⟩

/-- Checker 15 with `rst15_3` on the reset pin of `oaw15_3`. -/
def checker15With (rst15_3 : Bool) (s : State) (i : In) : Bool :=
  checker15_1 s i ||
    (checker15_2 s i && Always.out { level In.enable atVector i with rst := rst15_3 })

/-- The next checker is silent in reset, so the mask is not needed there. -/
theorem checker15With_false (s : State) (i : In) : checker15With false s i = checker15 s i := by
  rw [checker15With, checker15, checker15_3]
  cases hrst : i.rst with
  | false =>
      have hlevel : { level In.enable atVector i with rst := false } =
          level In.enable atVector i := by simp [level, hrst]
      rw [hlevel]
  | true =>
      have hnext : checker15_2 s i = false := by
        simp [checker15_2, onw15_2, nextOne, Next.out, Next.fire2StateComb, hrst]
      rw [hnext, Bool.false_and, Bool.false_and]

section

variable (s₀ : State) (tr : ResetTrace gate) (t : ℕ)

theorem firedAt_eighteen_iff :
    (firedAt s₀ tr t).getLsbD 18 = true ↔ gate.IsStep (tr t) ∧
      ∃ p past, gate.steps tr t = p :: past ∧ MissedException p (tr t) := by
  rw [firedAt_getLsbD s₀ tr t (by decide) (by decide) (by decide), bitMonitor,
    gate.verdict_iff_of_nil fun _ ↦ rfl]
  simp only [exceptionTaken_cons_iff]

theorem firedAt_fifteen_iff :
    (firedAt s₀ tr t).getLsbD 15 = true ↔ gate.IsStep (tr t) ∧
      ∃ p past, gate.steps tr t = p :: past ∧ WrongReturn p (tr t) := by
  rw [firedAt_getLsbD s₀ tr t (by decide) (by decide) (by decide), bitMonitor,
    gate.verdict_iff_of_nil fun _ ↦ rfl]
  simp only [exceptionReturn_cons_iff]

/-- Bit 18 reports exactly the steps that miss an exception, and bit 15 exactly the
wrong returns, the latter also with a reset pin of `oaw15_3` that is never
active. -/
theorem exceptionBits_iff :
    ((firedAt s₀ tr t).getLsbD 18 = true ↔ gate.IsStep (tr t) ∧
      ∃ p past, gate.steps tr t = p :: past ∧ MissedException p (tr t)) ∧
    ((firedAt s₀ tr t).getLsbD 15 = true ↔ gate.IsStep (tr t) ∧
      ∃ p past, gate.steps tr t = p :: past ∧ WrongReturn p (tr t)) ∧
    checker15With false (stateAt s₀ tr t) (tr t) = (firedAt s₀ tr t).getLsbD 15 := by
  refine ⟨firedAt_eighteen_iff s₀ tr t, firedAt_fifteen_iff s₀ tr t, ?_⟩
  rw [checker15With_false, firedAt, checkersFired_getLsbD]
  rfl

end

end Specs.BakedInAssertions
