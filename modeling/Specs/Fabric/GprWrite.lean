import Specs.Fabric.Decode

/-!
# Checker 16: writes of the general registers

Checker 16 judges a write against the target of the instruction in EX.  Its
sub-checkers sample the rising edge of `gpr_written_to`, so in a row of writes in
consecutive cycles only the first one is judged.
-/

namespace Specs.BakedInAssertions

open Specs.Sync Specs.Ovl Specs.Or1200

/-- The instruction in EX may write `gprWrittenAddr`: the register is the target
of an instruction that has one, or the link register of a jump. -/
def LegalWrite (i : In) : Prop :=
  ((i.exInsn.extractLsb' 30 2 = 2#2 ∨ opcode i.exInsn = 0x06#6 ∨
      opcode i.exInsn = 0x38#6) ∧ i.exInsn.extractLsb' 21 5 = i.gprWrittenAddr) ∨
    (i.gprWrittenAddr = 9#5 ∧ (opcode i.exInsn = 0x01#6 ∨ opcode i.exInsn = 0x12#6))

instance (i : In) : Decidable (LegalWrite i) := by unfold LegalWrite; infer_instance

theorem legalWrite_iff (i : In) : legalWrite i = true ↔ LegalWrite i := by
  have hmovhi : hasOpcode 0x18000000#32 i = true ↔ opcode i.exInsn = 0x06#6 :=
    hasOpcode_iff (by decide) i
  have halu : hasOpcode 0xE0000000#32 i = true ↔ opcode i.exInsn = 0x38#6 :=
    hasOpcode_iff (by decide) i
  have hjal : hasOpcode 0x04000000#32 i = true ↔ opcode i.exInsn = 0x01#6 :=
    hasOpcode_iff (by decide) i
  have hjalr : hasOpcode 0x48000000#32 i = true ↔ opcode i.exInsn = 0x12#6 :=
    hasOpcode_iff (by decide) i
  simp only [legalWrite, LegalWrite, Bool.or_eq_true, Bool.and_eq_true, arithmeticClass_iff,
    target_iff, hmovhi, halu, hjal, hjalr, or_assoc]
  rw [beq_iff_eq]

section

variable (s₀ : State) (tr : ResetTrace gate) {t : ℕ}

theorem firedAt_sixteen_succ (hprev : (tr t).rst = false) (hnow : (tr (t + 1)).rst = false) :
    (firedAt s₀ tr (t + 1)).getLsbD 16 =
      (!(tr t).gprWrittenTo && (tr (t + 1)).gprWrittenTo && !legalWrite (tr (t + 1))) := by
  have hstep : clkGate.IsStep (tr (t + 1)) := ⟨hnow, rfl⟩
  have hpast : clkGate.steps tr (t + 1) = tr t :: clkGate.steps tr t :=
    clkGate.steps_succ_of_isStep ⟨hprev, rfl⟩
  rw [firedAt_sixteen, clkGate.verdict_of_isStep hstep, hpast]
  rfl

/-- An illegal write is reported exactly when it does not follow another write. -/
theorem illegalWrite_reported_iff (hprev : (tr t).rst = false)
    (hnow : (tr (t + 1)).rst = false) (hwrite : (tr (t + 1)).gprWrittenTo = true)
    (hillegal : ¬LegalWrite (tr (t + 1))) :
    (firedAt s₀ tr (t + 1)).getLsbD 16 = true ↔ (tr t).gprWrittenTo = false := by
  have hjudged : legalWrite (tr (t + 1)) = false := by
    rw [← Bool.not_eq_true, legalWrite_iff]
    exact hillegal
  rw [firedAt_sixteen_succ s₀ tr hprev hnow, hwrite, hjudged]
  simp

end

def addiWriting (addr : BitVec 5) : In :=
  { (default : In) with
    exInsn := 0x9C840001#32, gprWrittenTo := true, gprWrittenAddr := addr }

/-- A reset cycle, the instruction without a write, and a write of `r7`. -/
def strayWrite : ResetTrace gate where
  cycle
    | 0 => { (default : In) with rst := true }
    | 1 => { addiWriting 4#5 with gprWrittenTo := false }
    | _ => addiWriting 7#5
  reset_first := rfl

/-- The same with the write of the target `r4` in the cycle before. -/
def strayWriteInRow : ResetTrace gate where
  cycle
    | 0 => { (default : In) with rst := true }
    | 1 => addiWriting 4#5
    | _ => addiWriting 7#5
  reset_first := rfl

theorem illegalWrite_reported_strayWrite : (firedAt default strayWrite 2).getLsbD 16 = true :=
  (illegalWrite_reported_iff default strayWrite rfl rfl rfl (by decide)).mpr rfl

theorem strayWriteInRow_unreported :
    ((strayWriteInRow 1).rst = false ∧ (strayWriteInRow 2).rst = false ∧
      (strayWriteInRow 2).gprWrittenTo = true ∧ ¬LegalWrite (strayWriteInRow 2)) ∧
    (firedAt default strayWriteInRow 2).getLsbD 16 = false :=
  ⟨⟨rfl, rfl, rfl, by decide⟩, by decide⟩

end Specs.BakedInAssertions
