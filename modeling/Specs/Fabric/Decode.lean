import Specs.Bits.Field
import Specs.Fabric.Monitors

/-!
# Decoding by masks

The fabric compares the masked instruction with a pattern.  Each of its
comparisons is a statement on the fields of the instruction.
-/

namespace Specs.BakedInAssertions

open Specs.Bits Specs.Or1200

theorem opcodeMask_eq : opcodeMask = fieldMask 32 26 6 := by decide

theorem targetMask_eq : targetMask = fieldMask 32 21 5 := by decide

theorem kMask_eq : kMask = fieldMask 32 0 11 := by decide

/-- A pattern with an opcode placed in `insn[31:26]` is compared with the opcode. -/
theorem hasOpcode_iff {pattern : BitVec 32} {op : BitVec 6}
    (h : pattern = place 32 26 op) (i : In) :
    hasOpcode pattern i = true ↔ opcode i.exInsn = op := by
  rw [hasOpcode, beq_iff_eq, h, opcodeMask_eq, and_fieldMask_eq_place_iff (by decide), opcode]

theorem arithmeticClass_iff (insn : BitVec 32) :
    ((insn &&& 0xC0000000#32) == 0x80000000#32) = true ↔ insn.extractLsb' 30 2 = 2#2 := by
  have hmask : 0xC0000000#32 = fieldMask 32 30 2 := by decide
  have hclass : 0x80000000#32 = place 32 30 2#2 := by decide
  rw [beq_iff_eq, hmask, hclass, and_fieldMask_eq_place_iff (by decide)]

theorem target_iff (insn : BitVec 32) (addr : BitVec 5) :
    ((insn &&& targetMask) == 0#6 ++ addr ++ 0#21) = true ↔ insn.extractLsb' 21 5 = addr := by
  have hplace : ∀ addr : BitVec 5, 0#6 ++ addr ++ 0#21 = place 32 21 addr := by decide
  rw [beq_iff_eq, hplace, targetMask_eq, and_fieldMask_eq_place_iff (by decide)]

/-- Checker 9 looks at the opcode and at the low part of the address only. -/
theorem srWritePattern_iff (i : In) :
    srWritePattern i = true ↔
      opcode i.exInsn = or32Mtspr ∧ i.exInsn.extractLsb' 0 11 = sprSr := by
  have hpattern : or32Mtspr ++ 0#15 ++ sprSr = place 32 26 or32Mtspr ||| place 32 0 sprSr := by
    decide
  rw [srWritePattern, beq_iff_eq, hpattern, opcodeMask_eq, kMask_eq,
    and_fieldMasks_eq_places_iff (by decide) (by decide), opcode]

end Specs.BakedInAssertions
