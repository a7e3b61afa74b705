import Specs.Fabric.Decode

/-!
# Checker 5: loaded data

Checker 5 compares the data written into a register with the data on the bus, in
the present cycle and in the one before.  The comparison is made at the rising
edge of the load class only, so in a row of loads the first one is judged and
the others are not.
-/

namespace Specs.BakedInAssertions

open Specs.Sync Specs.Ovl Specs.Or1200

def WordLoad (i : In) : Prop := opcode i.exInsn = or32Lwz ∨ opcode i.exInsn = or32Lws

instance (i : In) : Decidable (WordLoad i) := by unfold WordLoad; infer_instance

/-- A word load whose data is not on the bus, neither now nor in the cycle before. -/
structure LostLoad (before i : In) : Prop where
  wordLoad : WordLoad i
  differs : i.gprWrittenData ≠ i.dcpuDatI
  differed : before.gprWrittenData ≠ before.dcpuDatI

theorem loadClass_iff (i : In) : loadClass i = true ↔ i.exInsn.extractLsb' 28 4 = 8#4 := by
  have hmask : 0xF0000000#32 = Bits.fieldMask 32 28 4 := by decide
  have hclass : 0x80000000#32 = Bits.place 32 28 8#4 := by decide
  rw [loadClass, beq_iff_eq, hmask, hclass, Bits.and_fieldMask_eq_place_iff (by decide)]

/-- The load class is four opcodes. -/
theorem loadClass_of_opcode {i : In} {k : BitVec 2}
    (h : opcode i.exInsn = 8#4 ++ k) : loadClass i = true := by
  rw [loadClass_iff]
  exact ((Bits.extractLsb'_eq_append_iff i.exInsn 26 8#4 k).mp h).1

theorem busMismatch_iff (i : In) : busMismatch i = true ↔ i.gprWrittenData ≠ i.dcpuDatI := by
  rw [busMismatch, bne_iff_ne, Ne, BitVec.xor_eq_zero_iff]

theorem WordLoad.loadClass {i : In} (h : WordLoad i) : loadClass i = true := by
  rcases h with hlwz | hlws
  · exact loadClass_of_opcode (k := 1#2) hlwz
  · exact loadClass_of_opcode (k := 2#2) hlws

/-- The opcode that checker 5 leaves out is not a word load. -/
theorem WordLoad.not_excluded {i : In} (h : WordLoad i) : hasOpcode 0x8C000000#32 i = false := by
  rw [← Bool.not_eq_true, hasOpcode_iff (by decide : 0x8C000000#32 = Bits.place 32 26 or32Lbz)]
  rcases h with hop | hop <;> rw [hop] <;> decide

section

variable (s₀ : State) (tr : ResetTrace gate) {t : ℕ} {p : In} {past : List In}

/-- A word load that lost its data is reported exactly when the step before it is not
of the load class. -/
theorem lostLoad_reported_iff (hstep : gate.IsStep (tr (t + 1)))
    (hsteps : gate.steps tr (t + 1) = p :: past) (h : LostLoad (tr t) (tr (t + 1))) :
    (firedAt s₀ tr (t + 1)).getLsbD 5 = true ↔ p.exInsn.extractLsb' 28 4 ≠ 8#4 := by
  have hnow : busMismatch (tr (t + 1)) = true := (busMismatch_iff _).mpr h.differs
  have hbefore : busMismatch (tr t) = true := (busMismatch_iff _).mpr h.differed
  have hverdict : gate.verdict loadedData tr (t + 1) = !loadClass p := by
    rw [gate.verdict_of_isStep hstep, hsteps, loadedData, AlwaysOnEdge.rising,
      h.wordLoad.loadClass, h.wordLoad.not_excluded]
    rw [busMismatch] at hnow
    simp [hnow]
  rw [firedAt_five, hverdict, hbefore, Bool.and_true, Bool.not_eq_true', ← Bool.not_eq_true,
    loadClass_iff]

end

/-- `l.lwz` with data that is not on the bus. -/
def lostLwz : In :=
  { (default : In) with enable := true, exInsn := 0x84840000#32, gprWrittenData := 7#32 }

/-- A reset cycle, then `l.nop`, a stalled cycle and a load. -/
def lostLoadAfterNop : ResetTrace gate where
  cycle
    | 0 => { (default : In) with rst := true }
    | 1 => { (default : In) with enable := true, exInsn := 0x15000000#32 }
    | 2 => { lostLwz with enable := false }
    | _ => lostLwz
  reset_first := rfl

/-- A reset cycle and a row of loads. -/
def lostLoads : ResetTrace gate where
  cycle
    | 0 => { (default : In) with rst := true }
    | _ => lostLwz
  reset_first := rfl

theorem lostLoad_reported_afterNop : (firedAt default lostLoadAfterNop 3).getLsbD 5 = true :=
  (lostLoad_reported_iff default lostLoadAfterNop ⟨rfl, rfl⟩ rfl
    ⟨by decide, by decide, by decide⟩).mpr (by decide)

theorem lostLoads_unreported :
    (gate.IsStep (lostLoads 2) ∧ gate.steps lostLoads 2 = [lostLoads 1] ∧
      LostLoad (lostLoads 1) (lostLoads 2)) ∧
    (firedAt default lostLoads 2).getLsbD 5 = false :=
  ⟨⟨⟨rfl, rfl⟩, rfl, ⟨by decide, by decide, by decide⟩⟩, by decide⟩

end Specs.BakedInAssertions
