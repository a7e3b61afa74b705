import Specs.Fabric.Decode
import Specs.Or1200.Cpu

/-!
# Writes of SR: two decoders

The core takes the address of `l.mtspr` from a register and from the sixteen bits
of the split immediate.  Checker 9 looks at the eleven low bits of the immediate
in the raw instruction, and only when the previous step did not show the same
pattern.  The two agree exactly when the low immediate alone names SR and nothing
else contributes to the address.
-/

namespace Specs.Or1200.Cpu

open Specs.Sync BakedInAssertions

def sprsIn (s : State) (i : In) : Sprs.In := Backend.sprsIn s.backend (pipelineIn s i)

/-- The effective address of `l.mtspr` in EX: operand A or the split immediate. -/
def mtsprAddr (s : State) (i : In) : BitVec 32 :=
  i.backend.sprs.addrbase |||
    (0#16 ++ s.ctrl.exInsn.extractLsb' 21 5 ++ s.ctrl.exInsn.extractLsb' 0 11)

def NamesSr (addr : BitVec 32) : Prop := addr.extractLsb' 0 16 = 0x0011#16

instance (addr : BitVec 32) : Decidable (NamesSr addr) := by unfold NamesSr; infer_instance

/-- The core selects SR and writes it, without the debug unit. -/
def WritesSr (s : State) (i : In) : Prop :=
  Sprs.duAccess (sprsIn s i) = false ∧ Sprs.sprWe (sprsIn s i) = true ∧
    Sprs.srSel s.backend.sprs (sprsIn s i) = true

def ChangesMode (s : State) (i : In) : Prop :=
  (sr s i).getLsbD srSm ≠ i.backend.sprs.datI.getLsbD srSm

/-- With `l.mtspr` in EX, checker 9 reports every change of the mode by a write of
SR, and its half on `l.mtspr` is silent when another register is addressed. -/
structure RecognisesSrWrites (s : State) (i : In) : Prop where
  written : opcode s.ctrl.exInsn = or32Mtspr → WritesSr s i → ChangesMode s i →
    (spAssertionsViolated s i).getLsbD 9 = true
  other : opcode s.ctrl.exInsn = or32Mtspr → ¬NamesSr (mtsprAddr s i) →
    checker9_2 s.fabric (fabricIn s i) = false

/-- The fabric takes the instruction in EX for a write of SR: the low immediate
names SR, and the previous step `p` did not have the pattern. -/
def TakenForSrWrite (p : BakedInAssertions.In) (s : State) : Prop :=
  s.ctrl.exInsn.extractLsb' 0 11 = sprSr ∧ srWritePattern p = false

/-- For a write that changes the mode, what the fabric takes the instruction for is
what the core does. -/
structure DecodersAgree (p : BakedInAssertions.In) (s : State) (i : In) : Prop where
  written : opcode s.ctrl.exInsn = or32Mtspr → ChangesMode s i → NamesSr (mtsprAddr s i) →
    (sr s i).getLsbD srSm = true → Sprs.duAccess i.backend.sprs = false → TakenForSrWrite p s
  other : opcode s.ctrl.exInsn = or32Mtspr → ChangesMode s i → ¬NamesSr (mtsprAddr s i) →
    ¬TakenForSrWrite p s

/-! ## The decoder of the core -/

theorem namesSr_iff (addr : BitVec 32) :
    NamesSr addr ↔ Sprs.sprGroup addr = 0#5 ∧ Sprs.sprOfs addr = sprSr :=
  Bits.extractLsb'_eq_append_iff addr 0 0#5 sprSr

theorem abortMvspr_of_insnClk {s : State} {i : In} (h : insnClk s i = true) :
    Backend.abortMvspr s.backend (pipelineIn s i) = false := by
  simp only [insnClk, Bool.and_eq_true, Bool.not_eq_true'] at h
  obtain ⟨⟨-, hrunning⟩, -⟩ := h
  by_contra hne
  have habort : Backend.abortMvspr s.backend (pipelineIn s i) = true :=
    Bool.not_eq_false _ ▸ hne
  have hfreeze : exFreeze s i = true := exFreeze_of_abortMvspr habort
  rw [hrunning] at hfreeze
  exact Bool.false_ne_true hfreeze

/-- The immediate passes through the offset port unchanged. -/
theorem zero_append_low (a : BitVec 5) (b : BitVec 11) :
    0#16 ++ (0#16 ++ a ++ b).extractLsb' 0 16 = 0#16 ++ a ++ b := by
  apply BitVec.eq_of_getLsbD_eq
  intro n hn
  simp only [BitVec.getLsbD_append, BitVec.getLsbD_extractLsb', BitVec.getLsbD_zero, Nat.zero_add]
  by_cases hlo : n < 16
  · simp [hlo]
  · have hskip₁₁ : ¬n < 11 := by omega
    have hskip₁₆ : ¬n - 11 < 5 := by omega
    simp [hlo, hskip₁₁, hskip₁₆]

section

variable {s : State} {i : In} (hdecoded : Ctrl.Decoded s.ctrl)
  (hop : opcode s.ctrl.exInsn = or32Mtspr)
include hdecoded hop

theorem exSprRead_of_mtspr : (sprsIn s i).exSprRead = false := by
  have hread : s.ctrl.sprRead = false := by
    rw [← Bool.not_eq_true, hdecoded.read_iff, hop]
    decide
  change (s.ctrl.sprRead && !Backend.abortMvspr s.backend (pipelineIn s i)) = false
  rw [hread, Bool.false_and]

theorem exSprWrite_of_mtspr (hclk : insnClk s i = true) : (sprsIn s i).exSprWrite = true := by
  have hwrite : s.ctrl.sprWrite = true := hdecoded.write_iff.mpr hop
  change (s.ctrl.sprWrite && !Backend.abortMvspr s.backend (pipelineIn s i)) = true
  rw [hwrite, abortMvspr_of_insnClk hclk]
  rfl

theorem sprAddr_of_mtspr (hdu : Sprs.duAccess (sprsIn s i) = false) :
    Sprs.sprAddr (sprsIn s i) = mtsprAddr s i := by
  have hnop : opcode s.ctrl.exInsn ≠ or32Nop := by
    rw [hop]
    decide
  have hsimm : s.ctrl.exSimm =
      0#16 ++ s.ctrl.exInsn.extractLsb' 21 5 ++ s.ctrl.exInsn.extractLsb' 0 11 := by
    rw [hdecoded.simm hnop, Ctrl.idSimm_of_mtspr hop]
  have hofs : (sprsIn s i).addrofs = s.ctrl.exSimm.extractLsb' 0 16 := rfl
  rw [Sprs.sprAddr, hdu, if_neg Bool.false_ne_true, hofs, hsimm, zero_append_low]
  rfl

/-- In a step with `l.mtspr` in EX, the core writes SR when the effective address
names it and the mode is the supervisor's. -/
theorem writesSr_iff (hclk : insnClk s i = true) :
    WritesSr s i ↔ Sprs.duAccess i.backend.sprs = false ∧ NamesSr (mtsprAddr s i) ∧
      (sr s i).getLsbD srSm = true := by
  have hread : (sprsIn s i).exSprRead = false := exSprRead_of_mtspr hdecoded hop
  have hwrite : (sprsIn s i).exSprWrite = true := exSprWrite_of_mtspr hdecoded hop hclk
  apply and_congr_right
  intro hdu
  have hwe : Sprs.sprWe (sprsIn s i) = true := by
    rw [Sprs.sprWe, hwrite, hdu]
    exact Bool.or_true _
  have hsel := Sprs.ofsSel_sys_iff (s := s.backend.sprs) hdu hread hwrite sprSr
  rw [sprAddr_of_mtspr hdecoded hop hdu, ← namesSr_iff] at hsel
  rw [Sprs.srSel, hsel, hwe]
  exact and_iff_right rfl

end

/-! ## The decoder of the fabric -/

theorem bit_nine_eq {s : State} {i : In} (hop : opcode s.ctrl.exInsn = or32Mtspr) :
    (spAssertionsViolated s i).getLsbD 9 = checker9_2 s.fabric (fabricIn s i) := by
  have hrfe : hasOpcode (or32Rfe ++ 0#26) (fabricIn s i) = false := by
    rw [← Bool.not_eq_true, hasOpcode_iff (by decide : or32Rfe ++ 0#26 = Bits.place 32 26 or32Rfe)]
    change ¬opcode s.ctrl.exInsn = or32Rfe
    rw [hop]
    decide
  have hhalf : checker9_1 s.fabric (fabricIn s i) = false := by
    rw [hasOpcode] at hrfe
    simp [checker9_1, oaoew9_1, onEdge, Ovl.AlwaysOnEdge.out, Ovl.AlwaysOnEdge.fire2StateComb, hrfe]
  rw [spAssertionsViolated, checkersFired_getLsbD]
  change (checker9_1 s.fabric (fabricIn s i) || checker9_2 s.fabric (fabricIn s i)) = _
  rw [hhalf, Bool.false_or]

section

variable (s₀ : State) (tr : ResetTrace gate) {t : ℕ} {p : BakedInAssertions.In}
  {past : List BakedInAssertions.In}
  (hstep : BakedInAssertions.gate.IsStep (fabricTrace s₀ tr t))
  (hsteps : BakedInAssertions.gate.steps (fabricTrace s₀ tr) t = p :: past)
include hstep hsteps

theorem checker9_2_iff (hop : opcode (stateAt s₀ tr t).ctrl.exInsn = or32Mtspr) :
    checker9_2 (stateAt s₀ tr t).fabric (fabricIn (stateAt s₀ tr t) (tr t)) = true ↔
      TakenForSrWrite p (stateAt s₀ tr t) ∧ ChangesMode (stateAt s₀ tr t) (tr t) := by
  have hrun := checker9_2_run s₀.fabric (fabricTrace s₀ tr) t
  rw [← fabric_stateAt] at hrun
  change checker9_2 (stateAt s₀ tr t).fabric (fabricTrace s₀ tr t) = true ↔ _
  rw [hrun, BakedInAssertions.gate.verdict_of_isStep hstep, hsteps]
  have hpattern := srWritePattern_iff (fabricTrace s₀ tr t)
  simp only [privilegeWrite, Ovl.AlwaysOnEdge.edge, Ovl.AlwaysOnEdge.rising, Bool.and_eq_true,
    Bool.not_eq_true', hpattern, beq_eq_false_iff_ne]
  constructor
  · rintro ⟨⟨hp, -, hofs⟩, hmode⟩
    exact ⟨⟨hofs, hp⟩, hmode⟩
  · rintro ⟨⟨hofs, hp⟩, hmode⟩
    exact ⟨⟨hp, hop, hofs⟩, hmode⟩

end

/-- A reset cycle, `l.addi r4,r4,1`, and then a stream of `insn`, which is in EX from
cycle 4 on, with `base` as operand A and zero as operand B. -/
def afterAddi (insn base : BitVec 32) : ResetTrace gate where
  cycle t :=
    { (default : In) with
      ifInsn := if t = 1 then 0x9C840001#32 else insn
      backend := { (default : Backend.In) with
        rst := t == 0
        sprs := { (default : Sprs.In) with addrbase := base, exPc := 0x2000#32 } } }
  reset_first := rfl

end Specs.Or1200.Cpu
