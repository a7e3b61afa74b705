import Specs.Fabric.BakedIn

/-!
# The fabric as a family of monitors

Every checker of the fabric that keeps its history behind `enable` is a monitor:
its verdict is a function of the present cycle and of the enabled steps since the
last reset.  Two registers of the module are clocked in every cycle instead,
`checker3_3b_1` and `specXorReg`.  The bits that use them, 3 and 5, are a verdict
masked by what the register saw in the cycle before, enabled or not.  Bit 16 is a
monitor of the plain clock, and the delta checker, whose lower limit is zero,
keeps bits 13 and 19 at zero.
-/

namespace Specs.BakedInAssertions

open Specs.Sync Specs.Ovl Specs.Or1200

/-- The gate of the checkers that are connected to `enable`. -/
def gate : Gate In := ⟨In.rst, In.enable⟩

/-- The gate of the checkers whose `enable` is tied to one. -/
def clkGate : Gate In := ⟨In.rst, always1⟩

@[simp] theorem gate_rst (i : In) : gate.rst i = i.rst := rfl

@[simp] theorem gate_enable (i : In) : gate.enable i = i.enable := rfl

@[simp] theorem clkGate_rst (i : In) : clkGate.rst i = i.rst := rfl

@[simp] theorem clkGate_enable (i : In) : clkGate.enable i = true := rfl

def stateAt (s₀ : State) (tr : ℕ → In) (t : ℕ) : State := run next s₀ tr t

def firedAt (s₀ : State) (tr : ℕ → In) (t : ℕ) : BitVec 32 :=
  checkersFired (stateAt s₀ tr t) (tr t)

theorem stateAt_succ (s₀ : State) (tr : ℕ → In) (t : ℕ) :
    stateAt s₀ tr (t + 1) = next (stateAt s₀ tr t) (tr t) := rfl

/-! ## The instances -/

theorem out_level (enable test : In → Bool) (i : In) :
    Always.out (level enable test i) = (!i.rst && enable i && !test i) := by
  cases hr : i.rst <;> cases he : enable i <;>
    simp [Always.out, Always.fire2StateComb, Always.fire2State_1, level, resetN, hr, he]

/-- A reset cycle silences every checker, whatever the registers hold. -/
theorem checkersFired_of_rst (s : State) {i : In} (h : i.rst = true) :
    checkersFired s i = 0#32 := by
  have hlevel : ∀ enable test, Always.out (level enable test i) = false := by
    intro enable test
    simp [out_level, h]
  have hedge : ∀ s enable event test, AlwaysOnEdge.out s (onEdge enable event test i) = false := by
    intro s enable event test
    simp [AlwaysOnEdge.out, AlwaysOnEdge.fire2StateComb, onEdge, h]
  have hnext : ∀ (s : Next.State 7) event test, Next.out s (nextOne event test i) = false := by
    intro s event test
    simp [Next.out, Next.fire2StateComb, nextOne, h]
  have h₁ : checker1 i = false := by simp [checker1, checker1_5, hlevel]
  have h₃ : checker3 s i = false := by
    simp [checker3, checker3_1, checker3_2, checker3_3a, checker3_4, checker3_5, checker3_6,
      checker3_7, oaoew3_1, oaoew3_3a, oaoew3_5, oaoew3_7, hlevel, hedge]
  have h₅ : checker5 s i = false := by simp [checker5, checker5_2, hlevel]
  have h₈ : checker8 s i = false := by simp [checker8, checker8_1, oaoew8_1, hedge]
  have h₉ : checker9 s i = false := by
    simp [checker9, checker9_1, checker9_2, oaoew9_1, oaoew9_2, hedge]
  have h₁₃ : checker13 s i = false := by simp [checker13, checker13_5, hlevel]
  have h₁₅ : checker15 s i = false := by
    simp [checker15, checker15_1, checker15_3, oaoew15_1, hlevel, hedge]
  have h₁₆ : checker16 s i = false := by
    simp [checker16, checker16_5, checker16_6, oaoew16_5, hlevel, hedge]
  have h₁₈ : checker18 s i = false := by
    simp [checker18, checker18_1, checker18_2, onw18_1, onw18_2, hnext]
  rw [checkersFired, checker19, h₁, h₃, h₅, h₈, h₉, h₁₃, h₁₅, h₁₆, h₁₈, Bool.false_and]
  rfl

section Instances

variable {enable event test : In → Bool} (s₀ : State) {tr : ℕ → In}
  (hreset : (tr 0).rst = true) (t : ℕ)
include hreset

/-- The output of an edge checker whose registers are the part `π` of the state
and whose tested expression may look at the state. -/
theorem out_edge_run (π : State → AlwaysOnEdge.State) {test : State → In → Bool}
    (hπ : ∀ s i, π (next s i) =
      AlwaysOnEdge.next (π s) (onEdge enable event (test s) i)) :
    AlwaysOnEdge.out (π (stateAt s₀ tr t))
        (onEdge enable event (test (stateAt s₀ tr t)) (tr t)) =
      ((⟨In.rst, enable⟩ : Gate In).verdict (AlwaysOnEdge.rising event) tr t &&
        !test (stateAt s₀ tr t) (tr t)) := by
  have hosted : AlwaysOnEdge.Hosted ⟨In.rst, enable⟩ next π
      (fun s i ↦ onEdge enable event (test s) i) event :=
    ⟨hπ, fun _ _ ↦ rfl, fun _ _ ↦ rfl, fun _ _ ↦ rfl⟩
  have hout := hosted.out_run s₀ hreset t
  simpa only [stateAt, onEdge, Bool.not_false, Bool.and_true] using hout

theorem out_onEdge_run (π : State → AlwaysOnEdge.State)
    (hπ : ∀ s i, π (next s i) = AlwaysOnEdge.next (π s) (onEdge enable event test i)) :
    AlwaysOnEdge.out (π (stateAt s₀ tr t)) (onEdge enable event test (tr t)) =
      (⟨In.rst, enable⟩ : Gate In).verdict (AlwaysOnEdge.edge event test) tr t := by
  rw [out_edge_run s₀ hreset t π hπ]
  simp only [Gate.verdict, AlwaysOnEdge.edge, Bool.and_assoc]

/-- A next checker with `num_cks` tied to one is a monitor. -/
theorem out_nextOne_run (π : State → Next.State 7)
    (hπ : ∀ s i, π (next s i) = Next.next 1 0 (π s) (nextOne event test i)) :
    Next.out (π (stateAt s₀ tr t)) (nextOne event test (tr t)) =
      gate.verdict (Next.afterOne event test) tr t := by
  have hrun : π (stateAt s₀ tr t) =
      run (Next.next 1 0) (π s₀) (fun u ↦ nextOne event test (tr u)) t :=
    component_run π (fun _ i ↦ nextOne event test i) hπ s₀ tr t
  have hout : Next.out (run (Next.next 1 0) (π s₀) (fun u ↦ nextOne event test (tr u)) t)
      (nextOne event test (tr t)) =
      Next.gate.verdict (Next.afterOne Next.In.startEvent Next.In.testExpr)
        (fun u ↦ nextOne event test (tr u)) t :=
    Next.out_run_of_numCks_one (by decide) (π s₀) hreset rfl rfl
  have hmap := gate.verdict_map Next.gate (nextOne event test) (fun _ ↦ rfl) (fun _ ↦ rfl)
    (Next.afterOne Next.In.startEvent Next.In.testExpr) tr t
  rw [hrun, hout, hmap]
  congr 1
  funext past i
  cases past with
  | nil => rfl
  | cons p past => rfl

end Instances

/-! ## The checkers -/

def atItlbMiss (i : In) : Bool := i.exPc == 0x00000A00#32

def hasOpcode (pattern : BitVec 32) (i : In) : Bool := (i.exInsn &&& opcodeMask) == pattern

def loadClass (i : In) : Bool := (i.exInsn &&& 0xF0000000#32) == 0x80000000#32

/-- The pattern by which checker 9 recognises a write of SR. -/
def srWritePattern (i : In) : Bool :=
  (i.exInsn &&& (opcodeMask ||| kMask)) == or32Mtspr ++ 0#15 ++ sprSr

def pagePrivilege : Monitor In := fun _ i ↦
  (!i.sr.getLsbD srSm || (i.immuEn && !i.immuSxe)) &&
    (i.sr.getLsbD srSm || (i.immuEn && !i.immuUxe)) && i.immuEn

/-- Checker 3 without the part on ESR: EEAR or EPCR is not the one to save. -/
def savedPc : Monitor In := fun past i ↦
  AlwaysOnEdge.edge atItlbMiss (fun i ↦ i.eear == i.sprDatNpc) past i ||
    ((i.sr.getLsbD srDsx ||
        (AlwaysOnEdge.edge atVector (fun i ↦ i.epcr == i.sprDatPpc + 4#32) past i &&
          AlwaysOnEdge.edge atItlbMiss (fun i ↦ i.epcr == i.sprDatNpc) past i)) &&
      (!i.sr.getLsbD srDsx ||
        AlwaysOnEdge.edge atVector (fun i ↦ i.epcr == i.sprDatPpc) past i))

/-- The part of checker 3 on ESR: supervisor mode is saved on an exception. -/
def savedMode : Monitor In := fun past i ↦
  AlwaysOnEdge.rising atVector past i && i.esr.getLsbD 0

/-- Checker 5, but for the comparison in the cycle before. -/
def loadedData : Monitor In := fun past i ↦
  AlwaysOnEdge.rising loadClass past i && (i.gprWrittenData ^^^ i.dcpuDatI) != 0#32 &&
    !hasOpcode 0x8C000000#32 i

def privilegeRise : Monitor In :=
  AlwaysOnEdge.edge (fun i ↦ i.sr.getLsbD srSm) atVector

def privilegeWrite : Monitor In :=
  AlwaysOnEdge.edge srWritePattern
    (fun i ↦ i.sr.getLsbD srSm == i.operandB.getLsbD srSm)

def privilegeChange : Monitor In := fun past i ↦
  AlwaysOnEdge.edge (hasOpcode (or32Rfe ++ 0#26))
      (fun i ↦ i.sr.getLsbD srSm == i.esr.getLsbD srSm) past i ||
    privilegeWrite past i

def exceptionReturn : Monitor In := fun past i ↦
  AlwaysOnEdge.edge (hasOpcode 0x24000000#32) (fun i ↦ i.sr == i.esr) past i ||
    (Next.afterOne (hasOpcode 0x24000000#32) (fun i ↦ i.exPc == i.epcr) past i &&
      !atVector i)

def legalWrite (i : In) : Bool :=
  (((i.exInsn &&& 0xC0000000#32) == 0x80000000#32 || hasOpcode 0x18000000#32 i ||
      hasOpcode 0xE0000000#32 i) &&
    (i.exInsn &&& targetMask) == 0#6 ++ i.gprWrittenAddr ++ 0#21) ||
    (i.gprWrittenAddr == 9#5 && (hasOpcode 0x04000000#32 i || hasOpcode 0x48000000#32 i))

/-- Checker 16: the first of a row of writes is not legal. -/
def gprTarget : Monitor In := AlwaysOnEdge.edge (fun i ↦ i.gprWrittenTo) legalWrite

def exceptionTaken : Monitor In := fun past i ↦
  Next.afterOne (fun i ↦ (i.exInsn &&& 0xFFFF0000#32) == 0x20000000#32)
      (fun i ↦ i.exPc == 0x00000C00#32) past i ||
    Next.afterOne (fun i ↦ (i.exInsn &&& 0xFFFF0000#32) == 0x21000000#32)
      (fun i ↦ i.exPc == 0x00000E00#32) past i

theorem checker13_1_eq_false (s : State) (i : In) : checker13_1 s i = false :=
  Delta.out_of_min_zero _ rfl

theorem checker13_eq_false (s : State) (i : In) : checker13 s i = false := by
  rw [checker13, checker13_1_eq_false]
  rfl

theorem checker19_eq_false (s : State) (i : In) : checker19 s i = false := by
  rw [checker19, checker13_1_eq_false, Bool.and_false]

section Checkers

variable (s₀ : State) (tr : ResetTrace gate) (t : ℕ)

theorem checker1_run : checker1 (tr t) = gate.verdict pagePrivilege tr t := by
  simp only [checker1, checker1_1, checker1_2, checker1_3, checker1_4, checker1_5,
    out_level, Gate.verdict, pagePrivilege]
  cases hr : (tr t).rst <;> cases he : (tr t).enable <;> simp [hr, he]

theorem checker3_run :
    checker3 (stateAt s₀ tr t) (tr t) =
      (gate.verdict savedPc tr t ||
        (gate.verdict savedMode tr t && (stateAt s₀ tr t).checker3_3b_1)) := by
  have h₁ : checker3_1 (stateAt s₀ tr t) (tr t) = gate.verdict
      (AlwaysOnEdge.edge atItlbMiss fun i ↦ i.eear == i.sprDatNpc) tr t :=
    out_onEdge_run s₀ tr.reset_first t State.oaoew3_1 fun _ _ ↦ rfl
  have h₃ : checker3_3a (stateAt s₀ tr t) (tr t) = gate.verdict
      (AlwaysOnEdge.edge atVector fun _ ↦ false) tr t :=
    out_onEdge_run s₀ tr.reset_first t State.oaoew3_3a fun _ _ ↦ rfl
  have h₅ : checker3_5 (stateAt s₀ tr t) (tr t) = gate.verdict
      (AlwaysOnEdge.edge atVector fun i ↦ i.epcr == i.sprDatPpc + 4#32) tr t :=
    out_onEdge_run s₀ tr.reset_first t State.oaoew3_5 fun _ _ ↦ rfl
  have h₅' : checker3_5b (stateAt s₀ tr t) (tr t) = gate.verdict
      (AlwaysOnEdge.edge atItlbMiss fun i ↦ i.epcr == i.sprDatNpc) tr t :=
    out_onEdge_run s₀ tr.reset_first t State.oaoew3_5b fun _ _ ↦ rfl
  have h₇ : checker3_7 (stateAt s₀ tr t) (tr t) = gate.verdict
      (AlwaysOnEdge.edge atVector fun i ↦ i.epcr == i.sprDatPpc) tr t :=
    out_onEdge_run s₀ tr.reset_first t State.oaoew3_7 fun _ _ ↦ rfl
  simp only [checker3, h₁, h₃, h₅, h₅', h₇, checker3_2, checker3_3c, checker3_4, checker3_6,
    out_level, Gate.verdict, gate_rst, gate_enable, savedPc, savedMode, AlwaysOnEdge.edge]
  cases hr : (tr t).rst <;> cases he : (tr t).enable <;>
    simp [Bool.and_right_comm, Bool.or_right_comm]

theorem checker5_run :
    checker5 (stateAt s₀ tr t) (tr t) =
      (gate.verdict loadedData tr t && (stateAt s₀ tr t).specXorReg != 0#32) := by
  have h₁ : checker5_1 (stateAt s₀ tr t) (tr t) =
      (gate.verdict (AlwaysOnEdge.rising loadClass) tr t &&
        !!((stateAt s₀ tr t).specXorReg != 0#32 &&
          ((tr t).gprWrittenData ^^^ (tr t).dcpuDatI) != 0#32)) :=
    out_edge_run s₀ tr.reset_first t State.oaoew5_1 fun _ _ ↦ rfl
  simp only [checker5, h₁, checker5_2, out_level, Gate.verdict, gate_rst, gate_enable,
    loadedData, hasOpcode]
  cases hr : (tr t).rst <;> cases he : (tr t).enable <;>
    simp [Bool.and_assoc, Bool.and_comm, Bool.and_left_comm]

theorem checker8_run :
    checker8 (stateAt s₀ tr t) (tr t) = gate.verdict privilegeRise tr t := by
  have h₁ : checker8_1 (stateAt s₀ tr t) (tr t) = gate.verdict
      (AlwaysOnEdge.edge (fun i ↦ i.sr.getLsbD srSm) fun i ↦ i.rst != false) tr t :=
    out_onEdge_run s₀ tr.reset_first t State.oaoew8_1 fun _ _ ↦ rfl
  have h₂ : checker8_2 (stateAt s₀ tr t) (tr t) = gate.verdict privilegeRise tr t :=
    out_onEdge_run s₀ tr.reset_first t State.oaoew8_2 fun _ _ ↦ rfl
  simp only [checker8, h₁, h₂, Gate.verdict, gate_rst, gate_enable, privilegeRise,
    AlwaysOnEdge.edge]
  cases hr : (tr t).rst <;> cases he : (tr t).enable <;> simp

theorem checker9_2_run :
    checker9_2 (stateAt s₀ tr t) (tr t) = gate.verdict privilegeWrite tr t :=
  out_onEdge_run s₀ tr.reset_first t State.oaoew9_2 fun _ _ ↦ rfl

theorem checker9_run :
    checker9 (stateAt s₀ tr t) (tr t) = gate.verdict privilegeChange tr t := by
  have h₁ : checker9_1 (stateAt s₀ tr t) (tr t) = gate.verdict
      (AlwaysOnEdge.edge (hasOpcode (or32Rfe ++ 0#26))
        fun i ↦ i.sr.getLsbD srSm == i.esr.getLsbD srSm) tr t :=
    out_onEdge_run s₀ tr.reset_first t State.oaoew9_1 fun _ _ ↦ rfl
  rw [checker9, h₁, checker9_2_run, Gate.verdict_or]
  rfl

theorem checker15_run :
    checker15 (stateAt s₀ tr t) (tr t) = gate.verdict exceptionReturn tr t := by
  have h₁ : checker15_1 (stateAt s₀ tr t) (tr t) = gate.verdict
      (AlwaysOnEdge.edge (hasOpcode 0x24000000#32) fun i ↦ i.sr == i.esr) tr t :=
    out_onEdge_run s₀ tr.reset_first t State.oaoew15_1 fun _ _ ↦ rfl
  have h₂ : checker15_2 (stateAt s₀ tr t) (tr t) = gate.verdict
      (Next.afterOne (hasOpcode 0x24000000#32) fun i ↦ i.exPc == i.epcr) tr t :=
    out_nextOne_run s₀ tr.reset_first t State.onw15_2 fun _ _ ↦ rfl
  simp only [checker15, h₁, h₂, checker15_3, out_level, Gate.verdict, gate_rst, gate_enable,
    exceptionReturn]
  cases hr : (tr t).rst <;> cases he : (tr t).enable <;> simp

theorem checker16_run :
    checker16 (stateAt s₀ tr t) (tr t) = clkGate.verdict gprTarget tr t := by
  have h₁ : checker16_1 (stateAt s₀ tr t) (tr t) = clkGate.verdict
      (AlwaysOnEdge.edge (fun i ↦ i.gprWrittenTo)
        fun i ↦ (i.exInsn &&& 0xC0000000#32) == 0x80000000#32) tr t :=
    out_onEdge_run s₀ tr.reset_first t State.oaoew16_1 fun _ _ ↦ rfl
  have h₂ : checker16_2 (stateAt s₀ tr t) (tr t) = clkGate.verdict
      (AlwaysOnEdge.edge (fun i ↦ i.gprWrittenTo) (hasOpcode 0x18000000#32)) tr t :=
    out_onEdge_run s₀ tr.reset_first t State.oaoew16_2 fun _ _ ↦ rfl
  have h₃ : checker16_3 (stateAt s₀ tr t) (tr t) = clkGate.verdict
      (AlwaysOnEdge.edge (fun i ↦ i.gprWrittenTo) (hasOpcode 0xE0000000#32)) tr t :=
    out_onEdge_run s₀ tr.reset_first t State.oaoew16_3 fun _ _ ↦ rfl
  have h₄ : checker16_4 (stateAt s₀ tr t) (tr t) = clkGate.verdict
      (AlwaysOnEdge.edge (fun i ↦ i.gprWrittenTo)
        fun i ↦ (i.exInsn &&& targetMask) == 0#6 ++ i.gprWrittenAddr ++ 0#21) tr t :=
    out_onEdge_run s₀ tr.reset_first t State.oaoew16_4 fun _ _ ↦ rfl
  have h₅ : checker16_5 (stateAt s₀ tr t) (tr t) = clkGate.verdict
      (AlwaysOnEdge.edge (fun i ↦ i.gprWrittenTo) fun i ↦ i.gprWrittenAddr == 9#5) tr t :=
    out_onEdge_run s₀ tr.reset_first t State.oaoew16_5 fun _ _ ↦ rfl
  simp only [checker16, h₁, h₂, h₃, h₄, h₅, checker16_6, checker16_7, out_level,
    Gate.verdict, clkGate_rst, clkGate_enable, always1, gprTarget, AlwaysOnEdge.edge,
    legalWrite, hasOpcode]
  cases hr : (tr t).rst <;>
    cases he : AlwaysOnEdge.rising (fun i ↦ i.gprWrittenTo) (clkGate.steps tr t) (tr t) <;>
    simp

theorem checker18_run :
    checker18 (stateAt s₀ tr t) (tr t) = gate.verdict exceptionTaken tr t := by
  have h₁ : checker18_1 (stateAt s₀ tr t) (tr t) = gate.verdict
      (Next.afterOne (fun i ↦ (i.exInsn &&& 0xFFFF0000#32) == 0x20000000#32)
        fun i ↦ i.exPc == 0x00000C00#32) tr t :=
    out_nextOne_run s₀ tr.reset_first t State.onw18_1 fun _ _ ↦ rfl
  have h₂ : checker18_2 (stateAt s₀ tr t) (tr t) = gate.verdict
      (Next.afterOne (fun i ↦ (i.exInsn &&& 0xFFFF0000#32) == 0x21000000#32)
        fun i ↦ i.exPc == 0x00000E00#32) tr t :=
    out_nextOne_run s₀ tr.reset_first t State.onw18_2 fun _ _ ↦ rfl
  rw [checker18, h₁, h₂, Gate.verdict_or]
  rfl

end Checkers

/-! ## The bits of a run -/

/-- The monitor behind a bit whose history is all kept behind `enable`. -/
def bitMonitor : ℕ → Monitor In
  | 1 => pagePrivilege
  | 8 => privilegeRise
  | 9 => privilegeChange
  | 15 => exceptionReturn
  | 18 => exceptionTaken
  | _ => fun _ _ ↦ false

/-- An enabled cycle in user mode, which is what `checker3_3b_1` remembers. -/
def userStep (i : In) : Bool := !i.rst && i.enable && !i.sr.getLsbD 0

/-- The data on the bus is not the data written, which is what `specXorReg`
remembers. -/
def busMismatch (i : In) : Bool := (i.gprWrittenData ^^^ i.dcpuDatI) != 0#32

section Bits

variable (s₀ : State) (tr : ResetTrace gate) (t : ℕ)

theorem firedAt_getLsbD {n : ℕ} (h₃ : n ≠ 3) (h₅ : n ≠ 5) (h₁₆ : n ≠ 16) :
    (firedAt s₀ tr t).getLsbD n = gate.verdict (bitMonitor n) tr t := by
  have hzero : false = gate.verdict (fun _ _ ↦ false) tr t := by simp [Gate.verdict]
  rw [firedAt, checkersFired_getLsbD]
  split
  · exact checker1_run tr t
  · exact absurd rfl h₃
  · exact absurd rfl h₅
  · exact checker8_run s₀ tr t
  · exact checker9_run s₀ tr t
  · exact (checker13_eq_false _ _).trans hzero
  · exact checker15_run s₀ tr t
  · exact absurd rfl h₁₆
  · exact checker18_run s₀ tr t
  · exact (checker19_eq_false _ _).trans hzero
  · rw [bitMonitor]
    · exact hzero
    all_goals assumption

/-- The register without an enable shows the cycle before. -/
theorem checker3_3b_1_succ : (stateAt s₀ tr (t + 1)).checker3_3b_1 = userStep (tr t) := by
  rw [stateAt_succ, next, checker3_3b, out_level]
  cases hr : (tr t).rst <;> simp [userStep, hr]

theorem specXorReg_succ :
    ((stateAt s₀ tr (t + 1)).specXorReg != 0#32) = busMismatch (tr t) := rfl

theorem firedAt_three :
    (firedAt s₀ tr (t + 1)).getLsbD 3 =
      (gate.verdict savedPc tr (t + 1) ||
        (gate.verdict savedMode tr (t + 1) && userStep (tr t))) := by
  rw [firedAt, checkersFired_getLsbD, ← checker3_3b_1_succ s₀]
  exact checker3_run s₀ tr (t + 1)

theorem firedAt_five :
    (firedAt s₀ tr (t + 1)).getLsbD 5 =
      (gate.verdict loadedData tr (t + 1) && busMismatch (tr t)) := by
  rw [firedAt, checkersFired_getLsbD, ← specXorReg_succ s₀]
  exact checker5_run s₀ tr (t + 1)

theorem firedAt_sixteen :
    (firedAt s₀ tr t).getLsbD 16 = clkGate.verdict gprTarget tr t := by
  rw [firedAt, checkersFired_getLsbD]
  exact checker16_run s₀ tr t

end Bits

end Specs.BakedInAssertions
