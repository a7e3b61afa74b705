import Specs.Ovl.Delta
import Specs.Ovl.Edge
import Specs.Ovl.Next
import Specs.Or1200.Defines
import Mathlib.Tactic.IntervalCases

/-!
# The assertion fabric

`BakedInAssertions` instantiates the checkers and combines their outputs into
the bits of `checkersFired`.  Every instance keeps its name: `oaoew` are edge
checkers, `oaw` level checkers, `onw` next checkers, `odw` the delta checker and
`opw` the proposition checker.  A level checker has no register on the way to
its output, so it appears as a function of the inputs; all other instances are
fields of the state.

Inputs are stable while the clock is high, so `clk & enable` ticks at the end of
the enabled cycles and only there.
-/

namespace Specs.BakedInAssertions

open Specs.Ovl Specs.Or1200

structure Ports where
  exPc : BitVec 32
  exInsn : BitVec 32
  sprDatPpc : BitVec 32
  sprDatNpc : BitVec 32
  eear : BitVec 32
  sr : BitVec 17
  esr : BitVec 17
  epcr : BitVec 32
  immuSxe : Bool
  immuUxe : Bool
  immuEn : Bool
  gprWrittenTo : Bool
  gprWrittenAddr : BitVec 5
  gprWrittenData : BitVec 32
  dcpuDatI : BitVec 32
  operandB : BitVec 32
deriving Inhabited

structure In extends Ports where
  rst : Bool
  enable : Bool
deriving Inhabited

/-- The registers, one field an instance or a register of the module itself. -/
structure State where
  oaoew3_1 : AlwaysOnEdge.State
  checker3_3b_1 : Bool
  oaoew3_3a : AlwaysOnEdge.State
  oaoew3_5 : AlwaysOnEdge.State
  oaoew3_5b : AlwaysOnEdge.State
  oaoew3_7 : AlwaysOnEdge.State
  specXorReg : BitVec 32
  oaoew5_1 : AlwaysOnEdge.State
  oaoew8_1 : AlwaysOnEdge.State
  oaoew8_2 : AlwaysOnEdge.State
  oaoew9_1 : AlwaysOnEdge.State
  oaoew9_2 : AlwaysOnEdge.State
  odw13_1 : Delta.State 32
  checker13_2_1 : Bool
  checker13_2_2 : Bool
  checker13_3_1 : Bool
  checker13_3_2 : Bool
  checker13_4_1 : Bool
  checker13_4_2 : Bool
  checker13_5_1 : Bool
  oaoew15_1 : AlwaysOnEdge.State
  onw15_2 : Next.State 7
  oaoew16_1 : AlwaysOnEdge.State
  oaoew16_2 : AlwaysOnEdge.State
  oaoew16_3 : AlwaysOnEdge.State
  oaoew16_4 : AlwaysOnEdge.State
  oaoew16_5 : AlwaysOnEdge.State
  onw18_1 : Next.State 7
  onw18_2 : Next.State 7
deriving DecidableEq, Inhabited

/-! ## Masks and shared port maps -/

abbrev opcodeMask : BitVec 32 := 0xFC000000#32
abbrev targetMask : BitVec 32 := 0x03E00000#32
abbrev kMask : BitVec 32 := 0x000007FF#32
abbrev exceptionVectorUnmask : BitVec 32 := 0xFFFFF0FF#32

def atVector (i : In) : Bool := (i.exPc &&& exceptionVectorUnmask) == 0#32

def level (enable test : In → Bool) (i : In) : Always.In :=
  ⟨i.rst, enable i, test i, false⟩

def onEdge (enable event test : In → Bool) (i : In) : AlwaysOnEdge.In :=
  ⟨i.rst, enable i, event i, test i, false⟩

/-- Ports of a next checker with `num_cks` tied to one. -/
def nextOne (event test : In → Bool) (i : In) : Next.In 3 :=
  ⟨i.rst, i.enable, 1#3, event i, test i, false⟩

/-- The enable of the checkers that use the plain clock. -/
def always1 (_ : In) : Bool := true

/-! ## Checker 1: page privilege -/

def checker1_1 (i : In) : Bool :=
  Always.out (level In.enable (fun i ↦ i.sr.getLsbD srSm == true) i)

def checker1_2 (i : In) : Bool :=
  Always.out (level (fun i ↦ i.enable && i.immuEn) (fun i ↦ i.immuSxe == true) i)

def checker1_3 (i : In) : Bool :=
  Always.out (level In.enable (fun i ↦ i.sr.getLsbD srSm == false) i)

def checker1_4 (i : In) : Bool :=
  Always.out (level (fun i ↦ i.enable && i.immuEn) (fun i ↦ i.immuUxe == true) i)

def checker1_5 (i : In) : Bool :=
  Always.out (level In.enable (fun i ↦ i.immuEn == false) i)

def checker1 (i : In) : Bool :=
  (checker1_1 i || checker1_2 i) && (checker1_3 i || checker1_4 i) && checker1_5 i

/-! ## Checker 3: registers saved on an exception -/

def oaoew3_1 : In → AlwaysOnEdge.In :=
  onEdge In.enable (fun i ↦ i.exPc == 0x00000A00#32) (fun i ↦ i.eear == i.sprDatNpc)

def oaoew3_3a : In → AlwaysOnEdge.In :=
  onEdge In.enable atVector (fun _ ↦ false)

def oaoew3_5 : In → AlwaysOnEdge.In :=
  onEdge In.enable atVector (fun i ↦ i.epcr == i.sprDatPpc + 4#32)

def oaoew3_5b : In → AlwaysOnEdge.In :=
  onEdge In.enable (fun i ↦ i.exPc == 0x00000A00#32) (fun i ↦ i.epcr == i.sprDatNpc)

def oaoew3_7 : In → AlwaysOnEdge.In :=
  onEdge In.enable atVector (fun i ↦ i.epcr == i.sprDatPpc)

def checker3_1 (s : State) (i : In) : Bool := AlwaysOnEdge.out s.oaoew3_1 (oaoew3_1 i)

/-- Tied to zero: the check of EEAR on a data TLB miss is commented out. -/
def checker3_2 : Bool := false

def checker3_3a (s : State) (i : In) : Bool := AlwaysOnEdge.out s.oaoew3_3a (oaoew3_3a i)

def checker3_3b (i : In) : Bool :=
  Always.out (level In.enable (fun i ↦ i.sr.getLsbD 0 == true) i)

def checker3_3c (i : In) : Bool :=
  Always.out (level In.enable (fun i ↦ i.esr.getLsbD 0 == false) i)

def checker3_4 (i : In) : Bool :=
  Always.out (level In.enable (fun i ↦ i.sr.getLsbD srDsx == false) i)

def checker3_5 (s : State) (i : In) : Bool := AlwaysOnEdge.out s.oaoew3_5 (oaoew3_5 i)

def checker3_5b (s : State) (i : In) : Bool := AlwaysOnEdge.out s.oaoew3_5b (oaoew3_5b i)

def checker3_6 (i : In) : Bool :=
  Always.out (level In.enable (fun i ↦ i.sr.getLsbD srDsx == true) i)

def checker3_7 (s : State) (i : In) : Bool := AlwaysOnEdge.out s.oaoew3_7 (oaoew3_7 i)

def checker3 (s : State) (i : In) : Bool :=
  checker3_1 s i || checker3_2 ||
    (checker3_3a s i && s.checker3_3b_1 && checker3_3c i) ||
    ((checker3_4 i || (checker3_5 s i && checker3_5b s i)) &&
      (checker3_6 i || checker3_7 s i))

/-! ## Checker 5: loaded data -/

def oaoew5_1 (s : State) : In → AlwaysOnEdge.In :=
  onEdge In.enable (fun i ↦ (i.exInsn &&& 0xF0000000#32) == 0x80000000#32)
    (fun i ↦ !(s.specXorReg != 0#32 && (i.gprWrittenData ^^^ i.dcpuDatI) != 0#32))

def checker5_1 (s : State) (i : In) : Bool := AlwaysOnEdge.out s.oaoew5_1 (oaoew5_1 s i)

def checker5_2 (i : In) : Bool :=
  Always.out (level In.enable (fun i ↦ (i.exInsn &&& opcodeMask) == 0x8C000000#32) i)

def checker5 (s : State) (i : In) : Bool := checker5_1 s i && checker5_2 i

/-! ## Checkers 8 and 9: changes of privilege -/

def oaoew8_1 : In → AlwaysOnEdge.In :=
  onEdge In.enable (fun i ↦ i.sr.getLsbD srSm) (fun i ↦ i.rst != false)

def oaoew8_2 : In → AlwaysOnEdge.In :=
  onEdge In.enable (fun i ↦ i.sr.getLsbD srSm) atVector

def checker8_1 (s : State) (i : In) : Bool := AlwaysOnEdge.out s.oaoew8_1 (oaoew8_1 i)

def checker8_2 (s : State) (i : In) : Bool := AlwaysOnEdge.out s.oaoew8_2 (oaoew8_2 i)

def checker8 (s : State) (i : In) : Bool := checker8_1 s i && checker8_2 s i

def oaoew9_1 : In → AlwaysOnEdge.In :=
  onEdge In.enable (fun i ↦ (i.exInsn &&& opcodeMask) == or32Rfe ++ 0#26)
    (fun i ↦ i.sr.getLsbD srSm == i.esr.getLsbD srSm)

def oaoew9_2 : In → AlwaysOnEdge.In :=
  onEdge In.enable
    (fun i ↦ (i.exInsn &&& (opcodeMask ||| kMask)) == or32Mtspr ++ 0#15 ++ sprSr)
    (fun i ↦ i.sr.getLsbD srSm == i.operandB.getLsbD srSm)

def checker9_1 (s : State) (i : In) : Bool := AlwaysOnEdge.out s.oaoew9_1 (oaoew9_1 i)

def checker9_2 (s : State) (i : In) : Bool := AlwaysOnEdge.out s.oaoew9_2 (oaoew9_2 i)

def checker9 (s : State) (i : In) : Bool := checker9_1 s i || checker9_2 s i

/-! ## Checker 13: control flow -/

/-- Ports of the delta checker, whose clock is `clk & enable`. -/
def odw13_1 (i : In) : Delta.In 32 4 := ⟨i.rst, 0#4, 4#4, i.exPc, false⟩

def checker13_1 (s : State) (i : In) : Bool := Delta.out s.odw13_1 (odw13_1 i)

def checker13_2 (i : In) : Bool :=
  Always.out (level In.enable (fun i ↦ i.exInsn.extractLsb' 28 4 == 0x0#4) i)

def checker13_3 (i : In) : Bool :=
  Always.out (level In.enable (fun i ↦ i.exInsn.extractLsb' 28 4 == 0x4#4) i)

def checker13_4 (i : In) : Bool :=
  Always.out (level In.enable (fun i ↦ i.exInsn.extractLsb' 26 6 == 0x04#6) i)

def checker13_5 (i : In) : Bool :=
  Always.out (level In.enable (fun i ↦ i.exInsn.extractLsb' 26 6 == 0x09#6) i)

def opw13_6 (i : In) : Proposition.In := ⟨i.rst, i.enable, atVector i, false⟩

def checker13_6 (i : In) : Bool := Proposition.out (opw13_6 i)

def checker13 (s : State) (i : In) : Bool :=
  checker13_1 s i && s.checker13_2_1 && s.checker13_3_1 && s.checker13_4_1 &&
    checker13_5 i && checker13_6 i

/-! ## Checker 15: return from exception -/

def oaoew15_1 : In → AlwaysOnEdge.In :=
  onEdge In.enable (fun i ↦ (i.exInsn &&& opcodeMask) == 0x24000000#32)
    (fun i ↦ i.sr == i.esr)

def onw15_2 : In → Next.In 3 :=
  nextOne (fun i ↦ (i.exInsn &&& opcodeMask) == 0x24000000#32)
    (fun i ↦ i.exPc == i.epcr)

def checker15_1 (s : State) (i : In) : Bool := AlwaysOnEdge.out s.oaoew15_1 (oaoew15_1 i)

def checker15_2 (s : State) (i : In) : Bool := Next.out s.onw15_2 (onw15_2 i)

def checker15_3 (i : In) : Bool := Always.out (level In.enable atVector i)

def checker15 (s : State) (i : In) : Bool :=
  checker15_1 s i || (checker15_2 s i && checker15_3 i)

/-! ## Checker 16: register targets, all on the plain clock -/

def oaoew16_1 : In → AlwaysOnEdge.In :=
  onEdge always1 (fun i ↦ i.gprWrittenTo) (fun i ↦ (i.exInsn &&& 0xC0000000#32) == 0x80000000#32)

def oaoew16_2 : In → AlwaysOnEdge.In :=
  onEdge always1 (fun i ↦ i.gprWrittenTo) (fun i ↦ (i.exInsn &&& opcodeMask) == 0x18000000#32)

def oaoew16_3 : In → AlwaysOnEdge.In :=
  onEdge always1 (fun i ↦ i.gprWrittenTo) (fun i ↦ (i.exInsn &&& opcodeMask) == 0xE0000000#32)

def oaoew16_4 : In → AlwaysOnEdge.In :=
  onEdge always1 (fun i ↦ i.gprWrittenTo)
    (fun i ↦ (i.exInsn &&& targetMask) == 0#6 ++ i.gprWrittenAddr ++ 0#21)

def oaoew16_5 : In → AlwaysOnEdge.In :=
  onEdge always1 (fun i ↦ i.gprWrittenTo) (fun i ↦ i.gprWrittenAddr == 9#5)

def checker16_1 (s : State) (i : In) : Bool := AlwaysOnEdge.out s.oaoew16_1 (oaoew16_1 i)

def checker16_2 (s : State) (i : In) : Bool := AlwaysOnEdge.out s.oaoew16_2 (oaoew16_2 i)

def checker16_3 (s : State) (i : In) : Bool := AlwaysOnEdge.out s.oaoew16_3 (oaoew16_3 i)

def checker16_4 (s : State) (i : In) : Bool := AlwaysOnEdge.out s.oaoew16_4 (oaoew16_4 i)

def checker16_5 (s : State) (i : In) : Bool := AlwaysOnEdge.out s.oaoew16_5 (oaoew16_5 i)

def checker16_6 (i : In) : Bool :=
  Always.out (level always1 (fun i ↦ (i.exInsn &&& opcodeMask) == 0x04000000#32) i)

def checker16_7 (i : In) : Bool :=
  Always.out (level always1 (fun i ↦ (i.exInsn &&& opcodeMask) == 0x48000000#32) i)

def checker16 (s : State) (i : In) : Bool :=
  ((checker16_1 s i && checker16_2 s i && checker16_3 s i) || checker16_4 s i) &&
    (checker16_5 s i || (checker16_6 i && checker16_7 i))

/-! ## Checkers 18 and 19 -/

def onw18_1 : In → Next.In 3 :=
  nextOne (fun i ↦ (i.exInsn &&& 0xFFFF0000#32) == 0x20000000#32)
    (fun i ↦ i.exPc == 0x00000C00#32)

def onw18_2 : In → Next.In 3 :=
  nextOne (fun i ↦ (i.exInsn &&& 0xFFFF0000#32) == 0x21000000#32)
    (fun i ↦ i.exPc == 0x00000E00#32)

def checker18_1 (s : State) (i : In) : Bool := Next.out s.onw18_1 (onw18_1 i)

def checker18_2 (s : State) (i : In) : Bool := Next.out s.onw18_2 (onw18_2 i)

def checker18 (s : State) (i : In) : Bool := checker18_1 s i || checker18_2 s i

def checker19 (s : State) (i : In) : Bool := checker3 s i && checker13_1 s i

/-! ## Output and clock edge -/

def checkersFired (s : State) (i : In) : BitVec 32 :=
  0#12 ++ BitVec.ofBool (checker19 s i) ++ BitVec.ofBool (checker18 s i) ++ 0#1 ++
    BitVec.ofBool (checker16 s i) ++ BitVec.ofBool (checker15 s i) ++ 0#1 ++
    BitVec.ofBool (checker13 s i) ++ 0#3 ++ BitVec.ofBool (checker9 s i) ++
    BitVec.ofBool (checker8 s i) ++ 0#2 ++ BitVec.ofBool (checker5 s i) ++ 0#1 ++
    BitVec.ofBool (checker3 s i) ++ 0#1 ++ BitVec.ofBool (checker1 i) ++ 0#1

/-- A register of the block that delays the checker 13 verdicts. -/
def delayed (i : In) (old new : Bool) : Bool :=
  if i.rst == true then false else if i.enable then new else old

def next (s : State) (i : In) : State where
  oaoew3_1 := AlwaysOnEdge.next s.oaoew3_1 (oaoew3_1 i)
  checker3_3b_1 := if i.rst == true then false else checker3_3b i
  oaoew3_3a := AlwaysOnEdge.next s.oaoew3_3a (oaoew3_3a i)
  oaoew3_5 := AlwaysOnEdge.next s.oaoew3_5 (oaoew3_5 i)
  oaoew3_5b := AlwaysOnEdge.next s.oaoew3_5b (oaoew3_5b i)
  oaoew3_7 := AlwaysOnEdge.next s.oaoew3_7 (oaoew3_7 i)
  specXorReg := i.gprWrittenData ^^^ i.dcpuDatI
  oaoew5_1 := AlwaysOnEdge.next s.oaoew5_1 (oaoew5_1 s i)
  oaoew8_1 := AlwaysOnEdge.next s.oaoew8_1 (oaoew8_1 i)
  oaoew8_2 := AlwaysOnEdge.next s.oaoew8_2 (oaoew8_2 i)
  oaoew9_1 := AlwaysOnEdge.next s.oaoew9_1 (oaoew9_1 i)
  oaoew9_2 := AlwaysOnEdge.next s.oaoew9_2 (oaoew9_2 i)
  odw13_1 := if i.enable then Delta.next s.odw13_1 (odw13_1 i) else s.odw13_1
  checker13_2_1 := delayed i s.checker13_2_1 (checker13_2 i)
  checker13_2_2 := delayed i s.checker13_2_2 s.checker13_2_1
  checker13_3_1 := delayed i s.checker13_3_1 (checker13_3 i)
  checker13_3_2 := delayed i s.checker13_3_2 s.checker13_3_1
  checker13_4_1 := delayed i s.checker13_4_1 (checker13_4 i)
  checker13_4_2 := delayed i s.checker13_4_2 s.checker13_4_1
  checker13_5_1 := delayed i s.checker13_5_1 (checker13_5 i)
  oaoew15_1 := AlwaysOnEdge.next s.oaoew15_1 (oaoew15_1 i)
  onw15_2 := Next.next 1 0 s.onw15_2 (onw15_2 i)
  oaoew16_1 := AlwaysOnEdge.next s.oaoew16_1 (oaoew16_1 i)
  oaoew16_2 := AlwaysOnEdge.next s.oaoew16_2 (oaoew16_2 i)
  oaoew16_3 := AlwaysOnEdge.next s.oaoew16_3 (oaoew16_3 i)
  oaoew16_4 := AlwaysOnEdge.next s.oaoew16_4 (oaoew16_4 i)
  oaoew16_5 := AlwaysOnEdge.next s.oaoew16_5 (oaoew16_5 i)
  onw18_1 := Next.next 1 0 s.onw18_1 (onw18_1 i)
  onw18_2 := Next.next 1 0 s.onw18_2 (onw18_2 i)

/-! ## Bits of the output -/

/-- Every bit of the output is one checker or tied to zero. -/
theorem checkersFired_getLsbD (s : State) (i : In) (n : ℕ) :
    (checkersFired s i).getLsbD n =
      match n with
      | 1 => checker1 i
      | 3 => checker3 s i
      | 5 => checker5 s i
      | 8 => checker8 s i
      | 9 => checker9 s i
      | 13 => checker13 s i
      | 15 => checker15 s i
      | 16 => checker16 s i
      | 18 => checker18 s i
      | 19 => checker19 s i
      | _ => false := by
  -- The widths have to be a sum, as the concatenation has them, to be split.
  have hwidth : 12 + 1 + 1 + 1 + 1 + 1 + 1 + 1 + 3 + 1 + 1 + 2 + 1 + 1 + 1 + 1 + 1 + 1 = 32 :=
    rfl
  have hcast : checkersFired s i = BitVec.cast hwidth
      (0#12 ++ BitVec.ofBool (checker19 s i) ++ BitVec.ofBool (checker18 s i) ++ 0#1 ++
        BitVec.ofBool (checker16 s i) ++ BitVec.ofBool (checker15 s i) ++ 0#1 ++
        BitVec.ofBool (checker13 s i) ++ 0#3 ++ BitVec.ofBool (checker9 s i) ++
        BitVec.ofBool (checker8 s i) ++ 0#2 ++ BitVec.ofBool (checker5 s i) ++ 0#1 ++
        BitVec.ofBool (checker3 s i) ++ 0#1 ++ BitVec.ofBool (checker1 i) ++ 0#1) := rfl
  rw [hcast, BitVec.getLsbD_cast]
  simp only [BitVec.getLsbD_append, BitVec.getLsbD_ofBool, BitVec.getLsbD_zero]
  by_cases h : n < 20
  · interval_cases n <;> simp
  · obtain ⟨k, rfl⟩ : ∃ k, n = k + 20 := ⟨n - 20, by omega⟩
    have hpos : ¬k + 20 < 1 := by omega
    simp [hpos, Nat.add_sub_assoc]

end Specs.BakedInAssertions
