import Specs.Fabric.Restart
import Specs.Or1200.Cpu

/-!
# The fabric while a violation is pending

A pending violation resets the fabric, and all checkers but one forget what they
saw.  The delta checker would need a tick of its gated clock for that, and the
pending violation stops this clock.  It keeps the address of the last completed
instruction.
-/

namespace Specs.Or1200.Cpu

open Specs.Sync BakedInAssertions

section

variable (s₀ : State) (tr : ResetTrace gate) {t : ℕ}

theorem odw13_1_next_of_gated {s : State} {i : In} (h : spExceptionGated s i = true) :
    (next s i).fabric.odw13_1 = s.fabric.odw13_1 := by
  have henable : (fabricIn s i).enable = false := insnClk_of_gated h
  simp [next, BakedInAssertions.next, henable]

end

/-- A reset cycle, a stream of the instruction `insn` at 0x2000, and in cycle 3 a
write of `r7`. -/
def writeInCycleThree (insn : BitVec 32) : ResetTrace gate where
  cycle t :=
    { (default : In) with
      ifInsn := insn
      backend := { (default : Backend.In) with
        rst := t == 0
        rf := { (default : Rf.In) with we := t == 3, addrw := 7#5 }
        sprs := { (default : Sprs.In) with exPc := 0x2000#32 } } }
  reset_first := rfl

def voidEx : State :=
  { (default : State) with ctrl := { (default : Ctrl.State) with exInsn := Ctrl.voidInsn } }

end Specs.Or1200.Cpu
