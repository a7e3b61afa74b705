import Specs.Or1200.Isa
import Specs.Or1200.Operands

/-!
# Sequential machine

The instructions one after the other, as the architecture has them, on the general
registers, the flag and the carry.  Addresses, memory and the special-purpose registers
are outside, so an event carries what an instruction gets from there.
-/

namespace Specs.Or1200.Isa

open Operands

/-- An instruction and what it gets from outside. -/
structure Retired where
  insn : BitVec 32
  pc : BitVec 32
  loaded : BitVec 32
  special : BitVec 32
deriving DecidableEq

structure Machine where
  regs : BitVec 5 → BitVec 32
  flag : Bool
  carry : Bool

def sourceA (m : Machine) (insn : BitVec 32) : BitVec 32 := m.regs (fieldA insn)

def sourceB (m : Machine) (insn : BitVec 32) : BitVec 32 :=
  if opcode insn ∈ registerOpcodes then m.regs (fieldB insn) else Ctrl.idSimm insn

/-! ## Flags -/

def below (signed : Bool) (a b : BitVec 32) : Bool :=
  if signed then decide (a.toInt < b.toInt) else decide (a.toNat < b.toNat)

def setsFlag (insn : BitVec 32) : Bool := opcode insn == or32Sfxx || opcode insn == or32Sfxxi

/-- The comparison of a set-flag instruction, by `insn[24:21]`. -/
def condition (insn a b : BitVec 32) : Bool :=
  match insn.extractLsb' 21 3 with
  | 0b000#3 => a == b
  | 0b001#3 => a != b
  | 0b010#3 => below (insn.getLsbD 24) b a
  | 0b011#3 => !below (insn.getLsbD 24) a b
  | 0b100#3 => below (insn.getLsbD 24) a b
  | 0b101#3 => !below (insn.getLsbD 24) b a
  | _ => false

/-- The carry of an operation.  After a subtraction it is the borrow of the numbers that
`insn[24]`, a bit of the target, says the operands are. -/
def carryOf (insn a b : BitVec 32) (carry : Bool) : Operation → Bool
  | .add => decide (2 ^ 32 ≤ a.toNat + b.toNat)
  | .addc => decide (2 ^ 32 ≤ a.toNat + b.toNat + carry.toNat)
  | .sub => below (insn.getLsbD 24) a b
  | _ => carry

/-! ## Execution -/

/-- What an instruction leaves for its target, if anything. -/
def value (m : Machine) (r : Retired) : Option (BitVec 32) :=
  if opcode r.insn = or32Jal ∨ opcode r.insn = or32Jalr then some (r.pc + 8)
  else if opcode r.insn = or32Mfspr then some r.special
  else if opcode r.insn ∈ loadOpcodes then some r.loaded
  else (operation r.insn).map (evaluate (sourceA m r.insn) (sourceB m r.insn) m.carry m.flag)

/-- `r0` is not written. -/
def write (regs : BitVec 5 → BitVec 32) (target : BitVec 5) :
    Option (BitVec 32) → BitVec 5 → BitVec 32
  | none => regs
  | some v => if target = 0#5 then regs else Function.update regs target v

def Machine.execute (m : Machine) (r : Retired) : Machine where
  regs := write m.regs (decodeRfAddrw r.insn) (value m r)
  flag :=
    if setsFlag r.insn then condition r.insn (sourceA m r.insn) (sourceB m r.insn) else m.flag
  carry :=
    match operation r.insn with
    | some op => carryOf r.insn (sourceA m r.insn) (sourceB m r.insn) m.carry op
    | none => m.carry

end Specs.Or1200.Isa
