import Specs.Bits.Memory
import Specs.Or1200.Machine

/-!
# Sequential machine with a memory

The sequential machine with its loads and stores.  Only the special-purpose registers are
left outside.
-/

namespace Specs.Or1200.Isa

open Specs.Bits

/-! ## Accesses -/

inductive Size
  | byte
  | half
  | word
deriving DecidableEq

def Size.bytes : Size → ℕ
  | .byte => 1
  | .half => 2
  | .word => 4

inductive Access
  | load (size : Size) (signed : Bool)
  | store (size : Size)
deriving DecidableEq

def Access.size : Access → Size
  | .load size _ => size
  | .store size => size

def access (insn : BitVec 32) : Option Access :=
  if opcode insn = or32Lwz then some (.load .word false)
  else if opcode insn = or32Lws then some (.load .word true)
  else if opcode insn = or32Lbz then some (.load .byte false)
  else if opcode insn = or32Lbs then some (.load .byte true)
  else if opcode insn = or32Lhz then some (.load .half false)
  else if opcode insn = or32Lhs then some (.load .half true)
  else if opcode insn = or32Sw then some (.store .word)
  else if opcode insn = or32Sb then some (.store .byte)
  else if opcode insn = or32Sh then some (.store .half)
  else none

def extend (signed : Bool) {n : ℕ} (v : BitVec n) : BitVec 32 :=
  if signed then v.signExtend 32 else v.setWidth 32

/-! ## Execution -/

structure Computer where
  machine : Machine
  memory : Memory 32

/-- An instruction, its address and what `l.mfspr` gets. -/
structure Issued where
  insn : BitVec 32
  pc : BitVec 32
  special : BitVec 32
deriving DecidableEq

def address (m : Machine) (insn : BitVec 32) : BitVec 32 := sourceA m insn + Ctrl.idSimm insn

/-- What a load finds. -/
def loaded (c : Computer) (insn : BitVec 32) : BitVec 32 :=
  match access insn with
  | some (.load size signed) =>
      extend signed (c.memory.read (address c.machine insn) size.bytes)
  | _ => 0

/-- The memory after an instruction. -/
def stored (c : Computer) (insn : BitVec 32) : Memory 32 :=
  match access insn with
  | some (.store size) =>
      c.memory.write (address c.machine insn) size.bytes
        ((sourceB c.machine insn).setWidth (8 * size.bytes))
  | _ => c.memory

def Computer.execute (c : Computer) (r : Issued) : Computer where
  machine := c.machine.execute ⟨r.insn, r.pc, loaded c r.insn, r.special⟩
  memory := stored c r.insn

end Specs.Or1200.Isa
