import Specs.Or1200.Computer

/-!
# Sequential machine with a program

The sequential machine takes its instructions from a memory of its own.  A branch takes
effect one instruction later, so the state has the addresses of the next two instructions.
Addresses of instructions are counted in words.
-/

namespace Specs.Or1200.Isa

/-- Where an instruction branches to, if it does. -/
def target (m : Machine) (insn : BitVec 32) (pc : BitVec 30) : Option (BitVec 30) :=
  if opcode insn = or32J ∨ opcode insn = or32Jal then some (Ctrl.branchOffset insn + pc)
  else if opcode insn = or32Jr ∨ opcode insn = or32Jalr then
    some ((sourceB m insn).extractLsb' 2 30)
  else if opcode insn = or32Bnf then
    if m.flag then none else some (Ctrl.branchOffset insn + pc)
  else if opcode insn = or32Bf then
    if m.flag then some (Ctrl.branchOffset insn + pc) else none
  else none

structure Processor where
  computer : Computer
  pc : BitVec 30
  npc : BitVec 30

/-- The instruction after the next one. -/
def Processor.nnpc (rom : BitVec 30 → BitVec 32) (p : Processor) : BitVec 30 :=
  (target p.computer.machine (rom p.pc) p.pc).getD (p.npc + 1)

/-- An instruction.  What `l.mfspr` gets comes from outside. -/
def Processor.step (rom : BitVec 30 → BitVec 32) (p : Processor) (special : BitVec 32) :
    Processor where
  computer := p.computer.execute ⟨rom p.pc, p.pc ++ 0#2, special⟩
  pc := p.npc
  npc := p.nnpc rom

end Specs.Or1200.Isa
