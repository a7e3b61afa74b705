import Specs.Or1200.Sprs

/-!
# The program counter

`or1200_genpc` selects the address of the next instruction: the next word, the
target of a branch, the saved counter of `l.rfe`, the entry of an exception, or a
value written by the debug unit.  An illegal instruction has an entry of its own,
and `l.rfe` in the region of its handler returns through the ghost register.
-/

namespace Specs.Or1200.Genpc

structure In where
  rst : Bool
  icpuRtyI : Bool
  icpuAdrI : BitVec 32
  branchOp : BitVec 3
  exceptType : BitVec 4
  exceptPrefix : Bool
  exBranchAddrtarget : BitVec 30
  operandB : BitVec 32
  flag : Bool
  exceptStart : Bool
  epcr : BitVec 32
  sprDatI : BitVec 32
  sprPcWe : Bool
  genpcRefetch : Bool
  genpcFreeze : Bool
  noMoreDslot : Bool
  exPc : BitVec 32
  spEpcrGhost : BitVec 32
deriving Inhabited

structure State where
  pcregDefault : BitVec 30
  pcregSelect : Bool
deriving DecidableEq, Inhabited

def pcreg (s : State) : BitVec 30 :=
  if s.pcregSelect then bootAdr.extractLsb' 2 30 else s.pcregDefault

def sequential (s : State) : BitVec 32 := (pcreg s + 1) ++ 0#2

def branchTarget (i : In) : BitVec 32 := i.exBranchAddrtarget ++ 0#2

/-- The entry of an exception. -/
def exceptEntry (exceptPrefix : Bool) (exceptType : BitVec 4) : BitVec 32 :=
  if exceptType = exceptIllegal then spIieAddr
  else (if exceptPrefix then exceptEph1P else exceptEph0P) ++ exceptType ++ exceptV

/-- The value and `ex_branch_taken`.  A branch operation that the source leaves to its
default branch gets the data of the debug unit, as there. -/
def select (s : State) (i : In) : BitVec 32 × Bool :=
  if i.sprPcWe then (i.sprDatI, false)
  else if i.exceptStart then (exceptEntry i.exceptPrefix i.exceptType, true)
  else if i.branchOp = branchopNop then (sequential s, false)
  else if i.branchOp = branchopJ then (branchTarget i, true)
  else if i.branchOp = branchopJr then (i.operandB, true)
  else if i.branchOp = branchopBf then
    if i.flag then (branchTarget i, true) else (sequential s, false)
  else if i.branchOp = branchopBnf then
    if i.flag then (sequential s, false) else (branchTarget i, true)
  else if i.branchOp = branchopRfe then
    (if Sprs.spIieAddrCompare i.exPc then i.spEpcrGhost else i.epcr, true)
  else (i.sprDatI, false)

def pc (s : State) (i : In) : BitVec 32 := (select s i).1

def exBranchTaken (s : State) (i : In) : Bool := (select s i).2

/-- The address of the fetch. -/
def icpuAdrO (s : State) (i : In) : BitVec 32 :=
  if !i.noMoreDslot && !i.exceptStart && !i.sprPcWe && (i.icpuRtyI || i.genpcRefetch) then
    i.icpuAdrI
  else
    (pc s i).extractLsb' 2 30 ++ 0#1 ++ BitVec.ofBool (exBranchTaken s i || i.sprPcWe)

def next (s : State) (i : In) : State where
  pcregDefault :=
    if i.rst then bootAdr.extractLsb' 2 30 - 4
    else if s.pcregSelect then bootAdr.extractLsb' 2 30
    else if i.sprPcWe then i.sprDatI.extractLsb' 2 30
    else if i.noMoreDslot || i.exceptStart ||
        (!i.genpcFreeze && !i.icpuRtyI && !i.genpcRefetch) then
      (pc s i).extractLsb' 2 30
    else s.pcregDefault
  pcregSelect := if i.rst then true else false

/-- No fetch is started while a branch in ID waits for a load or store before it. -/
def nextWaitLsu (waitLsu rst : Bool) (preBranchOp : BitVec 3) (lsuStall : Bool) : Bool :=
  if rst then false
  else if !waitLsu && preBranchOp != branchopNop && lsuStall then true
  else if waitLsu && preBranchOp == branchopNop then false
  else waitLsu

def icpuCycstbO (waitLsu genpcFreeze icpuRtyI : Bool) (preBranchOp : BitVec 3) : Bool :=
  !(genpcFreeze || (preBranchOp != branchopNop && !icpuRtyI) || waitLsu)

/-- `l.rfe` in the region of the handler continues at the ghost of EPCR. -/
theorem select_of_rfe {i : In} (hpc : i.sprPcWe = false) (hexc : i.exceptStart = false)
    (hop : i.branchOp = branchopRfe) (hregion : Sprs.spIieAddrCompare i.exPc = true)
    (s : State) : select s i = (i.spEpcrGhost, true) := by
  rw [select, hpc, hexc, hop, hregion]
  rfl

end Specs.Or1200.Genpc
