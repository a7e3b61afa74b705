import Specs.Or1200.Ctrl

/-!
# Instruction fetch

`or1200_if` hands the instruction word from the port to ID.  A word that comes while ID is
frozen is saved with its address, and a word that comes after it is asked for again.
-/

namespace Specs.Or1200.If

structure In where
  rst : Bool
  icpuDatI : BitVec 32
  icpuAckI : Bool
  icpuErrI : Bool
  icpuAdrI : BitVec 32
  icpuTagI : BitVec 4
  ifFreeze : Bool
  ifFlushpipe : Bool
  noMoreDslot : Bool
  rfe : Bool
deriving Inhabited

structure State where
  ifBypassReg : Bool
  insnSaved : BitVec 32
  addrSaved : BitVec 32
  errSaved : BitVec 3
  saved : Bool
deriving DecidableEq, Inhabited

/-! ## Wires -/

def saveInsn (s : State) (i : In) : Bool := (i.icpuAckI || i.icpuErrI) && i.ifFreeze && !s.saved

def savingIfInsn (s : State) (i : In) : Bool := !i.ifFlushpipe && saveInsn s i

def ifBypass (s : State) (i : In) : Bool :=
  if i.icpuAdrI.getLsbD 0 then false else s.ifBypassReg || i.ifFlushpipe

/-- The filler while nothing has been fetched. -/
def waitingInsn : BitVec 32 := or32Nop ++ 0x0610000#26

def ifInsn (s : State) (i : In) : BitVec 32 :=
  if i.noMoreDslot || i.rfe || ifBypass s i then Ctrl.voidInsn
  else if s.saved then s.insnSaved
  else if i.icpuAckI then i.icpuDatI
  else waitingInsn

def ifPc (s : State) (i : In) : BitVec 32 :=
  if s.saved then s.addrSaved else i.icpuAdrI.extractLsb' 2 30 ++ 0#2

def ifStall (s : State) (icpuErrI icpuAckI : Bool) : Bool := !icpuErrI && !icpuAckI && !s.saved

def genpcRefetch (s : State) (icpuAckI : Bool) : Bool := s.saved && icpuAckI

/-- The error of the port: a bus error, a page fault or a TLB miss. -/
def errTags (i : In) : BitVec 3 :=
  BitVec.ofBool (i.icpuErrI && i.icpuTagI == itagBe) ++
    BitVec.ofBool (i.icpuErrI && i.icpuTagI == itagPe) ++
    BitVec.ofBool (i.icpuErrI && i.icpuTagI == itagTe)

/-- The error of the word that goes to ID. -/
def ifErrors (s : State) (i : In) : BitVec 3 :=
  if i.noMoreDslot then 0 else if s.saved then s.errSaved else errTags i

def exceptItlbmiss (s : State) (i : In) : Bool := (ifErrors s i).getLsbD 0

def exceptImmufault (s : State) (i : In) : Bool := (ifErrors s i).getLsbD 1

def exceptIbuserr (s : State) (i : In) : Bool := (ifErrors s i).getLsbD 2

def next (s : State) (i : In) : State where
  ifBypassReg := if i.rst then false else ifBypass s i
  insnSaved :=
    if i.rst then Ctrl.voidInsn
    else if i.ifFlushpipe then Ctrl.voidInsn
    else if saveInsn s i then (if i.icpuErrI then Ctrl.voidInsn else i.icpuDatI)
    else if !i.ifFreeze then Ctrl.voidInsn
    else s.insnSaved
  addrSaved :=
    if i.rst then 0
    else if i.ifFlushpipe then 0
    else if saveInsn s i then i.icpuAdrI.extractLsb' 2 30 ++ 0#2
    else if !i.ifFreeze then i.icpuAdrI.extractLsb' 2 30 ++ 0#2
    else s.addrSaved
  errSaved :=
    if i.rst then 0
    else if i.ifFlushpipe then 0
    else if saveInsn s i then errTags i
    else if !i.ifFreeze then 0
    else s.errSaved
  saved :=
    if i.rst then false
    else if i.ifFlushpipe then false
    else if saveInsn s i then true
    else if !i.ifFreeze then false
    else s.saved

end Specs.Or1200.If
