import Specs.Or1200.Defines

/-!
# Load/store unit

The unit adds the two low bits of an address while the instruction is in ID, and the
others while it is in EX.  A word of the bus has four byte lanes, the high byte at the
lowest address; loads and stores of bytes and half words are aligned on both ways.
-/

namespace Specs.Or1200

/-! ## Alignment of data -/

namespace Mem2reg

def aligned (addr : BitVec 2) (memdata : BitVec 32) : BitVec 32 :=
  if addr = 0b00#2 then memdata
  else if addr = 0b01#2 then memdata.extractLsb' 0 24 ++ 0#8
  else if addr = 0b10#2 then memdata.extractLsb' 0 16 ++ 0#16
  else memdata.extractLsb' 0 8 ++ 0#24

def regdata (addr : BitVec 2) (lsuOp : BitVec 4) (memdata : BitVec 32) : BitVec 32 :=
  if lsuOp = lsuopLbz then 0#24 ++ (aligned addr memdata).extractLsb' 24 8
  else if lsuOp = lsuopLbs then
    (if (aligned addr memdata).getLsbD 31 then BitVec.allOnes 24 else 0#24) ++
      (aligned addr memdata).extractLsb' 24 8
  else if lsuOp = lsuopLhz then 0#16 ++ (aligned addr memdata).extractLsb' 16 16
  else if lsuOp = lsuopLhs then
    (if (aligned addr memdata).getLsbD 31 then BitVec.allOnes 16 else 0#16) ++
      (aligned addr memdata).extractLsb' 16 16
  else aligned addr memdata

end Mem2reg

namespace Reg2mem

variable (addr : BitVec 2) (lsuOp : BitVec 4) (regdata : BitVec 32)

def memdataHh : BitVec 8 :=
  if lsuOp = lsuopSb ∧ addr = 0b00#2 then regdata.extractLsb' 0 8
  else if lsuOp = lsuopSh ∧ addr = 0b00#2 then regdata.extractLsb' 8 8
  else regdata.extractLsb' 24 8

def memdataHl : BitVec 8 :=
  if lsuOp = lsuopSw ∧ addr = 0b00#2 then regdata.extractLsb' 16 8 else regdata.extractLsb' 0 8

def memdataLh : BitVec 8 :=
  if lsuOp = lsuopSb ∧ addr = 0b10#2 then regdata.extractLsb' 0 8 else regdata.extractLsb' 8 8

def memdataLl : BitVec 8 := regdata.extractLsb' 0 8

def memdata : BitVec 32 :=
  memdataHh addr lsuOp regdata ++ memdataHl addr lsuOp regdata ++ memdataLh addr lsuOp regdata ++
    memdataLl regdata

end Reg2mem

/-! ## The unit -/

namespace Lsu

structure In where
  rst : Bool
  idAddrbase : BitVec 32
  exAddrbase : BitVec 32
  idAddrofs : BitVec 32
  exAddrofs : BitVec 32
  idLsuOp : BitVec 4
  lsuDatain : BitVec 32
  duStall : Bool
  idFreeze : Bool
  exFreeze : Bool
  flushpipe : Bool
  dcpuDatI : BitVec 32
  dcpuAckI : Bool
  dcpuRtyI : Bool
  dcpuErrI : Bool
  dcpuTagI : BitVec 4
deriving Inhabited

structure State where
  exLsuOp : BitVec 4
  dcpuAdrR : BitVec 3
  exceptAlign : Bool
deriving DecidableEq, Inhabited

/-- Decoding of `id_lsu_op` in `or1200_ctrl`. -/
def idLsuOp (idInsn : BitVec 32) : BitVec 4 :=
  if opcode idInsn = or32Lwz then lsuopLwz
  else if opcode idInsn = or32Lws then lsuopLws
  else if opcode idInsn = or32Lbz then lsuopLbz
  else if opcode idInsn = or32Lbs then lsuopLbs
  else if opcode idInsn = or32Lhz then lsuopLhz
  else if opcode idInsn = or32Lhs then lsuopLhs
  else if opcode idInsn = or32Sw then lsuopSw
  else if opcode idInsn = or32Sb then lsuopSb
  else if opcode idInsn = or32Sh then lsuopSh
  else lsuopNop

/-- The sum of the two low bits, with its carry. -/
def precalcSum (addrbase addrofs : BitVec 32) : BitVec 3 :=
  (addrbase.extractLsb' 0 2).setWidth 3 + (addrofs.extractLsb' 0 2).setWidth 3

def idPrecalcSum (i : In) : BitVec 3 := precalcSum i.idAddrbase i.idAddrofs

/-- Half words and words at addresses that they may not have. -/
def misaligned (lsuOp : BitVec 4) (sum : BitVec 3) : Bool :=
  ((lsuOp == lsuopSh || lsuOp == lsuopLhz || lsuOp == lsuopLhs) && sum.getLsbD 0) ||
    ((lsuOp == lsuopSw || lsuOp == lsuopLwz || lsuOp == lsuopLws) && sum.extractLsb' 0 2 != 0#2)

def dcpuAdrO (s : State) (i : In) : BitVec 32 :=
  (i.exAddrbase.extractLsb' 2 30 +
      (i.exAddrofs.extractLsb' 2 30 + (s.dcpuAdrR.extractLsb' 2 1).setWidth 30)) ++
    s.dcpuAdrR.extractLsb' 0 2

def lsuUnstall (i : In) : Bool := i.dcpuAckI

def dcpuCycstbO (s : State) (i : In) : Bool :=
  if i.duStall || lsuUnstall i || s.exceptAlign then false else s.exLsuOp != 0#4

def lsuStall (s : State) (i : In) : Bool := i.dcpuRtyI && dcpuCycstbO s i

def exceptDtlbmiss (i : In) : Bool := i.dcpuErrI && i.dcpuTagI == dtagTe

def exceptDmmufault (i : In) : Bool := i.dcpuErrI && i.dcpuTagI == dtagPe

def exceptDbuserr (i : In) : Bool := i.dcpuErrI && i.dcpuTagI == dtagBe

def dcpuWeO (s : State) : Bool := s.exLsuOp.getLsbD 3

def dcpuTagO (s : State) (i : In) : BitVec 4 := if dcpuCycstbO s i then dtagNd else dtagIdle

/-- The byte lanes of an access, by the two low bits of its address. -/
def lanes (lsuOp : BitVec 4) (addr : BitVec 2) : BitVec 4 :=
  if lsuOp = lsuopSb ∨ lsuOp = lsuopLbz ∨ lsuOp = lsuopLbs then
    if addr = 0b00#2 then 0b1000#4
    else if addr = 0b01#2 then 0b0100#4
    else if addr = 0b10#2 then 0b0010#4
    else 0b0001#4
  else if lsuOp = lsuopSh ∨ lsuOp = lsuopLhz ∨ lsuOp = lsuopLhs then
    if addr = 0b00#2 then 0b1100#4
    else if addr = 0b10#2 then 0b0011#4
    else 0b0000#4
  else if lsuOp = lsuopSw ∨ lsuOp = lsuopLwz ∨ lsuOp = lsuopLws then
    if addr = 0b00#2 then 0b1111#4 else 0b0000#4
  else 0b0000#4

def dcpuSelO (s : State) (i : In) : BitVec 4 :=
  lanes s.exLsuOp ((dcpuAdrO s i).extractLsb' 0 2)

def lsuDataout (s : State) (i : In) : BitVec 32 :=
  Mem2reg.regdata ((dcpuAdrO s i).extractLsb' 0 2) s.exLsuOp i.dcpuDatI

def dcpuDatO (s : State) (i : In) : BitVec 32 :=
  Reg2mem.memdata ((dcpuAdrO s i).extractLsb' 0 2) s.exLsuOp i.lsuDatain

def voidsEx (i : In) : Bool := (!i.exFreeze && i.idFreeze) || i.flushpipe

def next (s : State) (i : In) : State where
  exLsuOp :=
    if i.rst then lsuopNop
    else if voidsEx i then lsuopNop
    else if !i.exFreeze then i.idLsuOp
    else s.exLsuOp
  dcpuAdrR :=
    if i.rst then 0
    else if !i.exFreeze then idPrecalcSum i
    else s.dcpuAdrR
  exceptAlign :=
    if i.rst then false
    else if voidsEx i then false
    else if !i.exFreeze then misaligned i.idLsuOp (idPrecalcSum i)
    else s.exceptAlign

end Lsu

end Specs.Or1200
