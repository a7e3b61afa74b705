import Specs.Or1200.Defines
import Specs.Sync.Run
import Mathlib.Logic.Function.Basic

/-!
# Translation of fetch addresses

The instruction TLB keeps its match and translate registers in two RAMs with a
registered address.  What it delivers in a cycle, the permission bits among it,
belongs to the last address looked up before.  `or1200_immu_top` looks up the
address of every fetch while translation is on, and raises a miss or a fault in
the cycle after.
-/

namespace Specs.Or1200

open Specs.Sync

namespace Spram

variable {aw dw : ℕ}

structure In (aw dw : ℕ) where
  ce : Bool
  we : Bool
  addr : BitVec aw
  di : BitVec dw

structure State (aw dw : ℕ) where
  mem : BitVec aw → BitVec dw
  addrReg : BitVec aw

instance : Inhabited (State aw dw) := ⟨fun _ ↦ 0, 0⟩

def doq (s : State aw dw) : BitVec dw := s.mem s.addrReg

def next (s : State aw dw) (i : In aw dw) : State aw dw where
  mem := if i.we && i.ce then Function.update s.mem i.addr i.di else s.mem
  addrReg := if i.ce then i.addr else s.addrReg

theorem mem_next_of_we {i : In aw dw} (h : i.we = false) (s : State aw dw) :
    (next s i).mem = s.mem := by
  simp [next, h]

end Spram

namespace ImmuTlb

structure In where
  tlbEn : Bool
  vaddr : BitVec 32
  sprCs : Bool
  sprWrite : Bool
  sprAddr : BitVec 32
  sprDatI : BitVec 32
deriving Inhabited

structure State where
  mrRam : Spram.State itlbIndxw 14
  trRam : Spram.State itlbIndxw 22
deriving Inhabited

def tlbMrEn (i : In) : Bool := i.tlbEn || (i.sprCs && !i.sprAddr.getLsbD itlbTmAddr)
def tlbMrWe (i : In) : Bool := i.sprCs && i.sprWrite && !i.sprAddr.getLsbD itlbTmAddr
def tlbTrEn (i : In) : Bool := i.tlbEn || (i.sprCs && i.sprAddr.getLsbD itlbTmAddr)
def tlbTrWe (i : In) : Bool := i.sprCs && i.sprWrite && i.sprAddr.getLsbD itlbTmAddr

def tag (addr : BitVec 32) : BitVec itlbTagw := addr.extractLsb' itlbTagl itlbTagw

def indx (addr : BitVec 32) : BitVec itlbIndxw := addr.extractLsb' immuPs itlbIndxw

def tlbIndex (i : In) : BitVec itlbIndxw :=
  if i.sprCs then i.sprAddr.extractLsb' 0 itlbIndxw else indx i.vaddr

def tlbMrRamIn (i : In) : BitVec 14 :=
  tag i.sprDatI ++ i.sprDatI.extractLsb' itlbmrVBits 1

def tlbTrRamIn (i : In) : BitVec 22 :=
  i.sprDatI.extractLsb' immuPs 19 ++ i.sprDatI.extractLsb' itlbtrUxeBits 1 ++
    i.sprDatI.extractLsb' itlbtrSxeBits 1 ++ i.sprDatI.extractLsb' itlbtrCiBits 1

/-! ### Fields of the registers -/

def vpnOf (mr : BitVec 14) : BitVec itlbTagw := mr.extractLsb' 1 13
def vOf (mr : BitVec 14) : Bool := mr.getLsbD 0
def ppnOf (tr : BitVec 22) : BitVec 19 := tr.extractLsb' 3 19
def uxeOf (tr : BitVec 22) : Bool := tr.getLsbD 2
def sxeOf (tr : BitVec 22) : Bool := tr.getLsbD 1
def ciOf (tr : BitVec 22) : Bool := tr.getLsbD 0

def vpn (s : State) : BitVec itlbTagw := vpnOf (Spram.doq s.mrRam)
def v (s : State) : Bool := vOf (Spram.doq s.mrRam)
def ppn (s : State) : BitVec 19 := ppnOf (Spram.doq s.trRam)
def uxe (s : State) : Bool := uxeOf (Spram.doq s.trRam)
def sxe (s : State) : Bool := sxeOf (Spram.doq s.trRam)
def ci (s : State) : Bool := ciOf (Spram.doq s.trRam)

def hit (s : State) (i : In) : Bool := vpn s == tag i.vaddr && v s

def sprDatO (s : State) (i : In) : BitVec 32 :=
  if !i.sprWrite && !i.sprAddr.getLsbD itlbTmAddr then
    vpn s ++ tlbIndex i ++ 0#6 ++ 0#1 ++ 0#5 ++ BitVec.ofBool (v s)
  else if !i.sprWrite && i.sprAddr.getLsbD itlbTmAddr then
    ppn s ++ 0#5 ++ BitVec.ofBool (uxe s) ++ BitVec.ofBool (sxe s) ++ 0#4 ++
      BitVec.ofBool (ci s) ++ 0#1
  else 0#32

def next (s : State) (i : In) : State where
  mrRam := Spram.next s.mrRam ⟨tlbMrEn i, tlbMrWe i, tlbIndex i, tlbMrRamIn i⟩
  trRam := Spram.next s.trRam ⟨tlbTrEn i, tlbTrWe i, tlbIndex i, tlbTrRamIn i⟩

/-! ### Cycles without an SPR access -/

section

variable {i : In} (h : i.sprCs = false) (s : State)
include h

theorem trRam_mem_next : (next s i).trRam.mem = s.trRam.mem := by
  apply Spram.mem_next_of_we
  change (i.sprCs && i.sprWrite && i.sprAddr.getLsbD itlbTmAddr) = false
  rw [h, Bool.false_and, Bool.false_and]

theorem trRam_addrReg_next :
    (next s i).trRam.addrReg = if i.tlbEn then indx i.vaddr else s.trRam.addrReg := by
  have hen : tlbTrEn i = i.tlbEn := by rw [tlbTrEn, h, Bool.false_and, Bool.or_false]
  have hindex : tlbIndex i = indx i.vaddr := by rw [tlbIndex, h, if_neg Bool.false_ne_true]
  change (if tlbTrEn i then tlbIndex i else s.trRam.addrReg) = _
  rw [hen, hindex]

end

end ImmuTlb

namespace Immu

structure In where
  rst : Bool
  immuEn : Bool
  supv : Bool
  icpuAdrI : BitVec 32
  icpuCycstbI : Bool
  sprCs : Bool
  sprWrite : Bool
  sprAddr : BitVec 32
  sprDatI : BitVec 32
  qmemimmuRtyI : Bool
  qmemimmuErrI : Bool
  qmemimmuTagI : BitVec 4
deriving Inhabited

structure State where
  icpuAdrDefault : BitVec 32
  icpuAdrSelect : Bool
  icpuVpnR : BitVec 19
  itlbEnR : Bool
  disSprAccessFrstClk : Bool
  disSprAccessScndClk : Bool
  sprDatReg : BitVec 32
  tlb : ImmuTlb.State
deriving Inhabited

def icpuAdrO (s : State) : BitVec 32 := if s.icpuAdrSelect then bootAdr else s.icpuAdrDefault

def pageCross (s : State) (i : In) : Bool := i.icpuAdrI.extractLsb' immuPs 19 != s.icpuVpnR

def itlbSprAccess (s : State) (i : In) : Bool := i.sprCs && !s.disSprAccessScndClk

def itlbEn (i : In) : Bool := i.immuEn && i.icpuCycstbI

def tlbIn (s : State) (i : In) : ImmuTlb.In where
  tlbEn := itlbEn i
  vaddr := i.icpuAdrI
  sprCs := itlbSprAccess s i
  sprWrite := i.sprWrite
  sprAddr := i.sprAddr
  sprDatI := i.sprDatI

theorem tlbIn_sprCs {i : In} (h : i.sprCs = false) (s : State) : (tlbIn s i).sprCs = false := by
  rw [tlbIn, itlbSprAccess, h, Bool.false_and]

def itlbUxe (s : State) : Bool := ImmuTlb.uxe s.tlb

def itlbSxe (s : State) : Bool := ImmuTlb.sxe s.tlb

def itlbDone (s : State) (i : In) : Bool := s.itlbEnR && !pageCross s i

def fault (s : State) (i : In) : Bool :=
  itlbDone s i && ((!i.supv && !itlbUxe s) || (i.supv && !itlbSxe s))

def miss (s : State) (i : In) : Bool := itlbDone s i && !ImmuTlb.hit s.tlb (tlbIn s i)

def icpuTagO (s : State) (i : In) : BitVec 4 :=
  if miss s i then itagTe else if fault s i then itagPe else i.qmemimmuTagI

def icpuRtyO (i : In) : Bool := i.qmemimmuRtyI

def icpuErrO (s : State) (i : In) : Bool := miss s i || fault s i || i.qmemimmuErrI

def qmemimmuCycstbO (s : State) (i : In) : Bool :=
  if i.immuEn then
    !(miss s i || fault s i) && i.icpuCycstbI && !pageCross s i && itlbDone s i &&
      !itlbSprAccess s i
  else i.icpuCycstbI && !pageCross s i

def qmemimmuCiO (s : State) (i : In) : Bool := if i.immuEn then ImmuTlb.ci s.tlb else immuCi

def qmemimmuAdrO (s : State) (i : In) : BitVec 32 :=
  (if i.immuEn && itlbDone s i then ImmuTlb.ppn s.tlb else s.icpuVpnR) ++
    i.icpuAdrI.extractLsb' 2 11 ++ 0#2

def sprDatO (s : State) (i : In) : BitVec 32 :=
  if itlbSprAccess s i then ImmuTlb.sprDatO s.tlb (tlbIn s i) else s.sprDatReg

def next (s : State) (i : In) : State where
  icpuAdrDefault :=
    if i.rst then 0x00000100#32 else if s.icpuAdrSelect then bootAdr else i.icpuAdrI
  icpuAdrSelect := i.rst
  icpuVpnR := if i.rst then 0#19 else i.icpuAdrI.extractLsb' immuPs 19
  itlbEnR := if i.rst then false else itlbEn i && !itlbSprAccess s i
  disSprAccessFrstClk :=
    if i.rst then false
    else if !icpuRtyO i then false
    else if i.sprCs then true
    else s.disSprAccessFrstClk
  disSprAccessScndClk :=
    if i.rst then false
    else if !icpuRtyO i then false
    else if s.disSprAccessFrstClk then true
    else s.disSprAccessScndClk
  sprDatReg :=
    if i.rst then 0#32
    else if i.sprCs && !s.disSprAccessScndClk then ImmuTlb.sprDatO s.tlb (tlbIn s i)
    else s.sprDatReg
  tlb := ImmuTlb.next s.tlb (tlbIn s i)

end Immu

end Specs.Or1200
