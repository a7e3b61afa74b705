import Specs.Or1200.Defines

/-!
# Register file

`or1200_rf` keeps two copies of the general registers, one for each read port.
A write comes from the write-back stage or from an SPR access, goes to both
copies, and is blocked while a violation is raised or pending.
-/

namespace Specs.Or1200

namespace Dpram

variable {aw dw : ℕ}

structure In (aw dw : ℕ) where
  ceA : Bool
  addrA : BitVec aw
  ceB : Bool
  weB : Bool
  addrB : BitVec aw
  diB : BitVec dw

structure State (aw dw : ℕ) where
  mem : BitVec aw → BitVec dw
  addrAReg : BitVec aw

instance : Inhabited (State aw dw) := ⟨fun _ ↦ 0, 0⟩

def doA (s : State aw dw) : BitVec dw := s.mem s.addrAReg

def next (s : State aw dw) (i : In aw dw) : State aw dw where
  mem := if i.ceB && i.weB then Function.update s.mem i.addrB i.diB else s.mem
  addrAReg := if i.ceA then i.addrA else s.addrAReg

theorem mem_next_of_ceB {i : In aw dw} (h : i.ceB = false) (s : State aw dw) :
    (next s i).mem = s.mem := by
  simp [next, h]

end Dpram

namespace Rf

structure In where
  rst : Bool
  cyWeI : Bool
  wbFreeze : Bool
  addrw : BitVec 5
  dataw : BitVec 32
  we : Bool
  flushpipe : Bool
  idFreeze : Bool
  addra : BitVec 5
  addrb : BitVec 5
  rda : Bool
  rdb : Bool
  sprCs : Bool
  sprWrite : Bool
  sprAddr : BitVec 32
  sprDatI : BitVec 32
  duRead : Bool
  spExceptionComb : Bool
deriving Inhabited

structure State where
  rfA : Dpram.State 5 32
  rfB : Dpram.State 5 32
  addraLast : BitVec 5
  sprDuCs : Bool
  rfWeAllow : Bool
deriving Inhabited

def sprCsFe (s : State) (i : In) : Bool := s.sprDuCs && !(i.sprCs && i.duRead)

def sprValid (i : In) : Bool := i.sprCs && i.sprAddr.extractLsb' 5 6 == sprRf

def rfAddra (s : State) (i : In) : BitVec 5 :=
  if sprValid i && !i.sprWrite then i.sprAddr.extractLsb' 0 5
  else if sprCsFe s i then s.addraLast else i.addra

/-- The write address, which is also the output `gpr_written_addr`. -/
def rfAddrw (i : In) : BitVec 5 :=
  if sprValid i && i.sprWrite then i.sprAddr.extractLsb' 0 5 else i.addrw

/-- The write data, which is also the output `gpr_written_data`. -/
def rfDataw (i : In) : BitVec 32 :=
  if rfAddrw i == 0#5 then 0
  else if sprValid i && i.sprWrite then i.sprDatI else i.dataw

/-- The write strobe, which is also the output `gpr_written_to`. -/
def rfWe (s : State) (i : In) : Bool :=
  ((sprValid i && i.sprWrite) || (i.we && !i.wbFreeze)) && s.rfWeAllow

def cyWeO (s : State) (i : In) : Bool := i.cyWeI && !i.wbFreeze && s.rfWeAllow

def rfEna (s : State) (i : In) : Bool :=
  (i.rda && !i.idFreeze) || (sprValid i && !i.sprWrite) || sprCsFe s i

def rfEnb (i : In) : Bool := i.rdb && !i.idFreeze

def port (en : Bool) (addr : BitVec 5) (s : State) (i : In) : Dpram.In 5 32 where
  ceA := en
  addrA := addr
  ceB := rfWe s i && !i.spExceptionComb
  weB := rfWe s i && !i.spExceptionComb
  addrB := rfAddrw i
  diB := rfDataw i

def dataa (s : State) : BitVec 32 := Dpram.doA s.rfA

def datab (s : State) : BitVec 32 := Dpram.doA s.rfB

def next (s : State) (i : In) : State where
  rfA := Dpram.next s.rfA (port (rfEna s i) (rfAddra s i) s i)
  rfB := Dpram.next s.rfB (port (rfEnb i) i.addrb s i)
  addraLast :=
    if rfEna s i && !(sprCsFe s i || (i.duRead && i.sprCs)) then i.addra else s.addraLast
  sprDuCs := i.sprCs && i.duRead
  rfWeAllow :=
    if i.rst then true else if !i.wbFreeze then !i.flushpipe else s.rfWeAllow

def gprs (s : State) : (BitVec 5 → BitVec 32) × (BitVec 5 → BitVec 32) :=
  (s.rfA.mem, s.rfB.mem)

/-- What a cycle writes into the two copies, if anything. -/
def written (s : State) (i : In) : Option (BitVec 5 × BitVec 32) :=
  if rfWe s i && !i.spExceptionComb then some (rfAddrw i, rfDataw i) else none

theorem mem_next_port (m : Dpram.State 5 32) (en : Bool) (addr : BitVec 5) (s : State) (i : In) :
    (Dpram.next m (port en addr s i)).mem =
      match written s i with
      | some (a, d) => Function.update m.mem a d
      | none => m.mem := by
  rw [written]
  cases hwe : rfWe s i && !i.spExceptionComb <;> simp [Dpram.next, port, hwe]

/-- Nothing but zero is written into `r0`. -/
theorem mem_zero_next_port {m : Dpram.State 5 32} (h : m.mem 0#5 = 0#32) (en : Bool)
    (addr : BitVec 5) (s : State) (i : In) :
    (Dpram.next m (port en addr s i)).mem 0#5 = 0#32 := by
  rw [mem_next_port, written]
  split
  · next a d hwritten =>
      split at hwritten
      · obtain ⟨rfl, rfl⟩ := Prod.mk.inj (Option.some.inj hwritten)
        by_cases haddr : 0#5 = rfAddrw i
        · rw [haddr, Function.update_self, rfDataw, ← haddr]
          rfl
        · rw [Function.update_of_ne haddr, h]
      · cases hwritten
  · exact h

/-- The general registers after a cycle depend on what it writes. -/
theorem gprs_next_congr {s : State} {i i' : In} (h : written s i = written s i') :
    gprs (next s i) = gprs (next s i') := by
  simp only [gprs, next, mem_next_port, h]

theorem gprs_next_of_spExceptionComb {i : In} (h : i.spExceptionComb = true) (s : State) :
    gprs (next s i) = gprs s := by
  have hport : ∀ en addr, (port en addr s i).ceB = false := by
    intro en addr
    simp [port, h]
  rw [gprs, gprs, next, Dpram.mem_next_of_ceB (hport _ _), Dpram.mem_next_of_ceB (hport _ _)]

end Rf

end Specs.Or1200
