import Specs.Or1200.Defines

/-!
# Wishbone interface

The unit between the data port and the Wishbone bus, where both have the same clock and
the termination counters stay at zero.  A transfer starts in the cycle after a strobe that
has been there for two cycles, and keeps what it has latched then until the bus ends it.
-/

namespace Specs.Or1200.WbBiu

structure In where
  rst : Bool
  wbAckI : Bool
  wbErrI : Bool
  wbRtyI : Bool
  wbDatI : BitVec 32
  biuDatI : BitVec 32
  biuAdrI : BitVec 32
  biuCycI : Bool
  biuStbI : Bool
  biuWeI : Bool
  biuSelI : BitVec 4
  biuCabI : Bool
deriving Inhabited

inductive Fsm
  | idle
  | trans
  | last
deriving DecidableEq, Inhabited

structure State where
  wbFsmState : Fsm
  wbAdrO : BitVec 32
  wbCycO : Bool
  wbStbO : Bool
  wbWeO : Bool
  wbSelO : BitVec 4
  wbDatO : BitVec 32
  wbCtiO : BitVec 3
  burstLen : BitVec 4
  biuStbReg : Bool
deriving DecidableEq, Inhabited

/-! ## Wires -/

def wbAck (i : In) : Bool := i.wbAckI && !i.wbErrI && !i.wbRtyI

def biuStb (s : State) (i : In) : Bool := i.biuStbI && s.biuStbReg

/-- The last word of a transfer has been taken, or the transfer has failed. -/
def ends (s : State) (i : In) : Bool :=
  (i.wbErrI || i.wbRtyI || wbAck i && s.wbCtiO == 0b111#3) && s.wbStbO

/-- A burst is not continued. -/
def breaks (s : State) (i : In) : Bool :=
  (!i.biuCycI || !biuStb s i || !i.biuCabI || i.biuSelI != s.wbSelO || i.biuWeI != s.wbWeO) &&
    s.wbCtiO == 0b010#3

def wbFsmStateNxt (s : State) (i : In) : Fsm :=
  match s.wbFsmState with
  | .idle => if i.biuCycI && biuStb s i then .trans else .idle
  | .trans => if breaks s i then .last else if ends s i then .idle else .trans
  | .last => if ends s i then .idle else .last

def wbCycNxt (s : State) (i : In) : Bool :=
  match s.wbFsmState with
  | .idle => i.biuCycI && biuStb s i
  | .trans | .last =>
      !s.wbStbO || !i.wbErrI && !i.wbRtyI && !(wbAck i && s.wbCtiO == 0b111#3)

def wbStbNxt (s : State) (i : In) : Bool :=
  match s.wbFsmState with
  | .idle => i.biuCycI && biuStb s i
  | .trans =>
      !s.wbStbO || !i.wbErrI && !i.wbRtyI && !wbAck i ||
        !i.wbErrI && !i.wbRtyI && s.wbCtiO == 0b010#3
  | .last => !s.wbStbO || !i.wbErrI && !i.wbRtyI && !(wbAck i && s.wbCtiO == 0b111#3)

/-- The type of a cycle, from its outer bits. -/
def cti (high low : Bool) : BitVec 3 := BitVec.ofBool high ++ 1#1 ++ BitVec.ofBool low

def wbCtiNxt (s : State) (i : In) : BitVec 3 :=
  match s.wbFsmState with
  | .idle => cti (!i.biuCabI) (!i.biuCabI)
  | .trans =>
      cti (s.wbStbO && wbAck i && s.burstLen == 0#4 || s.wbCtiO.getLsbD 2)
        (s.wbStbO && wbAck i && s.burstLen == 0#4 || s.wbCtiO.getLsbD 0)
  | .last =>
      cti (wbAck i && s.wbStbO || s.wbCtiO.getLsbD 2)
        (wbAck i && s.wbStbO || s.wbCtiO.getLsbD 0)

def biuDatO (i : In) : BitVec 32 := i.wbDatI

def biuAckO (s : State) (i : In) : Bool := s.wbFsmState == .trans && wbAck i && s.wbStbO

def biuErrO (s : State) (i : In) : Bool := s.wbFsmState == .trans && i.wbErrI && s.wbStbO

def next (s : State) (i : In) : State where
  wbFsmState := if i.rst then .idle else wbFsmStateNxt s i
  wbAdrO :=
    if i.rst then 0
    else if s.wbFsmState = .idle then i.biuAdrI
    else if s.wbStbO && wbAck i then
      s.wbAdrO.extractLsb' 4 28 ++ (s.wbAdrO.extractLsb' 2 2 + 1) ++ s.wbAdrO.extractLsb' 0 2
    else s.wbAdrO
  wbCycO := if i.rst then false else wbCycNxt s i
  wbStbO :=
    if i.rst then false
    else if wbAck i && s.wbCtiO == 0b111#3 then false
    else wbStbNxt s i
  wbWeO := if i.rst then false else if s.wbFsmState = .idle then i.biuWeI else s.wbWeO
  wbSelO := if i.rst then 0xf else if s.wbFsmState = .idle then i.biuSelI else s.wbSelO
  wbDatO := if i.rst then 0 else if !s.wbStbO then i.biuDatI else s.wbDatO
  wbCtiO := if i.rst then 0b111#3 else wbCtiNxt s i
  burstLen :=
    if i.rst then 0
    else if s.wbFsmState = .idle then 2
    else if s.wbStbO && wbAck i then s.burstLen - 1
    else s.burstLen
  biuStbReg :=
    if i.rst then false
    else if i.biuStbI && !i.biuCabI && biuAckO s i then false
    else i.biuStbI

/-! ## Single transfers -/

/-- No burst is under way, and the strobe belongs to a transfer. -/
structure Single (s : State) : Prop where
  cti : s.wbCtiO = 0b111#3
  notLast : s.wbFsmState ≠ .last
  strobe : s.wbFsmState = .idle → s.wbStbO = false

section

variable {s : State} {i : In}

theorem single_next_of_rst (hrst : i.rst = true) : Single (next s i) where
  cti := if_pos hrst
  notLast := by
    have hidle : (next s i).wbFsmState = .idle := if_pos hrst
    rw [hidle]
    decide
  strobe _ := if_pos hrst

theorem Single.breaks_eq (h : Single s) (i : In) : breaks s i = false := by
  rw [breaks, h.cti]
  exact Bool.and_false _

theorem Single.ends_eq (h : Single s) (i : In) :
    ends s i = ((i.wbErrI || i.wbRtyI || wbAck i) && s.wbStbO) := by
  rw [ends, h.cti, beq_self_eq_true, Bool.and_true]

theorem Single.wbFsmState_next (h : Single s) (hrst : i.rst = false) :
    (next s i).wbFsmState =
      if s.wbFsmState = .idle then if i.biuCycI && biuStb s i then .trans else .idle
      else if ends s i then .idle else .trans := by
  have hnext : (next s i).wbFsmState = wbFsmStateNxt s i := if_neg (by simp [hrst])
  rw [hnext, wbFsmStateNxt]
  cases hfsm : s.wbFsmState with
  | idle => rfl
  | trans =>
      rw [h.breaks_eq]
      rfl
  | last => exact absurd hfsm h.notLast

/-- Without bursts every transfer is a single one. -/
theorem Single.next (h : Single s) (hcab : i.biuCabI = false) : Single (next s i) := by
  cases hrst : i.rst with
  | true => exact single_next_of_rst hrst
  | false =>
      constructor
      case cti =>
        have hnext : (WbBiu.next s i).wbCtiO = wbCtiNxt s i := if_neg (by simp [hrst])
        rw [hnext, wbCtiNxt, h.cti]
        cases hfsm : s.wbFsmState with
        | idle =>
            rw [hcab]
            rfl
        | trans => simp [WbBiu.cti]
        | last => exact absurd hfsm h.notLast
      case notLast =>
        rw [h.wbFsmState_next hrst]
        repeat' split
        all_goals exact Fsm.noConfusion
      case strobe =>
        intro hidle
        have hnext : (WbBiu.next s i).wbStbO =
            if wbAck i && s.wbCtiO == 0b111#3 then false else wbStbNxt s i :=
          if_neg (by simp [hrst])
        rw [h.wbFsmState_next hrst] at hidle
        rw [hnext, h.cti, beq_self_eq_true, Bool.and_true, wbStbNxt]
        cases hack : wbAck i with
        | true => rfl
        | false =>
            cases hfsm : s.wbFsmState with
            | idle =>
                rw [hfsm, if_pos rfl] at hidle
                simpa using hidle
            | trans =>
                rw [hfsm, if_neg (by decide), h.ends_eq, hack, Bool.or_false] at hidle
                have hends : ((i.wbErrI || i.wbRtyI) && s.wbStbO) = true := by simpa using hidle
                obtain ⟨hfails, hstb⟩ := Bool.and_eq_true_iff.mp hends
                rw [h.cti, hstb]
                rcases Bool.or_eq_true_iff.mp hfails with hfails | hfails <;> simp [hfails]
            | last => exact absurd hfsm h.notLast

end

end Specs.Or1200.WbBiu
