import Specs.Or1200.Defines
import Specs.Sync.Run

/-!
# The exception unit

`or1200_except` keeps the program counters of the pipeline stages, decides which
exception is taken, and sequences its entry.  On an entry it saves the state of
the program in EPCR, EEAR and ESR, and the previous contents of these three in
ghost registers.  The registers can be written by `l.mtspr` only while the
sequencer is idle and no exception is taken.

The outputs `except_stop` and the abort signals are not part of this module; the
latter are in the module on freezes.
-/

namespace Specs.Or1200.Except

open Specs.Sync

structure In where
  rst : Bool
  sigIbuserr : Bool
  sigDbuserr : Bool
  sigIllegal : Bool
  sigAlign : Bool
  sigRange : Bool
  sigDtlbmiss : Bool
  sigDmmufault : Bool
  sigInt : Bool
  sigSyscall : Bool
  sigTrap : Bool
  sigItlbmiss : Bool
  sigImmufault : Bool
  sigTick : Bool
  sigFp : Bool
  fpcsrFpee : Bool
  exBranchTaken : Bool
  genpcFreeze : Bool
  idFreeze : Bool
  exFreeze : Bool
  wbFreeze : Bool
  ifStall : Bool
  ifPc : BitVec 32
  datain : BitVec 32
  duDsr : BitVec 14
  duDmr1 : BitVec 25
  epcrWe : Bool
  eearWe : Bool
  esrWe : Bool
  pcWe : Bool
  toSr : BitVec 17
  srWe : Bool
  sr : BitVec 17
  lsuAddr : BitVec 32
  idFlushpipe : Bool
  exFlushpipe : Bool
  exVoid : Bool
  branchOp : BitVec 3
  icpuAckI : Bool
  icpuErrI : Bool
  spEpcrGhostWe : Bool
  spEearGhostWe : Bool
  spEsrGhostWe : Bool
deriving Inhabited

inductive Fsm
  | idle
  | flu1
  | flu2
  | flu3
  | flu4
  | flu5
deriving DecidableEq, Inhabited

/-- The registers of the sequencer. -/
structure Sequencer where
  state : Fsm
  exceptType : BitVec 4
  extendFlush : Bool
  epcr : BitVec 32
  eear : BitVec 32
  esr : BitVec 17
  spEpcrGhost : BitVec 32
  spEearGhost : BitVec 32
  spEsrGhost : BitVec 17
  dsx : Bool
deriving DecidableEq, Inhabited

structure State extends Sequencer where
  idPc : BitVec 32
  idPcVal : Bool
  idExceptflags : BitVec 3
  exPc : BitVec 32
  exPcVal : Bool
  exExceptflags : BitVec 3
  exDslot : Bool
  delayed1ExDslot : Bool
  delayed2ExDslot : Bool
  wbPc : BitVec 32
  dlPc : BitVec 32
  delayedIee : BitVec 3
  delayedTee : BitVec 3
  traceTrap : Bool
  exFreezePrev : Bool
  srTedPrev : Bool
  dsrTePrev : Bool
  dmr1StPrev : Bool
  dmr1BtPrev : Bool
  sprDatPpc : BitVec 32
  sprDatNpc : BitVec 32
deriving DecidableEq, Inhabited

/-! ## Detection -/

def dsrTe (s : State) (duDsr : BitVec 14) : Bool :=
  if s.exFreezePrev then s.dsrTePrev else duDsr.getLsbD duDsrTe

def srTedNow (s : State) (sr : BitVec 17) : Bool :=
  if s.exFreezePrev then s.srTedPrev else sr.getLsbD srTed

def dmr1St (s : State) (i : In) : Bool :=
  if s.exFreezePrev then s.dmr1StPrev else i.duDmr1.getLsbD duDmr1St

def dmr1Bt (s : State) (i : In) : Bool :=
  if s.exFreezePrev then s.dmr1BtPrev else i.duDmr1.getLsbD duDmr1Bt

def exceptStart (s : State) : Bool := s.exceptType != exceptNone && s.extendFlush

def exceptStarted (s : State) : Bool := s.extendFlush && exceptStart s

/-- An interrupt or tick that the mask bit of SR, as it is or as it is being
written, lets through. -/
def pending (sig : Bool) (bit : ℕ) (delayed : BitVec 3) (s : State) (i : In) : Bool :=
  sig && (i.sr.getLsbD bit || (i.srWe && i.toSr.getLsbD bit)) && s.idPcVal &&
    delayed.getLsbD 2 && !i.exFreeze && !i.exBranchTaken && !s.exDslot &&
    !(i.srWe && !i.toSr.getLsbD bit)

def intPending (s : State) (i : In) : Bool := pending i.sigInt srIee s.delayedIee s i

def tickPending (s : State) (i : In) : Bool := pending i.sigTick srTee s.delayedTee s i

def fpPending (s : State) (i : In) : Bool :=
  i.sigFp && i.fpcsrFpee && !i.exFreeze && !i.exBranchTaken && !s.exDslot

def rangePending (s : State) (i : In) : Bool :=
  i.sigRange && i.sr.getLsbD srOve && !i.exFreeze && !i.exBranchTaken && !s.exDslot

def exceptTrig (s : State) (i : In) : BitVec 14 :=
  BitVec.ofBool (s.exExceptflags.getLsbD 1 && !i.duDsr.getLsbD duDsrIme) ++
    BitVec.ofBool (s.exExceptflags.getLsbD 0 && !i.duDsr.getLsbD duDsrIpfe) ++
    BitVec.ofBool (s.exExceptflags.getLsbD 2 && !i.duDsr.getLsbD duDsrBusee) ++
    BitVec.ofBool (i.sigIllegal && !i.exVoid && !i.duDsr.getLsbD duDsrIie) ++
    BitVec.ofBool (i.sigAlign && !i.duDsr.getLsbD duDsrAe) ++
    BitVec.ofBool (i.sigDtlbmiss && !i.duDsr.getLsbD duDsrDme) ++
    BitVec.ofBool (i.sigTrap && !i.duDsr.getLsbD duDsrTe) ++
    BitVec.ofBool (i.sigSyscall && !i.duDsr.getLsbD duDsrSce && !i.exFreeze) ++
    BitVec.ofBool (i.sigDmmufault && !i.duDsr.getLsbD duDsrDpfe) ++
    BitVec.ofBool (i.sigDbuserr && !i.duDsr.getLsbD duDsrBusee) ++
    BitVec.ofBool (rangePending s i && !i.duDsr.getLsbD duDsrRe) ++
    BitVec.ofBool (fpPending s i && !i.duDsr.getLsbD duDsrFpe) ++
    BitVec.ofBool (intPending s i && !i.duDsr.getLsbD duDsrIe) ++
    BitVec.ofBool (tickPending s i && !i.duDsr.getLsbD duDsrTte)

def exceptFlushpipe (s : State) (i : In) : Bool :=
  exceptTrig s i != 0#14 && s.state == Fsm.idle

def traceCond (s : State) (i : In) : Bool :=
  !i.exFreeze && !i.exVoid &&
    (dmr1St s i ||
      (i.branchOp != branchopNop && i.branchOp != branchopRfe && dmr1Bt s i))

/-! ## Entry -/

inductive Cause
  | itlbmiss
  | ipf
  | ibuserr
  | illegal
  | align
  | dtlbmiss
  | trap
  | syscall
  | dpf
  | dbuserr
  | range
  | float
  | int
  | tick
deriving DecidableEq, Inhabited

/-- The bits of `except_trig` in the order of their priority. -/
def priority : List (ℕ × Cause) :=
  [(13, .itlbmiss), (12, .ipf), (11, .ibuserr), (10, .illegal), (9, .align), (8, .dtlbmiss),
    (7, .trap), (6, .syscall), (5, .dpf), (4, .dbuserr), (3, .range), (2, .float), (1, .int),
    (0, .tick)]

def cause (trig : BitVec 14) : Option Cause :=
  (priority.find? fun p ↦ trig.getLsbD p.1).map Prod.snd

namespace Cause

def exceptType : Cause → BitVec 4
  | itlbmiss => exceptItlbmiss
  | ipf => exceptIpf
  | ibuserr => exceptBuserr
  | illegal => exceptIllegal
  | align => exceptAlign
  | dtlbmiss => exceptDtlbmiss
  | trap => exceptTrap
  | syscall => exceptSyscall
  | dpf => exceptDpf
  | dbuserr => exceptBuserr
  | range => exceptRange
  | float => exceptFloat
  | int => exceptInt
  | tick => exceptTick

/-- EEAR after the entry; the exceptions without an address keep it. -/
def eear (s : State) (i : In) : Cause → BitVec 32
  | itlbmiss => s.exPc
  | ipf => if s.exDslot then s.exPc else s.idPc
  | ibuserr => if s.exDslot then s.wbPc else s.exPc
  | illegal => s.exPc
  | align => i.lsuAddr
  | dtlbmiss => i.lsuAddr
  | dpf => i.lsuAddr
  | dbuserr => i.lsuAddr
  | trap => s.eear
  | syscall => s.eear
  | range => s.eear
  | float => s.eear
  | int => s.eear
  | tick => s.eear

/-- EPCR after the entry.  Where both delayed flags select the same stage, the source
names it twice. -/
def epcr (s : State) : Cause → BitVec 32
  | itlbmiss => if s.exDslot then s.wbPc else s.exPc
  | ipf => if s.exDslot then s.wbPc else s.idPc
  | ibuserr => if s.exDslot then s.wbPc else s.exPc
  | illegal => if s.exDslot then s.wbPc else if s.delayed1ExDslot then s.dlPc else s.exPc
  | align => if s.exDslot then s.wbPc else s.exPc
  | dtlbmiss => if s.exDslot then s.wbPc else if s.delayed1ExDslot then s.dlPc else s.exPc
  | trap => if s.exDslot then s.wbPc else if s.delayed1ExDslot then s.idPc else s.exPc
  | syscall => if s.exDslot then s.wbPc else s.idPc
  | dpf => if s.exDslot then s.wbPc else if s.delayed1ExDslot then s.dlPc else s.exPc
  | dbuserr => if s.exDslot then s.wbPc else if s.delayed1ExDslot then s.dlPc else s.exPc
  | range =>
      if s.exDslot then s.wbPc else if s.delayed1ExDslot then s.dlPc
      else if s.delayed2ExDslot then s.idPc else s.exPc
  | float => s.idPc
  | int => s.idPc
  | tick => s.idPc

end Cause

def enter (s : State) (i : In) : Sequencer where
  state := .flu1
  extendFlush := true
  esr := if i.srWe then i.toSr else i.sr
  spEpcrGhost := s.epcr
  spEearGhost := s.eear
  spEsrGhost := s.esr
  exceptType := ((cause (exceptTrig s i)).map Cause.exceptType).getD exceptNone
  eear := ((cause (exceptTrig s i)).map (Cause.eear s i)).getD s.eear
  epcr := ((cause (exceptTrig s i)).map (Cause.epcr s)).getD s.epcr
  dsx := ((cause (exceptTrig s i)).map fun _ ↦ s.exDslot).getD s.dsx

/-! ## Clock edge -/

/-- `l.mtspr` in the idle state. -/
def write (s : Sequencer) (i : In) : Sequencer :=
  { s with
    epcr := if i.epcrWe then i.datain else s.epcr
    eear := if i.eearWe then i.datain else s.eear
    esr :=
      if i.esrWe then i.datain.extractLsb' 16 1 ++ 1#1 ++ i.datain.extractLsb' 0 15 else s.esr
    spEpcrGhost := if i.spEpcrGhostWe then i.datain else s.spEpcrGhost
    spEearGhost := if i.spEearGhostWe then i.datain else s.spEearGhost
    spEsrGhost := if i.spEsrGhostWe then i.datain.extractLsb' 0 17 else s.spEsrGhost }

def resetSequencer : Sequencer where
  state := .idle
  exceptType := exceptNone
  extendFlush := false
  epcr := 0
  eear := 0
  esr := 0b01#2 ++ 0#14 ++ 1#1
  spEpcrGhost := 0
  spEearGhost := 0
  spEsrGhost := 0
  dsx := false

def nextSequencer (s : State) (i : In) : Sequencer :=
  if i.rst then resetSequencer
  else
    match s.state with
    | .idle =>
        if exceptFlushpipe s i then enter s i
        else if i.pcWe then { s.toSequencer with state := .flu1, extendFlush := true }
        else write s.toSequencer i
    | .flu1 =>
        if i.icpuAckI || i.icpuErrI || i.genpcFreeze then { s.toSequencer with state := .flu2 }
        else s.toSequencer
    | .flu2 =>
        if s.exceptType == exceptTrap then
          { s.toSequencer with state := .idle, extendFlush := false, exceptType := exceptNone }
        else { s.toSequencer with state := .flu3 }
    | .flu3 => { s.toSequencer with state := .flu4 }
    | .flu4 => { s.toSequencer with state := .flu5, extendFlush := false }
    | .flu5 =>
        if !i.ifStall && !i.idFreeze && !i.exVoid then
          { s.toSequencer with state := .idle, exceptType := exceptNone }
        else s.toSequencer

theorem nextSequencer_of_rst (s : State) {i : In} (h : i.rst = true) :
    nextSequencer s i = resetSequencer := by
  rw [nextSequencer, if_pos h]

theorem idle_of_exceptFlushpipe {s : State} {i : In} (h : exceptFlushpipe s i = true) :
    s.state = .idle := by
  simp only [exceptFlushpipe, Bool.and_eq_true, beq_iff_eq] at h
  exact h.2

theorem nextSequencer_of_exceptFlushpipe {s : State} {i : In} (hrst : i.rst = false)
    (h : exceptFlushpipe s i = true) : nextSequencer s i = enter s i := by
  rw [nextSequencer, hrst, idle_of_exceptFlushpipe h, h]
  rfl

theorem getLsbD_of_cause {trig : BitVec 14} {c : Cause} (h : cause trig = some c) :
    ∃ n, (n, c) ∈ priority ∧ trig.getLsbD n = true := by
  obtain ⟨p, hfind, rfl⟩ := Option.map_eq_some_iff.mp h
  have hbit : trig.getLsbD p.1 = true := by
    simpa using List.find?_some hfind
  exact ⟨p.1, List.mem_of_find?_eq_some hfind, hbit⟩

theorem exceptTrig_getLsbD_illegal (s : State) (i : In) :
    (exceptTrig s i).getLsbD 10 = (i.sigIllegal && !i.exVoid && !i.duDsr.getLsbD duDsrIie) := by
  simp only [exceptTrig, BitVec.getLsbD_append, BitVec.getLsbD_ofBool]
  simp

/-- The exception of an illegal instruction is never taken for a void one. -/
theorem illegal_of_cause {s : State} {i : In} (h : cause (exceptTrig s i) = some .illegal) :
    i.sigIllegal = true ∧ i.exVoid = false := by
  obtain ⟨n, hn, hbit⟩ := getLsbD_of_cause h
  obtain rfl : n = 10 := by simpa [priority] using hn
  rw [exceptTrig_getLsbD_illegal] at hbit
  simp only [Bool.and_eq_true, Bool.not_eq_true'] at hbit
  exact hbit.1

/-- In the idle state the sequencer waits for an exception or the debug unit. -/
theorem nextSequencer_of_idle {s : State} {i : In} (hrst : i.rst = false)
    (hidle : s.state = .idle) (hflush : exceptFlushpipe s i = false) (hpc : i.pcWe = false) :
    nextSequencer s i = write s.toSequencer i := by
  rw [nextSequencer, hrst, hidle, hflush, hpc]
  rfl

/-- Out of the flushing states the pipeline is not flushed. -/
def Settled (q : Sequencer) : Prop :=
  q.state = .idle ∨ q.state = .flu5 → q.extendFlush = false

theorem settled_next {s : State} (h : Settled s.toSequencer) (i : In) :
    Settled (nextSequencer s i) := by
  rw [nextSequencer]
  split
  · intro _
    rfl
  · cases hstate : s.state with
    | idle =>
        dsimp only
        split
        · rintro (hidle | hidle) <;> cases hidle
        · split
          · rintro (hidle | hidle) <;> cases hidle
          · intro _
            exact h (Or.inl hstate)
    | flu1 =>
        dsimp only
        split
        · rintro (hidle | hidle) <;> cases hidle
        · exact h
    | flu2 =>
        dsimp only
        split
        · intro _
          rfl
        · rintro (hidle | hidle) <;> cases hidle
    | flu3 => rintro (hidle | hidle) <;> cases hidle
    | flu4 =>
        intro _
        rfl
    | flu5 =>
        dsimp only
        split
        · intro _
          exact h (Or.inr hstate)
        · exact h

theorem exceptStart_of_settled {s : State} (h : Settled s.toSequencer) (hidle : s.state = .idle) :
    exceptStart s = false := by
  rw [exceptStart, h (Or.inl hidle), Bool.and_false]

/-- EX takes over what is in ID, if anything may move there. -/
def movesToEx (i : In) : Bool := !i.exFreeze && !i.exFlushpipe

def delayedNext (bit : ℕ) (old : BitVec 3) (i : In) : BitVec 3 :=
  if i.rst then 0 else if !i.sr.getLsbD bit then 0 else old.extractLsb' 0 2 ++ 1#1

/-- A flag sampled by the trace logic before a freeze. -/
def sampled (old now : Bool) (s : State) (i : In) : Bool :=
  if i.rst then false else if !s.exFreezePrev || i.exVoid then now else old

def next (s : State) (i : In) : State where
  toSequencer := nextSequencer s i
  idPc :=
    if i.rst then 0
    else if !i.idFlushpipe && !i.idFreeze then i.ifPc else s.idPc
  idPcVal :=
    if i.rst then false
    else if i.idFlushpipe then false
    else if !i.idFreeze then true else s.idPcVal
  idExceptflags :=
    if i.rst then 0
    else if i.idFlushpipe then 0
    else if !i.idFreeze then
      BitVec.ofBool i.sigIbuserr ++ BitVec.ofBool i.sigItlbmiss ++ BitVec.ofBool i.sigImmufault
    else s.idExceptflags
  exPc := if i.rst then 0 else if movesToEx i then s.idPc else s.exPc
  exPcVal :=
    if i.rst then false
    else if i.exFlushpipe then false
    else if movesToEx i then s.idPcVal else s.exPcVal
  exExceptflags :=
    if i.rst then 0
    else if i.exFlushpipe then 0
    else if movesToEx i then (if i.idFreeze then 0 else s.idExceptflags) else s.exExceptflags
  exDslot :=
    if i.rst then false
    else if i.exFlushpipe then false
    else if movesToEx i then (if i.idFreeze then false else i.exBranchTaken) else s.exDslot
  delayed1ExDslot :=
    if i.rst then false
    else if i.exFlushpipe then false
    else if movesToEx i then s.exDslot else s.delayed1ExDslot
  delayed2ExDslot :=
    if i.rst then false
    else if i.exFlushpipe then false
    else if movesToEx i then s.delayed1ExDslot else s.delayed2ExDslot
  wbPc := if i.rst then 0 else if !i.wbFreeze then s.exPc else s.wbPc
  dlPc := if i.rst then 0 else if !i.wbFreeze then s.wbPc else s.dlPc
  delayedIee := delayedNext srIee s.delayedIee i
  delayedTee := delayedNext srTee s.delayedTee i
  traceTrap :=
    if i.rst then false
    else if !(s.traceTrap && !s.exPcVal) then
      traceCond s i && !dsrTe s i.duDsr && !srTedNow s i.sr
    else s.traceTrap
  exFreezePrev := if i.rst then false else i.exFreeze
  srTedPrev := sampled s.srTedPrev (i.sr.getLsbD srTed) s i
  dsrTePrev := sampled s.dsrTePrev (i.duDsr.getLsbD duDsrTe) s i
  dmr1StPrev := sampled s.dmr1StPrev (i.duDmr1.getLsbD duDmr1St) s i
  dmr1BtPrev := sampled s.dmr1BtPrev (i.duDmr1.getLsbD duDmr1Bt) s i
  sprDatPpc := if !i.exVoid && !i.exFreeze then s.exPc else s.sprDatPpc
  sprDatNpc := if !i.exVoid && !i.exFreeze then i.ifPc else s.sprDatNpc

end Specs.Or1200.Except
