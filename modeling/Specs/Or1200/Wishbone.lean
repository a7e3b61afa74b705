import Specs.Or1200.LoadStore
import Specs.Or1200.WbBiu

/-!
# Memory on the Wishbone bus

The load/store unit, without translation, in front of the Wishbone interface, and the
memory behind the bus.  A transfer goes on whether or not the instruction that asked for it
is still there, so an access must not be taken back while its transfer is under way.  Then
the bus, with all its waiting, its retries and its errors, is one of the memories that the
load/store unit expects.
-/

namespace Specs.Or1200

open Specs.Bits

namespace LoadStore

/-! ## What the load/store unit presents -/

structure Presented where
  adr : BitVec 32
  we : Bool
  sel : BitVec 4
  dat : BitVec 32

/-- The access on the port, which does not depend on the answer. -/
def presented (s : State) : Presented where
  adr := Lsu.dcpuAdrO s.lsu (requestIn s default)
  we := Lsu.dcpuWeO s.lsu
  sel := Lsu.dcpuSelO s.lsu (requestIn s default)
  dat := Lsu.dcpuDatO s.lsu (requestIn s default)

section

variable {s : State} {i : In}

/-- An access that is not answered keeps EX frozen. -/
theorem exFreeze_of_cycstb (h : Lsu.dcpuCycstbO s.lsu (lsuPorts s i) = true) :
    exFreeze s i = true := by
  have hack : i.lsu.dcpuAckI = false := by
    rw [← Bool.not_eq_true]
    intro hack
    have hunstall : Lsu.lsuUnstall (lsuPorts s i) = true := hack
    rw [Lsu.dcpuCycstbO, hunstall, Bool.or_true, Bool.true_or, if_pos rfl] at h
    exact Bool.false_ne_true h
  have hrty : (lsuPorts s i).dcpuRtyI = !i.lsu.dcpuAckI := rfl
  rw [exFreeze_eq, Lsu.lsuStall, h, hrty, hack]
  rfl

/-- A frozen access stays on the port. -/
theorem presented_next_of_frozen (hrst : i.datapath.execute.rst = false)
    (hflush : i.datapath.execute.flushpipe = false) (hfrozen : exFreeze s i = true) :
    (next s i).lsu = s.lsu ∧ presented (next s i) = presented s := by
  have hlsu : (next s i).lsu = s.lsu := by
    have hrst' : (lsuIn s i).rst = false := hrst
    have hflush' : (lsuIn s i).flushpipe = false := hflush
    have hfrozen' : (lsuIn s i).exFreeze = true := hfrozen
    change Lsu.next s.lsu (lsuIn s i) = s.lsu
    simp [Lsu.next, Lsu.voidsEx, hrst', hflush', hfrozen']
  obtain ⟨hopA, hopB⟩ := Execute.operands_next_of_exFreeze (s := s.datapath.execute)
    (i := Datapath.executeIn s.datapath (datapathIn s i)) hrst hfrozen
  have hsimm := exSimm_next (s := s) hrst
  rw [hfrozen, if_pos rfl] at hsimm
  have hA : (requestIn (next s i) default).exAddrbase = (requestIn s default).exAddrbase := hopA
  have hB : (requestIn (next s i) default).lsuDatain = (requestIn s default).lsuDatain := hopB
  have hofs : (requestIn (next s i) default).exAddrofs = (requestIn s default).exAddrofs := hsimm
  refine ⟨hlsu, ?_⟩
  simp only [presented, Lsu.dcpuAdrO, Lsu.dcpuSelO, Lsu.dcpuDatO, hlsu, hA, hB, hofs]

end

end LoadStore

namespace Wishbone

open Specs.Sync

structure In where
  datapath : Datapath.In
  wbAckI : Bool
  wbErrI : Bool
  wbRtyI : Bool
  wbDatI : BitVec 32
deriving Inhabited

/-- The memory of `core` is the one behind the bus. -/
structure State where
  core : LoadStore.State
  biu : WbBiu.State
deriving Inhabited

/-! ## Wires -/

def wbAck (i : In) : Bool := i.wbAckI && !i.wbErrI && !i.wbRtyI

/-- The memory answers a strobe. -/
def serves (s : State) (i : In) : Bool := s.biu.wbStbO && wbAck i

def wordAddress (s : State) : BitVec 32 := s.biu.wbAdrO.extractLsb' 2 30 ++ 0#2

/-- What the bus gives to the Wishbone interface. -/
def busIn (s : State) (i : In) : WbBiu.In :=
  { (default : WbBiu.In) with
    rst := i.datapath.execute.rst
    wbAckI := i.wbAckI
    wbErrI := i.wbErrI
    wbRtyI := i.wbRtyI
    wbDatI := if serves s i then s.core.memory.read (wordAddress s) 4 else i.wbDatI }

def biuAck (s : State) (i : In) : Bool := WbBiu.biuAckO s.biu (busIn s i)

def biuErr (s : State) (i : In) : Bool := WbBiu.biuErrO s.biu (busIn s i)

/-- The answer on the data port, but for its tag. -/
def answerIn (s : State) (i : In) : LoadStore.In where
  datapath := i.datapath
  lsu :=
    { (default : Lsu.In) with
      dcpuAckI := biuAck s i
      dcpuErrI := biuErr s i
      dcpuDatI := i.wbDatI }

/-- Without a data cache an access without an error gets its own tag back. -/
def coreIn (s : State) (i : In) : LoadStore.In :=
  { answerIn s i with
    lsu :=
      { (answerIn s i).lsu with
        dcpuTagI :=
          if biuErr s i then dtagBe
          else Lsu.dcpuTagO s.core.lsu (LoadStore.requestIn s.core (answerIn s i)) } }

def lsuPorts (s : State) (i : In) : Lsu.In :=
  { LoadStore.requestIn s.core (coreIn s i) with dcpuDatI := WbBiu.biuDatO (busIn s i) }

def biuIn (s : State) (i : In) : WbBiu.In :=
  { busIn s i with
    biuDatI := Lsu.dcpuDatO s.core.lsu (lsuPorts s i)
    biuAdrI := Lsu.dcpuAdrO s.core.lsu (lsuPorts s i)
    biuCycI := Lsu.dcpuCycstbO s.core.lsu (lsuPorts s i)
    biuStbI := Lsu.dcpuCycstbO s.core.lsu (lsuPorts s i)
    biuWeI := Lsu.dcpuWeO s.core.lsu
    biuSelI := Lsu.dcpuSelO s.core.lsu (lsuPorts s i)
    biuCabI := false }

def datapathIn (s : State) (i : In) : Datapath.In :=
  LoadStore.wired s.core.lsu (lsuPorts s i) i.datapath

def next (s : State) (i : In) : State where
  core :=
    { datapath := Datapath.next s.core.datapath (datapathIn s i)
      lsu := Lsu.next s.core.lsu
        (LoadStore.unitIn s.core.datapath (lsuPorts s i) (datapathIn s i))
      memory :=
        if serves s i && s.biu.wbWeO then
          s.core.memory.writeLanes (wordAddress s) 4 s.biu.wbSelO s.biu.wbDatO
        else s.core.memory }
  biu := WbBiu.next s.biu (biuIn s i)

def gate : Gate In := ⟨fun i ↦ i.datapath.execute.rst, fun _ ↦ true⟩

def stateAt (s₀ : State) (tr : ℕ → In) (t : ℕ) : State := run next s₀ tr t

/-! ## Transfers -/

/-- The transfer under way is for the access on the port. -/
structure Carries (s : State) : Prop where
  single : WbBiu.Single s.biu
  op : s.biu.wbFsmState = .trans → s.core.lsu.exLsuOp ≠ lsuopNop
  align : s.biu.wbFsmState = .trans → s.core.lsu.exceptAlign = false
  adr : s.biu.wbFsmState = .trans → s.biu.wbAdrO = (LoadStore.presented s.core).adr
  we : s.biu.wbFsmState = .trans → s.biu.wbWeO = (LoadStore.presented s.core).we
  sel : s.biu.wbFsmState = .trans → s.biu.wbSelO = (LoadStore.presented s.core).sel
  dat : s.biu.wbFsmState = .trans → s.biu.wbStbO = true →
    s.biu.wbDatO = (LoadStore.presented s.core).dat

/-- What is assumed of a cycle: what the datapath assumes, and that the instruction of a
transfer is there until the transfer ends: it is neither flushed nor stalled by the debug
unit, nor aborted for another reason when it is answered. -/
structure Plain (s : State) (i : In) : Prop where
  datapath : Datapath.Plain s.core.datapath (datapathIn s i)
  kept : i.datapath.execute.flushpipe = true → (next s i).biu.wbFsmState = .idle
  notStalled : i.datapath.execute.duStall = true → s.biu.wbFsmState = .idle
  notAborted : biuAck s i = true → Datapath.abortMvspr s.core.datapath (datapathIn s i) = false

section

variable {s : State} {i : In}

instance (s : State) (i : In) : Decidable (Plain s i) :=
  decidable_of_iff (Datapath.Plain s.core.datapath (datapathIn s i) ∧
      (i.datapath.execute.flushpipe = true → (next s i).biu.wbFsmState = .idle) ∧
      (i.datapath.execute.duStall = true → s.biu.wbFsmState = .idle) ∧
      (biuAck s i = true → Datapath.abortMvspr s.core.datapath (datapathIn s i) = false))
    ⟨fun h ↦ ⟨h.1, h.2.1, h.2.2.1, h.2.2.2⟩, fun h ↦ ⟨h.1, h.2, h.3, h.4⟩⟩

theorem biuAck_iff : biuAck s i = true ↔ s.biu.wbFsmState = .trans ∧ serves s i = true := by
  have hunfold : biuAck s i = (s.biu.wbFsmState == .trans && wbAck i && s.biu.wbStbO) := rfl
  rw [hunfold, Bool.and_eq_true, Bool.and_eq_true, beq_iff_eq, serves, Bool.and_eq_true, and_assoc,
    and_comm (a := s.biu.wbStbO = true)]

theorem Carries.trans_of_serves (h : Carries s) (hserves : serves s i = true) :
    s.biu.wbFsmState = .trans := by
  rw [serves, Bool.and_eq_true] at hserves
  cases hfsm : s.biu.wbFsmState with
  | idle => exact absurd (hserves.1.symm.trans (h.single.strobe hfsm)) Bool.false_ne_true.symm
  | trans => rfl
  | last => exact absurd hfsm h.single.notLast

theorem Carries.serves_eq (h : Carries s) : serves s i = biuAck s i := by
  rw [Bool.eq_iff_iff, biuAck_iff]
  exact ⟨fun hserves ↦ ⟨h.trans_of_serves hserves, hserves⟩, fun hack ↦ hack.2⟩

/-- The bus and the memory behind it look like a memory on the port. -/
theorem Carries.lsuPorts_eq (h : Carries s) :
    lsuPorts s i = LoadStore.lsuPorts s.core (coreIn s i) := by
  have hdat : WbBiu.biuDatO (busIn s i) =
      if (coreIn s i).lsu.dcpuAckI then
        s.core.memory.read (LoadStore.wordAddress s.core (coreIn s i)) 4
      else (coreIn s i).lsu.dcpuDatI := by
    have hunfold : WbBiu.biuDatO (busIn s i) =
        if serves s i then s.core.memory.read (wordAddress s) 4 else i.wbDatI := rfl
    have hack : (coreIn s i).lsu.dcpuAckI = biuAck s i := rfl
    rw [hunfold, h.serves_eq, hack]
    cases hbiu : biuAck s i with
    | false => rfl
    | true =>
        rw [if_pos rfl, if_pos rfl, wordAddress, h.adr (biuAck_iff.mp hbiu).1]
        rfl
  rw [lsuPorts, hdat]
  rfl

theorem Carries.core_next (h : Carries s) :
    (next s i).core = LoadStore.next s.core (coreIn s i) := by
  have hports := h.lsuPorts_eq (i := i)
  have hdatapath : datapathIn s i = LoadStore.datapathIn s.core (coreIn s i) := by
    rw [datapathIn, hports]
    rfl
  have hmemory : (next s i).core.memory = (LoadStore.next s.core (coreIn s i)).memory := by
    have hhere : (next s i).core.memory =
        if serves s i && s.biu.wbWeO then
          s.core.memory.writeLanes (wordAddress s) 4 s.biu.wbSelO s.biu.wbDatO
        else s.core.memory := rfl
    have hthere : (LoadStore.next s.core (coreIn s i)).memory =
        if biuAck s i && (LoadStore.presented s.core).we then
          s.core.memory.writeLanes ((LoadStore.presented s.core).adr.extractLsb' 2 30 ++ 0#2) 4
            (LoadStore.presented s.core).sel (LoadStore.presented s.core).dat
        else s.core.memory := rfl
    rw [hhere, hthere, h.serves_eq]
    cases hbiu : biuAck s i with
    | false => rfl
    | true =>
        obtain ⟨htrans, hserves⟩ := biuAck_iff.mp hbiu
        rw [serves, Bool.and_eq_true] at hserves
        rw [wordAddress, h.adr htrans, h.we htrans, h.sel htrans, h.dat htrans hserves.1]
  have hcore : (next s i).core =
      { datapath := Datapath.next s.core.datapath (datapathIn s i)
        lsu := Lsu.next s.core.lsu
          (LoadStore.unitIn s.core.datapath (lsuPorts s i) (datapathIn s i))
        memory := (next s i).core.memory } := rfl
  rw [hcore, hmemory, hdatapath, hports]
  rfl

theorem Carries.datapathIn_eq (h : Carries s) :
    datapathIn s i = LoadStore.datapathIn s.core (coreIn s i) := by
  rw [datapathIn, h.lsuPorts_eq]
  rfl

/-- What the load/store unit assumes of its memory. -/
theorem Plain.core (hplain : Plain s i) (h : Carries s) :
    LoadStore.Plain s.core (coreIn s i) where
  datapath := by
    rw [← h.datapathIn_eq]
    exact hplain.datapath
  answers hack := by
    have hbiu : biuAck s i = true := hack
    obtain ⟨htrans, hserves⟩ := biuAck_iff.mp hbiu
    have hdu : i.datapath.execute.duStall = false := by
      rw [← Bool.not_eq_true]
      intro hdu
      rw [hplain.notStalled hdu] at htrans
      cases htrans
    refine ⟨LoadStore.requests_iff.mpr ⟨hdu, h.align htrans, h.op htrans⟩, ?_⟩
    -- A normal termination is no error, so only other causes could abort.
    have herr : biuErr s i = false := by
      have hunfold : biuErr s i =
          (s.biu.wbFsmState == .trans && i.wbErrI && s.biu.wbStbO) := rfl
      rw [serves, Bool.and_eq_true, wbAck, Bool.and_eq_true, Bool.and_eq_true,
        Bool.not_eq_true'] at hserves
      rw [hunfold, hserves.2.1.2, Bool.and_false, Bool.false_and]
    have hother := hplain.notAborted hbiu
    rw [h.datapathIn_eq] at hother
    have hsig : (Datapath.abortIn s.core.datapath
        (LoadStore.datapathIn s.core (coreIn s i))).sigAlign = false := h.align htrans
    have hbus : (Datapath.abortIn s.core.datapath
        (LoadStore.datapathIn s.core (coreIn s i))).sigDbuserr =
        (biuErr s i && (coreIn s i).lsu.dcpuTagI == dtagBe) := rfl
    have hfault : (Datapath.abortIn s.core.datapath
        (LoadStore.datapathIn s.core (coreIn s i))).sigDmmufault =
        (biuErr s i && (coreIn s i).lsu.dcpuTagI == dtagPe) := rfl
    have hmiss : (Datapath.abortIn s.core.datapath
        (LoadStore.datapathIn s.core (coreIn s i))).sigDtlbmiss =
        (biuErr s i && (coreIn s i).lsu.dcpuTagI == dtagTe) := rfl
    rw [LoadStore.abortEx, Abort.abortEx, hsig, hbus, hfault, hmiss, herr]
    exact hother

/-- A transfer that is under way after a cycle has started in it or has not been answered. -/
theorem Carries.idle_or_waits (h : Carries s) (hrst : i.datapath.execute.rst = false)
    (hnext : (next s i).biu.wbFsmState = .trans) :
    (s.biu.wbFsmState = .idle ∧ Lsu.dcpuCycstbO s.core.lsu (lsuPorts s i) = true) ∨
      (s.biu.wbFsmState = .trans ∧ serves s i = false) := by
  have hstep := h.single.wbFsmState_next (i := biuIn s i) hrst
  change (next s i).biu.wbFsmState = _ at hstep
  rw [hnext] at hstep
  by_cases hidle : s.biu.wbFsmState = .idle
  · refine Or.inl ⟨hidle, ?_⟩
    rw [if_pos hidle] at hstep
    by_contra hnot
    have hcyc : (biuIn s i).biuCycI = false := Bool.eq_false_iff.mpr hnot
    rw [hcyc, Bool.false_and, if_neg Bool.false_ne_true] at hstep
    cases hstep
  · rw [if_neg hidle] at hstep
    have htrans : s.biu.wbFsmState = .trans := by
      cases hfsm : s.biu.wbFsmState with
      | idle => exact absurd hfsm hidle
      | trans => rfl
      | last => exact absurd hfsm h.single.notLast
    refine Or.inr ⟨htrans, ?_⟩
    rw [← Bool.not_eq_true]
    intro hserves
    rw [serves, Bool.and_eq_true] at hserves
    have hwbAck : WbBiu.wbAck (biuIn s i) = true := hserves.2
    have hends : WbBiu.ends s.biu (biuIn s i) = true := by
      rw [h.single.ends_eq, hwbAck, hserves.1, Bool.or_true, Bool.true_and]
    rw [if_pos hends] at hstep
    cases hstep

/-- In a cycle after which a transfer is under way the access is on the port and waits. -/
theorem Plain.cycstb_of_trans (hplain : Plain s i) (h : Carries s)
    (hnext : (next s i).biu.wbFsmState = .trans) :
    Lsu.dcpuCycstbO s.core.lsu (lsuPorts s i) = true := by
  rcases h.idle_or_waits hplain.datapath.running hnext with ⟨-, hcycstb⟩ | ⟨htrans, hserves⟩
  · exact hcycstb
  · have hack : biuAck s i = false := by rw [← h.serves_eq, hserves]
    have hdu : i.datapath.execute.duStall = false := by
      rw [← Bool.not_eq_true]
      intro hdu
      rw [hplain.notStalled hdu] at htrans
      cases htrans
    have hunfold : Lsu.dcpuCycstbO s.core.lsu (lsuPorts s i) =
        if i.datapath.execute.duStall || biuAck s i || s.core.lsu.exceptAlign then false
        else s.core.lsu.exLsuOp != 0#4 := rfl
    rw [hunfold, hdu, hack, h.align htrans]
    exact bne_iff_ne.mpr (h.op htrans)

theorem of_cycstb {l : Lsu.State} {ports : Lsu.In} (h : Lsu.dcpuCycstbO l ports = true) :
    l.exLsuOp ≠ lsuopNop ∧ l.exceptAlign = false := by
  rw [Lsu.dcpuCycstbO] at h
  cases halign : l.exceptAlign with
  | true =>
      rw [halign, Bool.or_true, if_pos rfl] at h
      exact absurd h Bool.false_ne_true
  | false =>
      split at h
      · exact absurd h Bool.false_ne_true
      · exact ⟨bne_iff_ne.mp h, rfl⟩

/-- The access of a transfer stays on the port. -/
theorem Plain.presented_next (hplain : Plain s i) (h : Carries s)
    (hnext : (next s i).biu.wbFsmState = .trans) :
    (next s i).core.lsu = s.core.lsu ∧
      LoadStore.presented (next s i).core = LoadStore.presented s.core := by
  have hcycstb := hplain.cycstb_of_trans h hnext
  rw [h.lsuPorts_eq] at hcycstb
  have hflush : i.datapath.execute.flushpipe = false := by
    rw [← Bool.not_eq_true]
    intro hflush
    rw [hplain.kept hflush] at hnext
    cases hnext
  rw [h.core_next]
  exact LoadStore.presented_next_of_frozen hplain.datapath.running hflush
    (LoadStore.exFreeze_of_cycstb hcycstb)

theorem Carries.next (h : Carries s) (hplain : Plain s i) : Carries (next s i) := by
  have hrst : ¬(biuIn s i).rst = true := ne_true_of_eq_false hplain.datapath.running
  constructor
  case single => exact h.single.next rfl
  case op =>
    intro htrans
    rw [(hplain.presented_next h htrans).1]
    exact (of_cycstb (hplain.cycstb_of_trans h htrans)).1
  case align =>
    intro htrans
    rw [(hplain.presented_next h htrans).1]
    exact (of_cycstb (hplain.cycstb_of_trans h htrans)).2
  case adr =>
    intro htrans
    have hadr : (Wishbone.next s i).biu.wbAdrO =
        if s.biu.wbFsmState = .idle then (LoadStore.presented s.core).adr
        else if serves s i then
          s.biu.wbAdrO.extractLsb' 4 28 ++ (s.biu.wbAdrO.extractLsb' 2 2 + 1) ++
            s.biu.wbAdrO.extractLsb' 0 2
        else s.biu.wbAdrO := if_neg hrst
    rw [hadr, (hplain.presented_next h htrans).2]
    rcases h.idle_or_waits hplain.datapath.running htrans with ⟨hidle, -⟩ | ⟨hbefore, hserves⟩
    · rw [if_pos hidle]
    · rw [hserves, if_neg Bool.false_ne_true, h.adr hbefore, ite_self]
  case we =>
    intro htrans
    have hwe : (Wishbone.next s i).biu.wbWeO =
        if s.biu.wbFsmState = .idle then (LoadStore.presented s.core).we else s.biu.wbWeO :=
      if_neg hrst
    rw [hwe, (hplain.presented_next h htrans).2]
    rcases h.idle_or_waits hplain.datapath.running htrans with ⟨hidle, -⟩ | ⟨hbefore, -⟩
    · rw [if_pos hidle]
    · rw [h.we hbefore, ite_self]
  case sel =>
    intro htrans
    have hsel : (Wishbone.next s i).biu.wbSelO =
        if s.biu.wbFsmState = .idle then (LoadStore.presented s.core).sel else s.biu.wbSelO :=
      if_neg hrst
    rw [hsel, (hplain.presented_next h htrans).2]
    rcases h.idle_or_waits hplain.datapath.running htrans with ⟨hidle, -⟩ | ⟨hbefore, -⟩
    · rw [if_pos hidle]
    · rw [h.sel hbefore, ite_self]
  case dat =>
    intro htrans _
    have hdat : (Wishbone.next s i).biu.wbDatO =
        if !s.biu.wbStbO then (LoadStore.presented s.core).dat else s.biu.wbDatO := if_neg hrst
    rw [hdat, (hplain.presented_next h htrans).2]
    cases hstb : s.biu.wbStbO with
    | false => rfl
    | true =>
        rcases h.idle_or_waits hplain.datapath.running htrans with ⟨hidle, -⟩ | ⟨hbefore, -⟩
        · exact absurd (hstb.symm.trans (h.single.strobe hidle)) (by decide)
        · exact h.dat hbefore hstb

theorem carries_next_of_rst (hrst : i.datapath.execute.rst = true) : Carries (Wishbone.next s i) := by
  have hidle : (Wishbone.next s i).biu.wbFsmState = .idle := if_pos hrst
  have hnot : (Wishbone.next s i).biu.wbFsmState ≠ .trans := by
    rw [hidle]
    decide
  constructor
  case single => exact WbBiu.single_next_of_rst hrst
  all_goals
    intro htrans
    exact absurd htrans hnot

/-! ## Agreement -/

/-- The registers and the memory behind the bus are those of the sequential machine. -/
def Agrees (s : State) (c : Isa.Computer) : Prop := LoadStore.Agrees s.core c

/-- The instructions that leave EX in a cycle, void ones apart. -/
def retired (s : State) (i : In) : List Isa.Issued := LoadStore.retired s.core (coreIn s i)

end

section

variable (s₀ : State) (tr : ResetTrace gate)

/-- The instructions that leave EX in the `n` cycles after the reset. -/
def program (n : ℕ) : List Isa.Issued := observed retired next s₀ tr 1 n

/-- The registers and the memory after the reset. -/
def initial : Isa.Computer where
  machine :=
    { regs := (stateAt s₀ tr 1).core.datapath.execute.operands.rf.rfA.mem
      flag := false
      carry := false }
  memory := (stateAt s₀ tr 1).core.memory

/-- The two copies of the register file start with the same contents. -/
def SameCopies : Prop := LoadStore.SameCopies s₀.core

section

variable (hquiet : Operands.Undisturbed
  (Datapath.operandsIn s₀.core.datapath (datapathIn s₀ (tr 0))))
include hquiet

theorem consistent_stateAt {n : ℕ}
    (hplain : ∀ k < n, Plain (stateAt s₀ tr (1 + k)) (tr (1 + k))) :
    LoadStore.Consistent (stateAt s₀ tr (1 + n)).core ∧ Carries (stateAt s₀ tr (1 + n)) := by
  induction n with
  | zero =>
      refine ⟨?_, carries_next_of_rst tr.reset_first⟩
      exact @LoadStore.consistent_next_of_rst s₀.core.datapath s₀.core.lsu (datapathIn s₀ (tr 0))
        (LoadStore.unitIn s₀.core.datapath (lsuPorts s₀ (tr 0)) (datapathIn s₀ (tr 0)))
        tr.reset_first tr.reset_first hquiet (next s₀ (tr 0)).core.memory
  | succ n ih =>
      obtain ⟨hconsistent, hcarries⟩ := ih fun k hk ↦ hplain k (hk.trans (Nat.lt_succ_self n))
      have hnow := hplain n (Nat.lt_succ_self n)
      refine ⟨?_, hcarries.next hnow⟩
      have hcore : (stateAt s₀ tr (1 + (n + 1))).core = _ := hcarries.core_next
      rw [hcore]
      exact hconsistent.next (hnow.core hcarries)

end

end

/-- The pipeline is fed with a program, and the bus acknowledges in the cycles `acks` and asks
for another try in the cycles `rtys`. -/
def onBus (insns : List (BitVec 32)) (acks rtys : List ℕ) : ResetTrace gate where
  cycle t :=
    { (default : In) with
      datapath := { (default : Datapath.In) with execute := Execute.program insns t }
      wbAckI := decide (t ∈ acks)
      wbRtyI := decide (t ∈ rtys) }
  reset_first := rfl

/-- `l.addi r3,r0,-2`, `l.sh 6(r0),r3`, `l.lbz r4,7(r0)` and `l.addi r6,r4,1`, which waits
for the transfers of the accesses before it. -/
def storeThenLoad : List (BitVec 32) :=
  [or32Addi ++ 3#5 ++ 0#5 ++ 0xfffe#16, or32Sh ++ 0#5 ++ 0#5 ++ 3#5 ++ 6#11,
    or32Lbz ++ 4#5 ++ 0#5 ++ 7#16] ++
  List.replicate 6 (or32Addi ++ 6#5 ++ 4#5 ++ 1#16)

end Wishbone

end Specs.Or1200
