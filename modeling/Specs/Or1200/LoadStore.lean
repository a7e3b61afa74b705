import Specs.Or1200.Lanes
import Specs.Or1200.Sequential

/-!
# Loads and stores

The datapath with its load/store unit and a memory on the other side of the bus.  When the
memory answers is open, so an access takes any number of cycles, may be taken back by a
flush, and may end with an error instead.  Still the pipeline executes its instructions one
after the other, now with the memory.
-/

namespace Specs.Or1200

open Specs.Bits

/-! ## Decoding -/

namespace Isa

theorem opcode_of_load {insn : BitVec 32} {size : Size} {signed : Bool}
    (h : access insn = some (.load size signed)) : opcode insn ∈ Operands.loadOpcodes := by
  by_contra hnot
  simp only [Operands.loadOpcodes, List.mem_cons, List.not_mem_nil, or_false, not_or] at hnot
  obtain ⟨hlwz, hlws, hlbz, hlbs, hlhz, hlhs⟩ := hnot
  rw [access, if_neg hlwz, if_neg hlws, if_neg hlbz, if_neg hlbs, if_neg hlhz, if_neg hlhs] at h
  repeat' split at h
  all_goals cases h

theorem opcode_of_store {insn : BitVec 32} {size : Size}
    (h : access insn = some (.store size)) : opcode insn ∈ Ctrl.storeOpcodes := by
  by_contra hnot
  simp only [Ctrl.storeOpcodes, List.mem_cons, List.not_mem_nil, or_false, not_or] at hnot
  obtain ⟨hsw, hsh, hsb⟩ := hnot
  rw [access, if_neg hsw, if_neg hsb, if_neg hsh] at h
  repeat' split at h
  all_goals cases h

theorem load_of_opcode {insn : BitVec 32} (h : opcode insn ∈ Operands.loadOpcodes) :
    ∃ size signed, access insn = some (.load size signed) := by
  simp only [Operands.loadOpcodes, List.mem_cons, List.not_mem_nil, or_false] at h
  rcases h with h | h | h | h | h | h
  · exact ⟨.word, false, by rw [access, h]; rfl⟩
  · exact ⟨.word, true, by rw [access, h]; rfl⟩
  · exact ⟨.byte, false, by rw [access, h]; rfl⟩
  · exact ⟨.byte, true, by rw [access, h]; rfl⟩
  · exact ⟨.half, false, by rw [access, h]; rfl⟩
  · exact ⟨.half, true, by rw [access, h]; rfl⟩

/-- What all loads and stores have in common. -/
theorem opcode_of_access {insn : BitVec 32} {acc : Access} (h : access insn = some acc) :
    opcode insn ∈ Operands.loadOpcodes ++ Ctrl.storeOpcodes := by
  cases acc with
  | load size signed => exact List.mem_append_left _ (opcode_of_load h)
  | store size => exact List.mem_append_right _ (opcode_of_store h)

theorem not_nop_of_access {insn : BitVec 32} {acc : Access} (h : access insn = some acc) :
    opcode insn ≠ or32Nop := by
  intro hnop
  have hmem := opcode_of_access h
  rw [hnop] at hmem
  exact absurd hmem (by decide)

theorem readsA_of_access {insn : BitVec 32} {acc : Access} (h : access insn = some acc) :
    Operands.readsA insn = true := by
  have hall : ∀ code ∈ Operands.loadOpcodes ++ Ctrl.storeOpcodes, code.getLsbD 5 = true := by
    decide
  exact readsA_of_opcode (hall _ (opcode_of_access h))

theorem readsB_of_store {insn : BitVec 32} {size : Size} (h : access insn = some (.store size)) :
    Operands.readsB insn = true := by
  have hall : ∀ code ∈ Ctrl.storeOpcodes, code.getLsbD 4 = true := by decide
  exact readsB_of_opcode (hall _ (opcode_of_store h))

/-- Loads and stores wait for nothing but the bus. -/
theorem waits_of_access {insn : BitVec 32} {acc : Access} (h : access insn = some acc) :
    Execute.waitOn insn = waitOnNothing ∧ Execute.multicycle insn = oneCycle := by
  have hmem := opcode_of_access h
  have hne : ∀ code ∉ Operands.loadOpcodes ++ Ctrl.storeOpcodes, opcode insn ≠ code := by
    rintro code hcode rfl
    exact hcode hmem
  constructor
  · rw [Execute.waitOn, if_neg (hne _ (by decide)), if_neg, if_neg (hne _ (by decide)),
      if_neg (hne _ (by decide))]
    rintro (hcode | hcode | hcode)
    · exact hne or32Macmsb (by decide) hcode
    · exact hne or32Maci (by decide) hcode
    · exact hne or32Muli (by decide) hcode
  · rw [Execute.multicycle, if_neg]
    rintro (hcode | hcode)
    · exact hne or32Rfe (by decide) hcode
    · exact hne or32Mfspr (by decide) hcode

/-- Only a load looks at what has been loaded. -/
theorem Machine.execute_congr {m : Machine} {r r' : Retired} (hinsn : r.insn = r'.insn)
    (hpc : r.pc = r'.pc) (hspecial : r.special = r'.special)
    (hloaded : opcode r.insn ∈ Operands.loadOpcodes → r.loaded = r'.loaded) :
    m.execute r = m.execute r' := by
  have hvalue : value m r = value m r' := by
    rw [value, value, ← hinsn, hpc, hspecial]
    split
    · rfl
    · split
      · rfl
      · split
        · next hload => rw [hloaded hload]
        · rfl
  rw [Machine.execute, Machine.execute, hvalue, hinsn]

theorem Computer.execute_of_nop {r : Issued} (h : opcode r.insn = or32Nop) (c : Computer) :
    c.execute r = c := by
  have hnone : access r.insn = none := by
    rw [access, h]
    rfl
  have hmachine := Machine.execute_of_nop (r := ⟨r.insn, r.pc, loaded c r.insn, r.special⟩) h c.machine
  rw [Computer.execute, hmachine, stored, hnone]

end Isa

namespace Lsu

open Isa

theorem misaligned_nop (sum : BitVec 3) : misaligned lsuopNop sum = false := by
  revert sum
  decide

theorem exceptAlign_next {s : State} (h : s.exceptAlign = misaligned s.exLsuOp s.dcpuAdrR)
    (i : In) : (next s i).exceptAlign = misaligned (next s i).exLsuOp (next s i).dcpuAdrR := by
  by_cases hrst : i.rst = true
  · simp [next, hrst, misaligned_nop]
  · by_cases hvoid : voidsEx i = true
    · simp [next, hrst, hvoid, misaligned_nop]
    · by_cases hfreeze : i.exFreeze = true
      · simp [next, hrst, hvoid, hfreeze, h]
      · simp [next, hrst, hvoid, hfreeze]

theorem dcpuAdrR_next_of_moves {i : In} (hrst : i.rst = false) (hmoves : i.exFreeze = false)
    (s : State) : (next s i).dcpuAdrR = idPrecalcSum i := by
  simp [next, hrst, hmoves]

theorem dcpuAdrR_next_of_frozen {i : In} (hrst : i.rst = false) (hfrozen : i.exFreeze = true)
    (s : State) : (next s i).dcpuAdrR = s.dcpuAdrR := by
  simp [next, hrst, hfrozen]

theorem idLsuOp_of_access {insn : BitVec 32} {acc : Access} (h : access insn = some acc) :
    idLsuOp insn = acc.lsuOp := by
  rw [idLsuOp_eq, h]
  rfl

theorem idLsuOp_of_none {insn : BitVec 32} (h : access insn = none) : idLsuOp insn = lsuopNop := by
  rw [idLsuOp_eq, h]
  rfl

end Lsu

/-- A frozen instruction that waits for nothing goes on so. -/
theorem Execute.waitingOn_next_of_nothing {s : State} {i : In} (hrst : i.rst = false)
    (hfrozen : exFreeze s i = true) (hwaiting : s.waitingOn = waitOnNothing) :
    (next s i).waitingOn = waitOnNothing := by
  simp [next, hrst, hfrozen, hwaiting, waitOnMultmac, waitOnFpu, waitOnMtspr]

namespace LoadStore

open Specs.Sync

structure In where
  datapath : Datapath.In
  lsu : Lsu.In
deriving Inhabited

structure State where
  datapath : Datapath.State
  lsu : Lsu.State
  memory : Memory 32
deriving Inhabited

/-! ## Wires -/

def exInsn (s : State) : BitVec 32 := Datapath.exInsn s.datapath

def idInsn (s : State) : BitVec 32 := (Datapath.ctrl s.datapath).idInsn

/-- The inputs of the load/store unit from EX and from the bus, but for the data.  Without
a data cache an access that is not acknowledged is to be repeated. -/
def requestIn (s : State) (i : In) : Lsu.In :=
  { i.lsu with
    rst := i.datapath.execute.rst
    exAddrbase := Datapath.operandA s.datapath
    exAddrofs := (Datapath.ctrl s.datapath).exSimm
    idAddrofs := Ctrl.idSimm (idInsn s)
    idLsuOp := Lsu.idLsuOp (idInsn s)
    lsuDatain := Datapath.operandB s.datapath
    duStall := i.datapath.execute.duStall
    flushpipe := i.datapath.execute.flushpipe
    dcpuRtyI := !i.lsu.dcpuAckI }

/-- The memory sees words. -/
def wordAddress (s : State) (i : In) : BitVec 32 :=
  (Lsu.dcpuAdrO s.lsu (requestIn s i)).extractLsb' 2 30 ++ 0#2

def lsuPorts (s : State) (i : In) : Lsu.In :=
  { requestIn s i with
    dcpuDatI :=
      if i.lsu.dcpuAckI then s.memory.read (wordAddress s i) 4 else i.lsu.dcpuDatI }

/-- The inputs of the datapath, with what the load/store unit makes of its ports. -/
def wired (l : Lsu.State) (ports : Lsu.In) (i : Datapath.In) : Datapath.In :=
  { i with
    execute :=
      { i.execute with
        lsuStall := Lsu.lsuStall l ports
        lsuUnstall := Lsu.lsuUnstall ports
        lsuDataout := Lsu.lsuDataout l ports }
    abort :=
      { i.abort with
        sigAlign := l.exceptAlign
        sigDtlbmiss := Lsu.exceptDtlbmiss ports
        sigDmmufault := Lsu.exceptDmmufault ports
        sigDbuserr := Lsu.exceptDbuserr ports } }

/-- The inputs of the load/store unit, with the operand and the freezes. -/
def unitIn (d : Datapath.State) (ports : Lsu.In) (i : Datapath.In) : Lsu.In :=
  { ports with
    idAddrbase := Operandmuxes.muxedA
      (Operands.operandmuxesIn d.execute.operands (Datapath.operandsIn d i))
    idFreeze := Operands.idFreeze (Datapath.operandsIn d i)
    exFreeze := Datapath.exFreeze d i }

def datapathIn (s : State) (i : In) : Datapath.In := wired s.lsu (lsuPorts s i) i.datapath

def exFreeze (s : State) (i : In) : Bool := Datapath.exFreeze s.datapath (datapathIn s i)

def abortEx (s : State) (i : In) : Bool :=
  Abort.abortEx (Datapath.abortIn s.datapath (datapathIn s i))

def operandsIn (s : State) (i : In) : Operands.In :=
  Datapath.operandsIn s.datapath (datapathIn s i)

def lsuIn (s : State) (i : In) : Lsu.In := unitIn s.datapath (lsuPorts s i) (datapathIn s i)

def next (s : State) (i : In) : State where
  datapath := Datapath.next s.datapath (datapathIn s i)
  lsu := Lsu.next s.lsu (lsuIn s i)
  memory :=
    if i.lsu.dcpuAckI && Lsu.dcpuWeO s.lsu then
      s.memory.writeLanes (wordAddress s i) 4 (Lsu.dcpuSelO s.lsu (lsuPorts s i))
        (Lsu.dcpuDatO s.lsu (lsuPorts s i))
    else s.memory

def gate : Gate In := ⟨fun i ↦ i.datapath.execute.rst, fun _ ↦ true⟩

def stateAt (s₀ : State) (tr : ℕ → In) (t : ℕ) : State := run next s₀ tr t

/-- There is something to be answered: the strobe, as it is without an answer. -/
def requests (s : State) (i : In) : Bool :=
  Lsu.dcpuCycstbO s.lsu { requestIn s i with dcpuAckI := false }

/-! ## The instruction in EX -/

/-- The registers of EX belong to the instruction in EX. -/
structure Consistent (s : State) : Prop where
  datapath : Datapath.Consistent s.datapath
  ctrl : Ctrl.Decoded (Datapath.ctrl s.datapath)
  exLsuOp : s.lsu.exLsuOp = Lsu.idLsuOp (exInsn s)
  exceptAlign : s.lsu.exceptAlign = Lsu.misaligned s.lsu.exLsuOp s.lsu.dcpuAdrR
  dcpuAdrR : opcode (exInsn s) ≠ or32Nop → s.lsu.dcpuAdrR =
    Lsu.precalcSum (Datapath.operandA s.datapath) (Datapath.ctrl s.datapath).exSimm
  notWaiting : ∀ acc, Isa.access (exInsn s) = some acc →
    s.datapath.execute.waitingOn = 0#2 ∧ s.datapath.execute.multicycleCnt = 0#3

/-- What is assumed of a cycle: what the datapath assumes, and that only a request is
acknowledged, and not if the instruction is aborted in the same cycle. -/
structure Plain (s : State) (i : In) : Prop where
  datapath : Datapath.Plain s.datapath (datapathIn s i)
  answers : i.lsu.dcpuAckI = true → requests s i = true ∧ abortEx s i = false

section

variable {s : State} {i : In}

instance (s : State) (i : In) : Decidable (Plain s i) :=
  decidable_of_iff (Datapath.Plain s.datapath (datapathIn s i) ∧
      (i.lsu.dcpuAckI = true → requests s i = true ∧ abortEx s i = false))
    ⟨fun h ↦ ⟨h.1, h.2⟩, fun h ↦ ⟨h.1, h.2⟩⟩

/-- What can happen to the instruction in EX in a cycle. -/
theorem exInsn_next_cases (hrst : i.datapath.execute.rst = false) :
    exInsn (next s i) = Ctrl.voidInsn ∨
      (Operands.EntersEx (operandsIn s i) ∧ exInsn (next s i) = idInsn s) ∨
        (exFreeze s i = true ∧ exInsn (next s i) = exInsn s) :=
  Operands.exInsn_next_cases s.datapath.execute.operands (i := operandsIn s i) hrst

theorem not_nop_of_void {insn : BitVec 32} (h : opcode insn ≠ or32Nop) : insn ≠ Ctrl.voidInsn := by
  rintro rfl
  exact h Ctrl.opcode_voidInsn

theorem exSimm_next (hrst : i.datapath.execute.rst = false) :
    (Datapath.ctrl (next s i).datapath).exSimm =
      if exFreeze s i then (Datapath.ctrl s.datapath).exSimm else Ctrl.idSimm (idInsn s) := by
  have hsimm : (Datapath.ctrl (next s i).datapath).exSimm =
      if i.datapath.execute.rst then 0
      else if !exFreeze s i then Ctrl.idSimm (idInsn s)
      else (Datapath.ctrl s.datapath).exSimm := rfl
  rw [hsimm, hrst]
  cases exFreeze s i <;> rfl

theorem Consistent.dcpuAdrR_next (h : Consistent s) (hrst : i.datapath.execute.rst = false)
    (hop : opcode (exInsn (next s i)) ≠ or32Nop) :
    (next s i).lsu.dcpuAdrR = Lsu.precalcSum (Datapath.operandA (next s i).datapath)
      (Datapath.ctrl (next s i).datapath).exSimm := by
  rw [exSimm_next hrst]
  rcases exInsn_next_cases (s := s) hrst with hvoid | ⟨⟨-, hmoves, hid, -⟩, -⟩ | ⟨hfrozen, hinsn⟩
  · exact absurd hvoid (not_nop_of_void hop)
  · have hmoves' : exFreeze s i = false := hmoves
    have hoperand : Datapath.operandA (next s i).datapath = (lsuIn s i).idAddrbase := by
      change (Operandmuxes.nextOperand _ _ s.datapath.execute.operands.operandmuxes.savedA
        (Operands.operandmuxesIn s.datapath.execute.operands (operandsIn s i))).1 = _
      rw [h.datapath.current.notSavedA, Operandmuxes.nextOperand_of_moves hrst hmoves hid]
      rfl
    rw [hoperand, hmoves', if_neg Bool.false_ne_true]
    exact Lsu.dcpuAdrR_next_of_moves (i := lsuIn s i) hrst hmoves s.lsu
  · obtain ⟨hoperand, -⟩ := Execute.operands_next_of_exFreeze (s := s.datapath.execute)
      (i := Datapath.executeIn s.datapath (datapathIn s i)) hrst hfrozen
    have hoperand' : Datapath.operandA (next s i).datapath = Datapath.operandA s.datapath :=
      hoperand
    rw [hinsn] at hop
    rw [hoperand', hfrozen, if_pos rfl, ← h.dcpuAdrR hop]
    exact Lsu.dcpuAdrR_next_of_frozen (i := lsuIn s i) hrst hfrozen s.lsu

theorem Consistent.notWaiting_next (h : Consistent s) (hrst : i.datapath.execute.rst = false)
    {acc : Isa.Access} (hacc : Isa.access (exInsn (next s i)) = some acc) :
    (next s i).datapath.execute.waitingOn = 0#2 ∧
      (next s i).datapath.execute.multicycleCnt = 0#3 := by
  have hop := Isa.not_nop_of_access hacc
  have hcnt : (next s i).datapath.execute.multicycleCnt =
      if i.datapath.execute.rst then 0
      else if s.datapath.execute.multicycleCnt ≠ 0 then s.datapath.execute.multicycleCnt - 1
      else if Execute.multicycle (idInsn s) ≠ 0 ∧ exFreeze s i = false then
        Execute.multicycle (idInsn s)
      else s.datapath.execute.multicycleCnt := rfl
  rcases exInsn_next_cases (s := s) hrst with hvoid | ⟨⟨-, hmoves, -, -⟩, hinsn⟩ | ⟨hfrozen, hinsn⟩
  · exact absurd hvoid (not_nop_of_void hop)
  · rw [hinsn] at hacc
    obtain ⟨hwait, hcycles⟩ := Isa.waits_of_access hacc
    obtain ⟨-, hzero⟩ := Execute.waitingOn_of_exFreeze (s := s.datapath.execute)
      (i := Datapath.executeIn s.datapath (datapathIn s i)) hmoves
    constructor
    · exact (Execute.waitingOn_next_of_moves (s := s.datapath.execute)
        (i := Datapath.executeIn s.datapath (datapathIn s i)) hrst hmoves).trans hwait
    · rw [hcnt, hrst, hzero, hcycles]
      rfl
  · rw [hinsn] at hacc
    obtain ⟨hwait, hzero⟩ := h.notWaiting acc hacc
    constructor
    · exact Execute.waitingOn_next_of_nothing (s := s.datapath.execute)
        (i := Datapath.executeIn s.datapath (datapathIn s i)) hrst hfrozen hwait
    · rw [hcnt, hrst, hzero, hfrozen]
      simp

theorem Consistent.next (h : Consistent s) (hplain : Plain s i) : Consistent (next s i) where
  datapath := h.datapath.next hplain.datapath
  ctrl := h.ctrl.next (Operands.ctrlIn (operandsIn s i))
  exLsuOp := by
    have hop : (LoadStore.next s i).lsu.exLsuOp = Lsu.idLsuOp (exInsn (LoadStore.next s i)) :=
      @Execute.latch_decode _ lsuopNop _ Lsu.idLsuOp s.datapath.execute
        (Datapath.executeIn s.datapath (datapathIn s i)) rfl h.exLsuOp
    exact hop
  exceptAlign := Lsu.exceptAlign_next h.exceptAlign (lsuIn s i)
  dcpuAdrR := h.dcpuAdrR_next hplain.datapath.running
  notWaiting _ := h.notWaiting_next hplain.datapath.running

/-- After a reset, whatever the memory is. -/
theorem consistent_next_of_rst {d : Datapath.State} {l : Lsu.State} {di : Datapath.In}
    {li : Lsu.In} (hrst : di.execute.rst = true) (hrst' : li.rst = true)
    (hquiet : Operands.Undisturbed (Datapath.operandsIn d di)) (m : Memory 32) :
    Consistent { datapath := Datapath.next d di, lsu := Lsu.next l li, memory := m } := by
  have hinsn : Datapath.exInsn (Datapath.next d di) = Ctrl.voidInsn := if_pos hrst
  have hop : (Lsu.next l li).exLsuOp = lsuopNop := if_pos hrst'
  have halign : (Lsu.next l li).exceptAlign = false := if_pos hrst'
  constructor
  case datapath => exact Datapath.consistent_next_of_rst hrst hquiet
  case ctrl => exact Ctrl.decoded_next_of_rst (Datapath.ctrl d) hrst
  case exLsuOp =>
    refine hop.trans ?_
    change lsuopNop = Lsu.idLsuOp (Datapath.exInsn (Datapath.next d di))
    rw [hinsn]
    rfl
  case exceptAlign =>
    change (Lsu.next l li).exceptAlign = Lsu.misaligned (Lsu.next l li).exLsuOp _
    rw [halign, hop, Lsu.misaligned_nop]
  case dcpuAdrR =>
    intro hne
    exact absurd hinsn (not_nop_of_void hne)
  case notWaiting =>
    intro acc hacc
    change Isa.access (Datapath.exInsn (Datapath.next d di)) = some acc at hacc
    rw [hinsn] at hacc
    cases hacc

/-! ## The bus -/

theorem requests_iff :
    requests s i = true ↔ i.datapath.execute.duStall = false ∧ s.lsu.exceptAlign = false ∧
      s.lsu.exLsuOp ≠ lsuopNop := by
  have hunfold : requests s i =
      if i.datapath.execute.duStall || false || s.lsu.exceptAlign then false
      else s.lsu.exLsuOp != 0#4 := rfl
  rw [hunfold, Bool.or_false]
  cases i.datapath.execute.duStall <;> cases s.lsu.exceptAlign <;> simp

theorem Consistent.access_of_requests (h : Consistent s) (hrequest : requests s i = true) :
    ∃ acc, Isa.access (exInsn s) = some acc := by
  obtain ⟨-, -, hop⟩ := requests_iff.mp hrequest
  rw [h.exLsuOp] at hop
  cases hacc : Isa.access (exInsn s) with
  | none => exact absurd (Lsu.idLsuOp_of_none hacc) hop
  | some acc => exact ⟨acc, rfl⟩

theorem exFreeze_eq (s : State) (i : In) :
    exFreeze s i = ((Lsu.lsuStall s.lsu (lsuPorts s i) ||
        (!i.lsu.dcpuAckI && i.datapath.execute.ifStall) ||
        s.datapath.execute.multicycleCnt != 0#3 || s.datapath.execute.waitingOn != 0#2) ||
      i.datapath.execute.duStall || abortEx s i) := rfl

/-- An access is over when it is acknowledged. -/
theorem Plain.moves_of_ack (hplain : Plain s i) (h : Consistent s)
    (hack : i.lsu.dcpuAckI = true) : exFreeze s i = false := by
  obtain ⟨hrequest, habort⟩ := hplain.answers hack
  obtain ⟨acc, hacc⟩ := h.access_of_requests hrequest
  obtain ⟨hwaiting, hcnt⟩ := h.notWaiting acc hacc
  obtain ⟨hdu, -, -⟩ := requests_iff.mp hrequest
  have hstall : Lsu.lsuStall s.lsu (lsuPorts s i) = false := by
    have hrty : (lsuPorts s i).dcpuRtyI = !i.lsu.dcpuAckI := rfl
    rw [Lsu.lsuStall, hrty, hack]
    rfl
  rw [exFreeze_eq, hstall, hack, hcnt, hwaiting, hdu, habort]
  rfl

/-- An access that is over has been acknowledged, and its address was not refused. -/
theorem Consistent.ack_of_moves (h : Consistent s) {acc : Isa.Access}
    (hacc : Isa.access (exInsn s) = some acc) (hmoves : exFreeze s i = false) :
    i.lsu.dcpuAckI = true ∧ s.lsu.exceptAlign = false := by
  rw [exFreeze_eq, Bool.or_eq_false_iff, Bool.or_eq_false_iff, Bool.or_eq_false_iff,
    Bool.or_eq_false_iff, Bool.or_eq_false_iff] at hmoves
  obtain ⟨⟨⟨⟨⟨hstall, -⟩, -⟩, -⟩, hdu⟩, habort⟩ := hmoves
  have halign : s.lsu.exceptAlign = false := by
    rw [← Bool.not_eq_true]
    intro halign
    have hvoid : Ctrl.exVoid (Datapath.ctrl s.datapath) = false := by
      rw [Ctrl.exVoid, Bool.and_eq_false_iff, beq_eq_false_iff_ne]
      exact Or.inl (Isa.not_nop_of_access hacc)
    have hexVoid : (Datapath.abortIn s.datapath (datapathIn s i)).exVoid = false := hvoid
    have hsig : (Datapath.abortIn s.datapath (datapathIn s i)).sigAlign = true := halign
    rw [abortEx, Abort.abortEx, hexVoid, hsig] at habort
    simp at habort
  refine ⟨?_, halign⟩
  by_contra hnot
  have hack : i.lsu.dcpuAckI = false := Bool.eq_false_iff.mpr hnot
  have hop : s.lsu.exLsuOp ≠ 0#4 := by
    rw [h.exLsuOp, Lsu.idLsuOp_of_access hacc]
    exact Lsu.lsuOp_ne_nop acc
  have hunfold : Lsu.lsuStall s.lsu (lsuPorts s i) = (!i.lsu.dcpuAckI &&
      if i.datapath.execute.duStall || i.lsu.dcpuAckI || s.lsu.exceptAlign then false
      else s.lsu.exLsuOp != 0#4) := rfl
  rw [hunfold, hack, hdu, halign] at hstall
  simp [hop] at hstall

end

/-! ## Agreement -/

/-- The registers and the memory are those of the sequential machine. -/
structure Agrees (s : State) (c : Isa.Computer) : Prop where
  machine : Datapath.Agrees s.datapath c.machine
  memory : s.memory = c.memory

/-- The instruction that leaves EX. -/
def leaving (s : State) (i : In) : Isa.Issued where
  insn := exInsn s
  pc := i.datapath.execute.exPc
  special := Sprs.toWbmux s.datapath.sprs (Datapath.sprsIn s.datapath (datapathIn s i))

/-- The instructions that leave EX in a cycle, void ones apart. -/
def retired (s : State) (i : In) : List Isa.Issued :=
  if exFreeze s i || Ctrl.exVoid (Datapath.ctrl s.datapath) then [] else [leaving s i]

section

variable {s : State} {i : In} {c : Isa.Computer} {acc : Isa.Access}

theorem Agrees.dcpuAdrO (ha : Agrees s c) (h : Consistent s)
    (hacc : Isa.access (exInsn s) = some acc) (i : In) :
    Lsu.dcpuAdrO s.lsu (requestIn s i) = Isa.address c.machine (exInsn s) := by
  have hop := Isa.not_nop_of_access hacc
  have hsum : s.lsu.dcpuAdrR =
      Lsu.precalcSum (requestIn s i).exAddrbase (requestIn s i).exAddrofs := h.dcpuAdrR hop
  have hsimm : (requestIn s i).exAddrofs = Ctrl.idSimm (exInsn s) := h.ctrl.simm hop
  have hbase : (requestIn s i).exAddrbase = Isa.sourceA c.machine (exInsn s) :=
    ha.machine.sourceA h.datapath (Isa.readsA_of_access hacc)
  rw [Lsu.dcpuAdrO_eq hsum, hsimm, hbase, Isa.address]

/-- The accesses that raise an alignment exception are those at addresses that their size does
not divide. -/
theorem Agrees.exceptAlign_iff (ha : Agrees s c) (h : Consistent s)
    (hacc : Isa.access (exInsn s) = some acc) :
    s.lsu.exceptAlign = true ↔
      ¬acc.size.bytes ∣ (Isa.address c.machine (exInsn s)).toNat := by
  have hop := Isa.not_nop_of_access hacc
  have hbase : Datapath.operandA s.datapath = Isa.sourceA c.machine (exInsn s) :=
    ha.machine.sourceA h.datapath (Isa.readsA_of_access hacc)
  rw [h.exceptAlign, h.exLsuOp, Lsu.idLsuOp_of_access hacc, Lsu.misaligned_iff, h.dcpuAdrR hop,
    hbase, h.ctrl.simm hop, Isa.address]
  exact not_congr (Lsu.dvd_congr (Lsu.toNat_precalcSum _ _))

theorem extractLsb'_address (a : BitVec 32) : a.extractLsb' 2 30 ++ a.extractLsb' 0 2 = a :=
  @BitVec.extractLsb'_append_extractLsb' 30 2 a

/-- The low bits of an address that an access leaves through. -/
theorem Agrees.dvd_low (ha : Agrees s c) (h : Consistent s)
    (hacc : Isa.access (exInsn s) = some acc) (halign : s.lsu.exceptAlign = false) :
    acc.size.bytes ∣ ((Isa.address c.machine (exInsn s)).extractLsb' 0 2).toNat := by
  have hdvd : acc.size.bytes ∣ (Isa.address c.machine (exInsn s)).toNat := by
    by_contra hnot
    exact absurd (halign.symm.trans ((ha.exceptAlign_iff h hacc).mpr hnot)) Bool.false_ne_true
  refine (Lsu.dvd_congr ?_).mp hdvd
  rw [BitVec.extractLsb'_toNat, Nat.shiftRight_zero]
  exact (Nat.mod_mod _ 4).symm

/-- A load that is acknowledged gets what the memory holds. -/
theorem Agrees.lsuDataout (ha : Agrees s c) (h : Consistent s) {size : Isa.Size} {signed : Bool}
    (hacc : Isa.access (exInsn s) = some (.load size signed)) (hmoves : exFreeze s i = false) :
    Lsu.lsuDataout s.lsu (lsuPorts s i) = Isa.loaded c (exInsn s) := by
  obtain ⟨hack, halign⟩ := h.ack_of_moves hacc hmoves
  have hadr := ha.dcpuAdrO h hacc i
  have hdat : (lsuPorts s i).dcpuDatI = s.memory.read (wordAddress s i) 4 := if_pos hack
  have hadr' : Lsu.dcpuAdrO s.lsu (lsuPorts s i) = Isa.address c.machine (exInsn s) := hadr
  have hdvd : size.bytes ∣ ((Isa.address c.machine (exInsn s)).extractLsb' 0 2).toNat :=
    ha.dvd_low h hacc halign
  rw [Lsu.lsuDataout, hadr', hdat, wordAddress, hadr, h.exLsuOp, Lsu.idLsuOp_of_access hacc,
    Lsu.regdata_read hdvd, extractLsb'_address, Isa.loaded, hacc, ha.memory]

/-- Only an acknowledged store changes the memory. -/
theorem Agrees.memory_next (ha : Agrees s c) (h : Consistent s) (hplain : Plain s i) :
    (next s i).memory = if exFreeze s i then c.memory else Isa.stored c (exInsn s) := by
  have hmemory : (next s i).memory =
      if i.lsu.dcpuAckI && Lsu.dcpuWeO s.lsu then
        s.memory.writeLanes (wordAddress s i) 4 (Lsu.dcpuSelO s.lsu (lsuPorts s i))
          (Lsu.dcpuDatO s.lsu (lsuPorts s i))
      else s.memory := rfl
  rw [hmemory, ← ha.memory]
  cases hfreeze : exFreeze s i with
  | true =>
      have hack : i.lsu.dcpuAckI = false := by
        rw [← Bool.not_eq_true]
        intro hack
        exact absurd ((hplain.moves_of_ack h hack).symm.trans hfreeze) Bool.false_ne_true
      rw [hack, Bool.false_and, if_neg Bool.false_ne_true, if_pos rfl]
  | false =>
      rw [if_neg Bool.false_ne_true]
      cases hacc : Isa.access (exInsn s) with
      | none =>
          have hwe : Lsu.dcpuWeO s.lsu = false := by
            rw [Lsu.dcpuWeO, h.exLsuOp, Lsu.idLsuOp_of_none hacc]
            rfl
          rw [hwe, Bool.and_false, if_neg Bool.false_ne_true, Isa.stored, hacc]
          exact ha.memory
      | some acc =>
          have hwe : Lsu.dcpuWeO s.lsu = acc.lsuOp.getLsbD 3 := by
            rw [Lsu.dcpuWeO, h.exLsuOp, Lsu.idLsuOp_of_access hacc]
          rw [hwe]
          cases acc with
          | load size signed =>
              rw [Lsu.lsuOp_load, Bool.and_false, if_neg Bool.false_ne_true, Isa.stored, hacc]
              exact ha.memory
          | store size =>
              obtain ⟨hack, halign⟩ := h.ack_of_moves hacc hfreeze
              have hadr := ha.dcpuAdrO h hacc i
              have hadr' : Lsu.dcpuAdrO s.lsu (lsuPorts s i) =
                  Isa.address c.machine (exInsn s) := hadr
              have hdatain : (lsuPorts s i).lsuDatain = Isa.sourceB c.machine (exInsn s) :=
                ha.machine.sourceB h.datapath fun _ ↦ Isa.readsB_of_store hacc
              have hdvd : size.bytes ∣
                  ((Isa.address c.machine (exInsn s)).extractLsb' 0 2).toNat :=
                ha.dvd_low h hacc halign
              rw [hack, Lsu.lsuOp_store, Bool.and_self, if_pos rfl, Lsu.dcpuSelO, Lsu.dcpuDatO,
                hadr', wordAddress, hadr, hdatain, h.exLsuOp, Lsu.idLsuOp_of_access hacc,
                Lsu.writeLanes_store hdvd, extractLsb'_address, Isa.stored, hacc, ha.memory]

/-- One cycle, seen by the sequential machine. -/
theorem Agrees.next (ha : Agrees s c) (h : Consistent s) (hplain : Plain s i) :
    Agrees (LoadStore.next s i) ((retired s i).foldl Isa.Computer.execute c) := by
  have hmemory := ha.memory_next h hplain
  rw [retired]
  cases hfreeze : exFreeze s i with
  | true =>
      rw [hfreeze, if_pos rfl] at hmemory
      exact ⟨ha.machine.next_of_frozen h.datapath hplain.datapath hfreeze, hmemory⟩
  | false =>
      rw [hfreeze, if_neg Bool.false_ne_true] at hmemory
      have hnext : Agrees (LoadStore.next s i) (c.execute (leaving s i)) := by
        refine ⟨?_, hmemory⟩
        have hmachine := ha.machine.next_of_moves h.datapath hplain.datapath hfreeze
        have hloaded : opcode (exInsn s) ∈ Operands.loadOpcodes →
            Lsu.lsuDataout s.lsu (lsuPorts s i) = Isa.loaded c (exInsn s) := by
          intro hload
          obtain ⟨size, signed, hacc⟩ := Isa.load_of_opcode hload
          exact ha.lsuDataout h hacc hfreeze
        have hsame : c.machine.execute (Datapath.leaving s.datapath (datapathIn s i)) =
            c.machine.execute ⟨exInsn s, i.datapath.execute.exPc, Isa.loaded c (exInsn s),
              (leaving s i).special⟩ :=
          Isa.Machine.execute_congr rfl rfl rfl hloaded
        rw [hsame] at hmachine
        exact hmachine
      cases hvoid : Ctrl.exVoid (Datapath.ctrl s.datapath) with
      | false => exact hnext
      | true =>
          have hop : opcode (leaving s i).insn = or32Nop := Datapath.opcode_of_exVoid hvoid
          rw [Isa.Computer.execute_of_nop hop] at hnext
          exact hnext

/-! ## Runs -/

end

section

variable (s₀ : State) (tr : ResetTrace gate)

/-- The instructions that leave EX in the `n` cycles after the reset. -/
def program (n : ℕ) : List Isa.Issued := observed retired next s₀ tr 1 n

/-- The registers and the memory after the reset. -/
def initial : Isa.Computer where
  machine :=
    { regs := (stateAt s₀ tr 1).datapath.execute.operands.rf.rfA.mem
      flag := false
      carry := false }
  memory := (stateAt s₀ tr 1).memory

/-- The two copies of the register file start with the same contents. -/
def SameCopies : Prop := Datapath.SameCopies s₀.datapath

theorem agrees_initial (hcopies : SameCopies s₀) : Agrees (stateAt s₀ tr 1) (initial s₀ tr) where
  machine := Datapath.agrees_next_of_rst (i := datapathIn s₀ (tr 0)) tr.reset_first hcopies
  memory := rfl

section

variable (hquiet : Operands.Undisturbed (operandsIn s₀ (tr 0)))
include hquiet

theorem consistent_stateAt {n : ℕ}
    (hplain : ∀ k < n, Plain (stateAt s₀ tr (1 + k)) (tr (1 + k))) :
    Consistent (stateAt s₀ tr (1 + n)) := by
  induction n with
  | zero =>
      exact @consistent_next_of_rst s₀.datapath s₀.lsu (datapathIn s₀ (tr 0)) (lsuIn s₀ (tr 0))
        tr.reset_first tr.reset_first hquiet (next s₀ (tr 0)).memory
  | succ n ih =>
      have hbefore := ih fun k hk ↦ hplain k (hk.trans (Nat.lt_succ_self n))
      exact hbefore.next (hplain n (Nat.lt_succ_self n))

end

end

/-- The pipeline is fed with a program, and the memory answers in the cycles `acks`. -/
def served (insns : List (BitVec 32)) (acks : List ℕ) : ResetTrace gate where
  cycle t :=
    { datapath := { (default : Datapath.In) with execute := Execute.program insns t }
      lsu := { (default : Lsu.In) with dcpuAckI := decide (t ∈ acks) } }
  reset_first := rfl

/-- `l.addi r3,r0,-2`, `l.sh 6(r0),r3`, `l.lbz r4,7(r0)`, `l.lhs r5,6(r0)` and
`l.add r6,r4,r5`, the last two of which wait for the accesses before them. -/
def storeThenLoads : List (BitVec 32) :=
  [or32Addi ++ 3#5 ++ 0#5 ++ 0xfffe#16, or32Sh ++ 0#5 ++ 0#5 ++ 3#5 ++ 6#11,
    or32Lbz ++ 4#5 ++ 0#5 ++ 7#16] ++
  List.replicate 3 (or32Lhs ++ 5#5 ++ 0#5 ++ 6#16) ++
  List.replicate 2 (or32Alu ++ 6#5 ++ 4#5 ++ 5#5 ++ 0#11)

end LoadStore

end Specs.Or1200
