import Specs.Or1200.System

/-!
# One cycle of the fetch

What the stages, the saved word and the program counter do in a cycle in which nothing
interrupts the program.  The program counter and the address register on the port always
hold the same address, and a transfer starts with the page that goes with it.
-/

namespace Specs.Or1200.System

/-! ## Words -/

theorem isVoid_voidInsn : Ctrl.isVoid Ctrl.voidInsn = true := by decide

theorem isVoid_waitingInsn : Ctrl.isVoid If.waitingInsn = true := by decide

theorem word_append (a : BitVec 30) (b c : BitVec 1) : (a ++ b ++ c).extractLsb' 2 30 = a := by
  apply BitVec.eq_of_getLsbD_eq
  intro n hn
  simp [hn]
  grind

theorem page_append (a : BitVec 32) :
    (a.extractLsb' 13 19 ++ a.extractLsb' 2 11 ++ 0#2).extractLsb' 2 30 = a.extractLsb' 2 30 := by
  rw [BitVec.extractLsb'_append_extractLsb'_eq_extractLsb' (by rfl)]
  exact BitVec.extractLsb'_append_eq_left

theorem word_zero (a : BitVec 30) : (a ++ 0#2).extractLsb' 2 30 = a :=
  BitVec.extractLsb'_append_eq_left

/-! ## Assumptions and invariant -/

/-- What is assumed of a cycle: what the load/store unit assumes, no exception, no bus error and
no translation of the fetch, no `l.rfe` in ID, and no filler among the words of the program. -/
structure Plain (rom : BitVec 30 → BitVec 32) (s : State) (i : In) : Prop where
  core : LoadStore.Plain s.core (coreIn rom s i)
  notFlushed : flushpipe rom s i = false
  notAborted : LoadStore.abortEx s.core (coreIn rom s i) = false
  untranslated : (immuPorts s i).immuEn = false
  noError : busErr s i = false
  proper : icpuAckI s i = true → Ctrl.isVoid (fetched rom s i) = false
  notRfe : s.idBranchOp ≠ branchopRfe

/-- The registers of the fetch belong to the instructions in ID and EX, and no flush is left. -/
structure Quiet (s : State) : Prop where
  ifBypassReg : s.fetch.ifBypassReg = false
  flushpipeR : s.flushpipeR = false
  itlbEnR : s.immu.itlbEnR = false
  single : WbBiu.Single s.biu
  idBranchOp : s.idBranchOp = Ctrl.decodeBranchOp (idInsn s)
  exBranchOp : s.exBranchOp = Ctrl.decodeBranchOp (exInsn s)
  exBranchAddrtarget : exVoid s = false →
    s.exBranchAddrtarget = Ctrl.branchOffset (exInsn s) + s.except.exPc.extractLsb' 2 30
  address : (Immu.icpuAdrO s.immu).extractLsb' 2 30 = Genpc.pcreg s.genpc
  icpuAdrSelect : s.immu.icpuAdrSelect = s.genpc.pcregSelect
  boots : s.genpc.pcregSelect = true → s.biu.wbFsmState = .idle ∧ exVoid s = true

section

variable {rom : BitVec 30 → BitVec 32} {s : State} {i : In}

theorem Plain.running (h : Plain rom s i) : rst i = false := h.core.datapath.running

theorem Plain.notExcepted (h : Plain rom s i) :
    Except.exceptFlushpipe s.except (exceptPorts rom s i) = false ∧ pcWe s i = false ∧
      s.except.extendFlush = false := by
  have hflush := h.notFlushed
  rw [flushpipe, Bool.or_eq_false_iff, Bool.or_eq_false_iff] at hflush
  exact ⟨hflush.1.1, hflush.1.2, hflush.2⟩

theorem Plain.exceptStart (h : Plain rom s i) : Except.exceptStart s.except = false := by
  rw [Except.exceptStart, h.notExcepted.2.2, Bool.and_false]

theorem Plain.exFreeze_eq (h : Plain rom s i) : exFreeze s i = idFreeze s i := by
  have hunfold : exFreeze s i = (idFreeze s i || LoadStore.abortEx s.core (coreIn rom s i)) := rfl
  rw [hunfold, h.notAborted, Bool.or_false]

theorem Quiet.icpuErrI_eq (hq : Quiet s) (i : In) : icpuErrI s i = busErr s i := by
  have hdone : Immu.itlbDone s.immu (immuPorts s i) = false := by
    rw [Immu.itlbDone, hq.itlbEnR, Bool.false_and]
  rw [icpuErrI, Immu.icpuErrO, Immu.miss, Immu.fault, hdone, Bool.false_and, Bool.false_and]
  rfl

theorem Plain.icpuRtyI_eq (h : Plain rom s i) : icpuRtyI s i = !icpuAckI s i := by
  rw [icpuRtyI, h.noError, Bool.not_false, Bool.and_true]

theorem Plain.ifFreeze_eq (h : Plain rom s i) : (ifIn rom s i).ifFreeze = idFreeze s i := by
  have hunfold : (ifIn rom s i).ifFreeze = (idFreeze s i || s.except.extendFlush) := rfl
  rw [hunfold, h.notExcepted.2.2, Bool.or_false]

theorem Plain.ifBypass (h : Plain rom s i) (hq : Quiet s) :
    If.ifBypass s.fetch (ifIn rom s i) = false := by
  have hflush : (ifIn rom s i).ifFlushpipe = false := h.notFlushed
  rw [If.ifBypass, hq.ifBypassReg, hflush, Bool.or_false, ite_self]

theorem Plain.exBranchOp_ne (h : Plain rom s i) : s.exBranchOp ≠ branchopRfe :=
  h.core.datapath.notRfe

theorem Plain.ifInsn_eq (h : Plain rom s i) (hq : Quiet s) :
    If.ifInsn s.fetch (ifIn rom s i) =
      if noMoreDslot s i then Ctrl.voidInsn
      else if s.fetch.saved then s.fetch.insnSaved
      else if icpuAckI s i then fetched rom s i
      else If.waitingInsn := by
  have hrfe : (ifIn rom s i).rfe = false := by
    change (s.idBranchOp == branchopRfe || s.exBranchOp == branchopRfe) = false
    rw [beq_eq_false_iff_ne.mpr h.notRfe, beq_eq_false_iff_ne.mpr h.exBranchOp_ne, Bool.or_false]
  rw [If.ifInsn, h.ifBypass hq, hrfe, Bool.or_false, Bool.or_false]
  rfl

/-! ## One cycle of the stages -/

theorem Plain.idInsn_next (h : Plain rom s i) :
    idInsn (next rom s i) =
      if idFreeze s i then idInsn s else If.ifInsn s.fetch (ifIn rom s i) := by
  have hnext : idInsn (next rom s i) =
      if rst i then Ctrl.voidInsn
      else if flushpipe rom s i then Ctrl.voidInsn
      else if !idFreeze s i then If.ifInsn s.fetch (ifIn rom s i)
      else idInsn s := rfl
  rw [hnext, h.running, h.notFlushed]
  cases idFreeze s i <;> rfl

theorem Plain.exInsn_next (h : Plain rom s i) :
    exInsn (next rom s i) = if idFreeze s i then exInsn s else idInsn s := by
  have hnext : exInsn (next rom s i) =
      if rst i then Ctrl.voidInsn
      else if (!exFreeze s i && idFreeze s i) || flushpipe rom s i then Ctrl.voidInsn
      else if !exFreeze s i then idInsn s
      else exInsn s := rfl
  rw [hnext, h.running, h.notFlushed, h.exFreeze_eq]
  cases idFreeze s i <;> rfl

theorem Plain.idPc_next (h : Plain rom s i) :
    (next rom s i).except.idPc =
      if idFreeze s i then s.except.idPc else If.ifPc s.fetch (ifIn rom s i) := by
  have hnext : (next rom s i).except.idPc =
      if rst i then 0
      else if !flushpipe rom s i && !idFreeze s i then If.ifPc s.fetch (ifIn rom s i)
      else s.except.idPc := rfl
  rw [hnext, h.running, h.notFlushed]
  cases idFreeze s i <;> rfl

theorem Plain.exPc_next (h : Plain rom s i) :
    (next rom s i).except.exPc = if idFreeze s i then s.except.exPc else s.except.idPc := by
  have hnext : (next rom s i).except.exPc =
      if rst i then 0
      else if !exFreeze s i && !flushpipe rom s i then s.except.idPc
      else s.except.exPc := rfl
  rw [hnext, h.running, h.notFlushed, h.exFreeze_eq]
  cases idFreeze s i <;> rfl

theorem Plain.saved_next (h : Plain rom s i) (hq : Quiet s) :
    (next rom s i).fetch.saved = (idFreeze s i && (s.fetch.saved || icpuAckI s i)) := by
  have hnext : (next rom s i).fetch.saved =
      if rst i then false
      else if flushpipe rom s i then false
      else if If.saveInsn s.fetch (ifIn rom s i) then true
      else if !(ifIn rom s i).ifFreeze then false
      else s.fetch.saved := rfl
  have hsave : If.saveInsn s.fetch (ifIn rom s i) =
      ((icpuAckI s i || icpuErrI s i) && (ifIn rom s i).ifFreeze && !s.fetch.saved) := rfl
  rw [hnext, hsave, h.running, h.notFlushed, h.ifFreeze_eq, hq.icpuErrI_eq, h.noError]
  cases idFreeze s i <;> cases s.fetch.saved <;> cases icpuAckI s i <;> rfl

theorem Plain.saved_of_moves (h : Plain rom s i) (hq : Quiet s) (hmoves : idFreeze s i = false) :
    (next rom s i).fetch.saved = false := by
  rw [h.saved_next hq, hmoves, Bool.false_and]

/-! ## The word for ID -/

/-- The word for ID, once there is one. -/
def word (rom : BitVec 30 → BitVec 32) (s : State) (i : In) : BitVec 32 :=
  if s.fetch.saved then s.fetch.insnSaved else fetched rom s i

theorem Quiet.ifPc_eq (hq : Quiet s) :
    If.ifPc s.fetch (ifIn rom s i) =
      if s.fetch.saved then s.fetch.addrSaved else Genpc.pcreg s.genpc ++ 0#2 := by
  have hadr : (ifIn rom s i).icpuAdrI.extractLsb' 2 30 = Genpc.pcreg s.genpc := hq.address
  rw [If.ifPc, hadr]

theorem Plain.ifInsn_of_word (h : Plain rom s i) (hq : Quiet s) (hmore : noMoreDslot s i = false)
    (hword : (s.fetch.saved || icpuAckI s i) = true) :
    If.ifInsn s.fetch (ifIn rom s i) = word rom s i := by
  rw [h.ifInsn_eq hq, hmore, if_neg Bool.false_ne_true, word]
  cases hsaved : s.fetch.saved with
  | true => rfl
  | false =>
      rw [hsaved, Bool.false_or] at hword
      rw [hword, if_pos rfl]

/-- A word that is there while ID is frozen is kept with its address. -/
theorem Plain.saved_of_frozen (h : Plain rom s i) (hq : Quiet s) (hfrozen : idFreeze s i = true)
    (hword : (s.fetch.saved || icpuAckI s i) = true) :
    (next rom s i).fetch.insnSaved = word rom s i ∧
      (next rom s i).fetch.addrSaved = If.ifPc s.fetch (ifIn rom s i) := by
  have hflush : (ifIn rom s i).ifFlushpipe = false := h.notFlushed
  have hrst : (ifIn rom s i).rst = false := h.running
  have hfreeze : (ifIn rom s i).ifFreeze = true := h.ifFreeze_eq.trans hfrozen
  have hfetch : (next rom s i).fetch = If.next s.fetch (ifIn rom s i) := rfl
  rw [hfetch, word, If.ifPc]
  cases hsaved : s.fetch.saved with
  | true =>
      have hsave : If.saveInsn s.fetch (ifIn rom s i) = false := by
        rw [If.saveInsn, hsaved, Bool.not_true, Bool.and_false]
      simp [If.next, hsave, hflush, hrst, hfreeze]
  | false =>
      rw [hsaved, Bool.false_or] at hword
      have hack : (ifIn rom s i).icpuAckI = true := hword
      have hsave : If.saveInsn s.fetch (ifIn rom s i) = true := by
        rw [If.saveInsn, hsaved, hack, hfreeze]
        rfl
      have herr : (ifIn rom s i).icpuErrI = false := (hq.icpuErrI_eq i).trans h.noError
      have hdat : (ifIn rom s i).icpuDatI = fetched rom s i := rfl
      simp [If.next, hsave, hflush, hrst, herr, hdat]

/-! ## The address -/

/-- Where the program counter goes when a word has been fetched. -/
def branchPc (s : State) (i : In) : BitVec 30 :=
  (Genpc.pc s.genpc (branchPorts s i)).extractLsb' 2 30

theorem Plain.icpuAdrO_word (h : Plain rom s i) (hq : Quiet s) :
    (icpuAdrO s i).extractLsb' 2 30 =
      if !noMoreDslot s i && (!icpuAckI s i || s.fetch.saved) then Genpc.pcreg s.genpc
      else branchPc s i := by
  have hunfold : icpuAdrO s i =
      if !noMoreDslot s i && !Except.exceptStart s.except && !pcWe s i &&
          (icpuRtyI s i || (s.fetch.saved && icpuAckI s i)) then Immu.icpuAdrO s.immu
      else (Genpc.pc s.genpc (branchPorts s i)).extractLsb' 2 30 ++ 0#1 ++
        BitVec.ofBool (exBranchTaken s i || pcWe s i) := rfl
  have hwait : (icpuRtyI s i || (s.fetch.saved && icpuAckI s i)) =
      (!icpuAckI s i || s.fetch.saved) := by
    rw [h.icpuRtyI_eq]
    cases icpuAckI s i <;> cases s.fetch.saved <;> rfl
  rw [hunfold, h.exceptStart, h.notExcepted.2.1, hwait, Bool.not_false, Bool.and_true,
    Bool.and_true]
  split
  · exact hq.address
  · exact word_append _ _ _

theorem Plain.genpcFreeze_eq (h : Plain rom s i) (hq : Quiet s) (hack : icpuAckI s i = true)
    (hsaved : s.fetch.saved = false) : genpcFreeze rom s i = false := by
  have hsaving : If.savingIfInsn s.fetch (ifIn rom s i) = idFreeze s i := by
    have hflush : (ifIn rom s i).ifFlushpipe = false := h.notFlushed
    have hack' : (ifIn rom s i).icpuAckI = true := hack
    rw [If.savingIfInsn, If.saveInsn, hflush, hack', hsaved, h.ifFreeze_eq, Bool.not_false,
      Bool.true_or, Bool.true_and, Bool.true_and, Bool.and_true]
  have hdu : (freezeIn s i).duStall = true → idFreeze s i = true := by
    intro hdu
    rw [idFreeze, Freeze.idFreeze, hdu, Bool.or_true]
  rw [genpcFreeze, Freeze.genpcFreeze, hsaving, hq.flushpipeR, Bool.or_false]
  cases hstall : (freezeIn s i).duStall with
  | false => rfl
  | true => rw [hdu hstall]; rfl

theorem icpuAckI_of_idle {s : State} {i : In} (hidle : s.biu.wbFsmState = .idle) :
    icpuAckI s i = false := by
  rw [icpuAckI, WbBiu.biuAckO, hidle]
  rfl

theorem decodeBranchOp_of_void {s : State} (hvoid : exVoid s = true) :
    Ctrl.decodeBranchOp (exInsn s) = branchopNop := by
  have hop : opcode (exInsn s) = or32Nop := by
    rw [exVoid, Ctrl.exVoid, Bool.and_eq_true, beq_iff_eq] at hvoid
    exact hvoid.1
  rw [Ctrl.decodeBranchOp, hop]
  rfl

theorem Quiet.noMoreDslot_of_void (hq : Quiet s) (hvoid : exVoid s = true) (i : In) :
    noMoreDslot s i = false := by
  rw [noMoreDslot, Ctrl.noMoreDslot, hq.exBranchOp, decodeBranchOp_of_void hvoid]
  rfl

theorem Plain.pcregSelect_next (h : Plain rom s i) :
    (next rom s i).genpc.pcregSelect = false := by
  change (if rst i then true else false) = false
  rw [h.running]
  rfl

theorem Plain.pcregDefault_next (h : Plain rom s i) (hq : Quiet s)
    (hboot : s.genpc.pcregSelect = false) :
    (next rom s i).genpc.pcregDefault =
      if noMoreDslot s i || (icpuAckI s i && !s.fetch.saved) then branchPc s i
      else s.genpc.pcregDefault := by
  have hwrites : (noMoreDslot s i || Except.exceptStart s.except ||
      (!genpcFreeze rom s i && !icpuRtyI s i && !(s.fetch.saved && icpuAckI s i))) =
      (noMoreDslot s i || (icpuAckI s i && !s.fetch.saved)) := by
    rw [h.exceptStart, h.icpuRtyI_eq, Bool.or_false, Bool.not_not]
    cases hack : icpuAckI s i with
    | false => simp
    | true =>
        cases hsaved : s.fetch.saved with
        | true => simp
        | false => rw [h.genpcFreeze_eq hq hack hsaved]; rfl
  have hrst : ¬rst i = true := ne_true_of_eq_false h.running
  have hpc : ¬pcWe s i = true := ne_true_of_eq_false h.notExcepted.2.1
  have hselect : ¬s.genpc.pcregSelect = true := ne_true_of_eq_false hboot
  rw [← hwrites]
  exact (if_neg hrst).trans ((if_neg hselect).trans (if_neg hpc))

/-- The program counter and the address register go together. -/
theorem Plain.pcreg_next (h : Plain rom s i) (hq : Quiet s) :
    Genpc.pcreg (next rom s i).genpc = (icpuAdrO s i).extractLsb' 2 30 := by
  have hnext : Genpc.pcreg (next rom s i).genpc = (next rom s i).genpc.pcregDefault :=
    if_neg (ne_true_of_eq_false h.pcregSelect_next)
  rw [hnext, h.icpuAdrO_word hq]
  cases hboot : s.genpc.pcregSelect with
  | true =>
      obtain ⟨hidle, hvoid⟩ := hq.boots hboot
      have hrst : ¬rst i = true := ne_true_of_eq_false h.running
      have hpcreg : (next rom s i).genpc.pcregDefault = Genpc.pcreg s.genpc :=
        (if_neg hrst).trans ((if_pos hboot).trans (if_pos hboot).symm)
      rw [hpcreg, hq.noMoreDslot_of_void hvoid, icpuAckI_of_idle hidle]
      rfl
  | false =>
      rw [h.pcregDefault_next hq hboot, Genpc.pcreg, hboot, if_neg Bool.false_ne_true]
      cases noMoreDslot s i <;> cases icpuAckI s i <;> cases s.fetch.saved <;> rfl

theorem Plain.address_next (h : Plain rom s i) (hq : Quiet s) :
    (Immu.icpuAdrO (next rom s i).immu).extractLsb' 2 30 = Genpc.pcreg (next rom s i).genpc := by
  have hrst : ¬rst i = true := ne_true_of_eq_false h.running
  have hselect : (next rom s i).immu.icpuAdrSelect = false := h.running
  have hnext : Immu.icpuAdrO (next rom s i).immu = (next rom s i).immu.icpuAdrDefault :=
    if_neg (ne_true_of_eq_false hselect)
  have hdefault : (next rom s i).immu.icpuAdrDefault =
      if s.immu.icpuAdrSelect then bootAdr else icpuAdrO s i := if_neg hrst
  rw [h.pcreg_next hq, hnext, hdefault]
  cases hboot : s.immu.icpuAdrSelect with
  | false => rfl
  | true =>
      have hpcreg : s.genpc.pcregSelect = true := hq.icpuAdrSelect.symm.trans hboot
      obtain ⟨hidle, hvoid⟩ := hq.boots hpcreg
      rw [h.icpuAdrO_word hq, hq.noMoreDslot_of_void hvoid, icpuAckI_of_idle hidle, Genpc.pcreg,
        hpcreg]
      rfl

theorem decodeBranchOp_of_isVoid {insn : BitVec 32} (hvoid : Ctrl.isVoid insn = true) :
    Ctrl.decodeBranchOp insn = branchopNop := by
  rw [Ctrl.isVoid, Bool.and_eq_true, beq_iff_eq] at hvoid
  rw [Ctrl.decodeBranchOp, hvoid.1]
  rfl

theorem Quiet.next (hq : Quiet s) (h : Plain rom s i) : Quiet (next rom s i) := by
  have hrst : ¬rst i = true := ne_true_of_eq_false h.running
  have hflush : ¬flushpipe rom s i = true := ne_true_of_eq_false h.notFlushed
  constructor
  case ifBypassReg => exact (if_neg hrst).trans (h.ifBypass hq)
  case flushpipeR =>
    change Freeze.nextFlushpipeR (rst i) _ (flushpipe rom s i) s.flushpipeR = false
    rw [Freeze.nextFlushpipeR, h.running, h.notFlushed]
    simp
  case itlbEnR =>
    have hnext : (System.next rom s i).immu.itlbEnR =
        (Immu.itlbEn (immuIn rom s i) && !Immu.itlbSprAccess s.immu (immuIn rom s i)) := if_neg hrst
    have hen : (immuIn rom s i).immuEn = false := h.untranslated
    rw [hnext, Immu.itlbEn, hen, Bool.false_and, Bool.false_and]
  case single => exact hq.single.next rfl
  case idBranchOp =>
    have hnext : (System.next rom s i).idBranchOp =
        if !idFreeze s i then Ctrl.decodeBranchOp (If.ifInsn s.fetch (ifIn rom s i))
        else s.idBranchOp := (if_neg hrst).trans (if_neg hflush)
    rw [hnext, h.idInsn_next, hq.idBranchOp]
    cases idFreeze s i <;> rfl
  case exBranchOp =>
    have hnext : (System.next rom s i).exBranchOp =
        if (!exFreeze s i && idFreeze s i) || flushpipe rom s i then branchopNop
        else if !exFreeze s i then s.idBranchOp
        else s.exBranchOp := if_neg hrst
    rw [hnext, h.exInsn_next, h.exFreeze_eq, h.notFlushed, hq.idBranchOp, hq.exBranchOp]
    cases idFreeze s i <;> rfl
  case exBranchAddrtarget =>
    intro hvoid
    have hnext : (System.next rom s i).exBranchAddrtarget =
        if !exFreeze s i then Ctrl.idBranchAddrtarget (idInsn s) s.except.idPc
        else s.exBranchAddrtarget := if_neg hrst
    rw [hnext, h.exInsn_next, h.exPc_next, h.exFreeze_eq]
    have hinsn := h.exInsn_next
    cases hfreeze : idFreeze s i with
    | false => rfl
    | true =>
        rw [hfreeze, if_pos rfl] at hinsn
        apply hq.exBranchAddrtarget
        change Ctrl.isVoid (exInsn s) = false
        rw [← hinsn]
        exact hvoid
  case address => exact h.address_next hq
  case icpuAdrSelect =>
    rw [h.pcregSelect_next]
    exact h.running
  case boots =>
    intro hboot
    rw [h.pcregSelect_next] at hboot
    cases hboot

/-! ## The reset -/

theorem idInsn_next_of_rst (hrst : rst i = true) : idInsn (next rom s i) = Ctrl.voidInsn :=
  if_pos hrst

theorem exInsn_next_of_rst (hrst : rst i = true) : exInsn (next rom s i) = Ctrl.voidInsn :=
  if_pos hrst

theorem idVoid_next_of_rst (hrst : rst i = true) : idVoid (next rom s i) = true := by
  change Ctrl.isVoid (idInsn (next rom s i)) = true
  rw [idInsn_next_of_rst hrst, isVoid_voidInsn]

theorem exVoid_next_of_rst (hrst : rst i = true) : exVoid (next rom s i) = true := by
  change Ctrl.isVoid (exInsn (next rom s i)) = true
  rw [exInsn_next_of_rst hrst, isVoid_voidInsn]

theorem quiet_next_of_rst (hrst : rst i = true) : Quiet (next rom s i) := by
  have hid : idInsn (next rom s i) = Ctrl.voidInsn := idInsn_next_of_rst hrst
  have hex : exInsn (next rom s i) = Ctrl.voidInsn := exInsn_next_of_rst hrst
  have hvoid : exVoid (next rom s i) = true := exVoid_next_of_rst hrst
  have hpcreg : (next rom s i).genpc.pcregSelect = true := if_pos hrst
  have hadr : (next rom s i).immu.icpuAdrSelect = true := hrst
  constructor
  case ifBypassReg => exact if_pos hrst
  case flushpipeR => exact if_pos hrst
  case itlbEnR => exact if_pos hrst
  case single => exact WbBiu.single_next_of_rst hrst
  case idBranchOp =>
    have hop : (next rom s i).idBranchOp = branchopNop := if_pos hrst
    rw [hop, hid, decodeBranchOp_of_isVoid isVoid_voidInsn]
  case exBranchOp =>
    have hop : (next rom s i).exBranchOp = branchopNop := if_pos hrst
    rw [hop, hex, decodeBranchOp_of_isVoid isVoid_voidInsn]
  case exBranchAddrtarget =>
    intro hnot
    rw [hvoid] at hnot
    cases hnot
  case address => rw [Immu.icpuAdrO, Genpc.pcreg, hadr, hpcreg, if_pos rfl, if_pos rfl]
  case icpuAdrSelect => rw [hadr, hpcreg]
  case boots => exact fun _ ↦ ⟨if_pos hrst, hvoid⟩

end

end Specs.Or1200.System
