import Specs.Or1200.Saved

/-!
# A transparent exception

The entry of an exception overwrites EPCR, EEAR and ESR, and keeps their contents
in ghost registers.  A handler that exchanges the saved registers with their
ghosts and returns with `l.rfe` from its own region leaves no trace: the return
goes through the ghosts, and the saved registers are those of the program again.

The handler is given by the cycles in which its instructions are in EX.  Between
them anything may happen that is not an exception, a reset, an access of the debug
unit or another write of the registers involved.
-/

namespace Specs.Or1200.Core

open Specs.Sync

namespace SavedReg

/-- The ghost of a saved register, and the register of a ghost. -/
def twin : SavedReg → SavedReg
  | epcr => epcrGhost
  | eear => eearGhost
  | esr => esrGhost
  | epcrGhost => epcr
  | eearGhost => eear
  | esrGhost => esr

theorem twin_ne_eear {r : SavedReg} (h : r ≠ eearGhost) : r.twin ≠ eear := by
  cases r <;> simp_all [twin]

theorem stored_esr_of_fo {x : BitVec 17} (hfo : x.getLsbD srFo = true) :
    stored (x.setWidth 32) esr = x.setWidth 32 := by
  apply BitVec.eq_of_getLsbD_eq
  intro n hn
  rw [stored]
  simp only [BitVec.getLsbD_setWidth, BitVec.getLsbD_append, BitVec.getLsbD_extractLsb', hn,
    decide_true, Bool.true_and]
  obtain hlo | rfl | hhi : n < 15 ∨ n = srFo ∨ 15 < n := by
    have hsrFo : srFo = 15 := rfl
    omega
  · simp [hlo, hn]
  · rw [hfo]
    rfl
  · have hskip : ¬n < 15 := Nat.lt_asymm hhi
    have hrest : ¬n - 15 < 1 := by omega
    by_cases htop : n = 16
    · rw [htop]
      simp
    · have hout : x.getLsbD n = false := BitVec.getLsbD_of_ge _ _ (by omega)
      have hwide : ¬n - 15 - 1 < 1 := by omega
      simp [hskip, hrest, hout, hwide]

theorem stored_esrGhost (x : BitVec 17) : stored (x.setWidth 32) esrGhost = x.setWidth 32 := by
  apply BitVec.eq_of_getLsbD_eq
  intro n hn
  simp only [stored, BitVec.getLsbD_setWidth, BitVec.getLsbD_extractLsb', hn, decide_true,
    Bool.true_and, Nat.zero_add]
  by_cases hlt : n < 17
  · simp [hlt]
  · have hout : x.getLsbD n = false := BitVec.getLsbD_of_ge _ _ (Nat.le_of_not_lt hlt)
    simp [hout]

theorem setWidth_injective {x y : BitVec 17} (h : x.setWidth 32 = y.setWidth 32) : x = y := by
  have hback := congrArg (BitVec.setWidth 17) h
  simpa using hback

end SavedReg

section

variable (s₀ : State) (tr : ResetTrace gate)

def exceptAt (t : ℕ) : Except.State := (stateAt s₀ tr t).except

/-- What `l.mfspr` in EX in cycle `t` reads. -/
def readData (t : ℕ) : BitVec 32 :=
  Sprs.toWbmux (stateAt s₀ tr t).backend.sprs (sprsIn (stateAt s₀ tr t) (tr t))

/-- An exception is taken in cycle `t`. -/
def takenAt (t : ℕ) : Bool :=
  Except.exceptFlushpipe (exceptAt s₀ tr t) (exceptIn (stateAt s₀ tr t) (tr t))

/-- `l.rfe` is executed in the region of the handler. -/
structure ReturnsAt (t : ℕ) : Prop where
  isRfe : (tr t).backend.sprs.branchOp = branchopRfe
  notVoid : (tr t).backend.exVoid = false
  notIllegal : (sprsIn (stateAt s₀ tr t) (tr t)).exceptIllegal = false
  notViolated : (sprsIn (stateAt s₀ tr t) (tr t)).spAssertionViolated = false
  region : Sprs.spIieAddrCompare (exceptAt s₀ tr t).exPc = true

/-- An illegal instruction is taken in cycle `a`, with the exception unit idle again
from cycle `b` on.  Before the first `l.rfe` in cycle `e` the handler reads
every saved register `r` but EEAR, in cycle `readAt r`, and writes every one but
the ghost of EEAR with what it read from the twin, before it is written itself.
It returns in cycle `f`. -/
structure Handler (a b e f : ℕ) (readAt : SavedReg → ℕ) : Prop where
  taken : takenAt s₀ tr a = true
  illegal : Except.cause (Except.exceptTrig (exceptAt s₀ tr a)
    (exceptIn (stateAt s₀ tr a) (tr a))) = some .illegal
  noOverflow : Backend.ovWe (tr a).backend = false
  fixedOne : (exceptAt s₀ tr a).esr.getLsbD srFo = true
  entered : a < b
  idleAgain : (exceptAt s₀ tr b).state = .idle
  returning : b ≤ e ∧ e ≤ f
  running : ∀ u, a ≤ u → u ≤ f → (tr u).backend.rst = false
  noDebug : ∀ u, a ≤ u → u ≤ f → Sprs.duAccess (sprsIn (stateAt s₀ tr u) (tr u)) = false
  undisturbed : ∀ u, a < u → u ≤ f → takenAt s₀ tr u = false
  noReturn : ∀ u, a < u → u < e → (tr u).backend.sprs.branchOp ≠ branchopRfe
  noSrWrite : ∀ u, a < u → u < e → ¬WritesSpr (stateAt s₀ tr u) (tr u) sprSr
  reads : ∀ r : SavedReg, r ≠ .eear → a < readAt r ∧ readAt r < e ∧
    ReadsSpr (stateAt s₀ tr (readAt r)) (tr (readAt r)) r.ofs
  ordered : ∀ r : SavedReg, r ≠ .eear → ∀ u, a < u → u ≤ f →
    WritesSpr (stateAt s₀ tr u) (tr u) r.ofs → readAt r < u
  copies : ∀ r : SavedReg, r ≠ .eearGhost → ∀ u, a < u → u ≤ f →
    WritesSpr (stateAt s₀ tr u) (tr u) r.ofs →
      (tr u).backend.sprs.datI = readData s₀ tr (readAt r.twin)
  written : ∀ r : SavedReg, r ≠ .eearGhost →
    ∃ u, b ≤ u ∧ u < e ∧ WritesSpr (stateAt s₀ tr u) (tr u) r.ofs
  returns : ReturnsAt s₀ tr f

/-- The return in cycle `f` continues where the exception of cycle `a` interrupted the
program, with the registers it had. -/
structure Resumed (a f : ℕ) : Prop where
  continues : Genpc.select (stateAt s₀ tr f).genpc (genpcIn (stateAt s₀ tr f) (tr f)) =
    ((exceptAt s₀ tr (a + 1)).epcr, true)
  sr : ∀ i', sr (stateAt s₀ tr (f + 1)) i' = sr (stateAt s₀ tr a) (tr a)
  epcr : (exceptAt s₀ tr (f + 1)).epcr = (exceptAt s₀ tr a).epcr
  eear : (exceptAt s₀ tr (f + 1)).eear = (exceptAt s₀ tr a).eear
  esr : (exceptAt s₀ tr (f + 1)).esr = (exceptAt s₀ tr a).esr

/-! ## The exception unit over the run -/

theorem settled_exceptAt (t : ℕ) : Except.Settled (exceptAt s₀ tr (t + 1)).toSequencer := by
  induction t with
  | zero =>
      have hrst : (exceptIn s₀ (tr 0)).rst = true := tr.reset_first
      change Except.Settled (Except.nextSequencer s₀.except (exceptIn s₀ (tr 0)))
      rw [Except.nextSequencer_of_rst _ hrst]
      intro _
      rfl
  | succ t ih => exact Except.settled_next ih _

variable {s₀ tr} {a b e f : ℕ} {readAt : SavedReg → ℕ} (h : Handler s₀ tr a b e f readAt)
include h

namespace Handler

theorem lt_return : a < f := h.entered.trans_le (h.returning.1.trans h.returning.2)

/-! ### The entry -/

/-- The illegal instruction aborts the writers of SR, but for the overflow bit. -/
theorem srWe_eq_false :
    Sprs.srWe (stateAt s₀ tr a).backend.sprs (sprsIn (stateAt s₀ tr a) (tr a)) = false := by
  obtain ⟨hillegal, hvoid⟩ := Except.illegal_of_cause h.illegal
  have habort : Backend.abortMvspr (stateAt s₀ tr a).backend
      (backendIn (stateAt s₀ tr a) (tr a)) = true :=
    Abort.abortMvspr_of_sigIllegal hillegal hvoid
  have hfreeze := Backend.wbFreeze_of_abortMvspr habort
  have hexSprWrite : (sprsIn (stateAt s₀ tr a) (tr a)).exSprWrite = false := by
    change (_ && !Backend.abortMvspr _ _) = false
    rw [habort, Bool.not_true, Bool.and_false]
  have hwrite : Sprs.sprWe (sprsIn (stateAt s₀ tr a) (tr a)) = false := by
    rw [sprWe_of_not_duAccess (h.noDebug a le_rfl h.lt_return.le), hexSprWrite]
  have hexcept : (sprsIn (stateAt s₀ tr a) (tr a)).exceptIllegal = true := hillegal
  have hflag : (sprsIn (stateAt s₀ tr a) (tr a)).flagWe = false := by
    change (_ && !Backend.abortMvspr _ _) = false
    rw [habort, Bool.not_true, Bool.and_false]
  have hcarry : (sprsIn (stateAt s₀ tr a) (tr a)).cyWe = false := by
    change (_ && !Backend.wbFreeze _ _ && _) = false
    rw [hfreeze, Bool.not_true, Bool.and_false, Bool.false_and]
  have hoverflow : (sprsIn (stateAt s₀ tr a) (tr a)).ovWe = false := h.noOverflow
  rw [Sprs.srWe, hwrite, hexcept, hflag, hcarry, hoverflow]
  rfl

theorem exceptAt_succ : (exceptAt s₀ tr (a + 1)).toSequencer =
    Except.enter (exceptAt s₀ tr a) (exceptIn (stateAt s₀ tr a) (tr a)) :=
  Except.nextSequencer_of_exceptFlushpipe (h.running a le_rfl h.lt_return.le) h.taken

theorem esr_entered : (exceptAt s₀ tr (a + 1)).esr = sr (stateAt s₀ tr a) (tr a) := by
  have hwe : (exceptIn (stateAt s₀ tr a) (tr a)).srWe = false := h.srWe_eq_false
  have hesr := congrArg Except.Sequencer.esr h.exceptAt_succ
  rw [Except.enter, hwe] at hesr
  exact hesr

/-- The entry saves the registers in their ghosts. -/
theorem ghosts_entered :
    (exceptAt s₀ tr (a + 1)).spEpcrGhost = (exceptAt s₀ tr a).epcr ∧
      (exceptAt s₀ tr (a + 1)).spEearGhost = (exceptAt s₀ tr a).eear ∧
      (exceptAt s₀ tr (a + 1)).spEsrGhost = (exceptAt s₀ tr a).esr :=
  ⟨congrArg Except.Sequencer.spEpcrGhost h.exceptAt_succ,
    congrArg Except.Sequencer.spEearGhost h.exceptAt_succ,
    congrArg Except.Sequencer.spEsrGhost h.exceptAt_succ⟩

theorem started : Except.exceptStarted (exceptAt s₀ tr (a + 1)) = true := by
  have hflush : (exceptAt s₀ tr (a + 1)).extendFlush = true :=
    congrArg Except.Sequencer.extendFlush h.exceptAt_succ
  have htype : (exceptAt s₀ tr (a + 1)).exceptType = exceptIllegal := by
    have htype := congrArg Except.Sequencer.exceptType h.exceptAt_succ
    rw [Except.enter, h.illegal] at htype
    exact htype
  rw [Except.exceptStarted, Except.exceptStart, hflush, htype]
  rfl

theorem succ_lt : a + 1 < b := by
  rcases Nat.lt_or_eq_of_le (Nat.succ_le_of_lt h.entered) with hlt | heq
  · exact hlt
  · have hbusy : (exceptAt s₀ tr (a + 1)).state = .flu1 :=
      congrArg Except.Sequencer.state h.exceptAt_succ
    have hidle := h.idleAgain
    rw [← heq, hbusy] at hidle
    cases hidle

/-! ### The handler -/

theorem idle {u : ℕ} (hbu : b ≤ u) (huf : u ≤ f) : (exceptAt s₀ tr u).state = .idle := by
  induction u, hbu using Nat.le_induction with
  | base => exact h.idleAgain
  | succ u hbu ih =>
      have hau : a < u := h.entered.trans_le hbu
      have huf' : u ≤ f := Nat.le_of_succ_le huf
      have hnext : (exceptAt s₀ tr (u + 1)).toSequencer =
          Except.write (exceptAt s₀ tr u).toSequencer (exceptIn (stateAt s₀ tr u) (tr u)) :=
        Except.nextSequencer_of_idle (h.running u hau.le huf') (ih huf')
          (h.undisturbed u hau huf') (pcWe_of_not_duAccess (h.noDebug u hau.le huf'))
      exact (congrArg Except.Sequencer.state hnext).trans (ih huf')

theorem notStarted {u : ℕ} (hbu : b ≤ u) (huf : u ≤ f) :
    Except.exceptStart (exceptAt s₀ tr u) = false := by
  cases u with
  | zero => exact absurd (h.entered.trans_le hbu) (Nat.not_lt_zero a)
  | succ u => exact Except.exceptStart_of_settled (settled_exceptAt s₀ tr u) (h.idle hbu huf)

theorem supervisor {u : ℕ} (hau : a + 2 ≤ u) (hue : u ≤ e) :
    (sr (stateAt s₀ tr u) (tr u)).getLsbD srSm = true := by
  induction u, hau using Nat.le_induction with
  | base =>
      have hrst : (tr (a + 1)).backend.rst = false :=
        h.running (a + 1) (Nat.le_succ a) h.lt_return
      exact Sprs.supervisor_next (i := sprsIn (stateAt s₀ tr (a + 1)) (tr (a + 1))) hrst
        (Or.inl h.started) _
  | succ u hau ih =>
      have hlt : a < u := by omega
      have huf : u ≤ f := (Nat.le_of_succ_le hue).trans h.returning.2
      have hsm := ih (Nat.le_of_succ_le hue)
      have hrfe : Sprs.isRfe (sprsIn (stateAt s₀ tr u) (tr u)) = false :=
        beq_eq_false_iff_ne.mpr (h.noReturn u hlt hue)
      have hsel : (Sprs.sprWe (sprsIn (stateAt s₀ tr u) (tr u)) &&
          Sprs.srSel (stateAt s₀ tr u).backend.sprs (sprsIn (stateAt s₀ tr u) (tr u))) =
            false := by
        rw [← Bool.not_eq_true]
        intro hwe
        exact h.noSrWrite u hlt hue (writesSpr_of_we (h.noDebug u hlt.le huf) hwe)
      exact Sprs.supervisor_next (i := sprsIn (stateAt s₀ tr u) (tr u)) (h.running u hlt.le huf)
        (Or.inr ⟨hsm, hrfe, hsel⟩) _

/-! ### The saved registers -/

theorem value_readAt {r : SavedReg} (hr : r ≠ .eear) :
    r.value (exceptAt s₀ tr (readAt r)).toSequencer =
      r.value (exceptAt s₀ tr (a + 1)).toSequencer := by
  obtain ⟨hafter, hbefore, -⟩ := h.reads r hr
  apply register_kept (f := fun u ↦ r.value (exceptAt s₀ tr u).toSequencer) hafter
  intro u hau hur
  have huf : u ≤ f := (hur.trans hbefore).le.trans h.returning.2
  apply r.value_next_of_not_writesSpr (h.noDebug u (Nat.le_of_succ_le hau) huf)
    (h.running u (Nat.le_of_succ_le hau) huf) (h.undisturbed u hau huf)
  intro hwrites
  exact absurd (h.ordered r hr u hau huf hwrites) (Nat.not_lt.mpr hur.le)

theorem readData_eq {r : SavedReg} (hr : r ≠ .eear) :
    readData s₀ tr (readAt r) = r.value (exceptAt s₀ tr (a + 1)).toSequencer := by
  rw [← h.value_readAt hr]
  exact r.toWbmux_eq (h.reads r hr).2.2

/-- From the first `l.rfe` on, every register but the ghost of EEAR holds what its twin
held after the entry. -/
theorem value_exchanged {r : SavedReg} (hr : r ≠ .eearGhost) {t : ℕ} (het : e ≤ t)
    (htf : t ≤ f + 1) :
    r.value (exceptAt s₀ tr t).toSequencer =
      r.stored (r.twin.value (exceptAt s₀ tr (a + 1)).toSequencer) := by
  have hdata : ∀ u, a < u → u ≤ f → WritesSpr (stateAt s₀ tr u) (tr u) r.ofs →
      (tr u).backend.sprs.datI = r.twin.value (exceptAt s₀ tr (a + 1)).toSequencer := by
    intro u hau huf hwrites
    rw [h.copies r hr u hau huf hwrites]
    exact h.readData_eq (SavedReg.twin_ne_eear hr)
  apply register_settles (f := fun u ↦ r.value (exceptAt s₀ tr u).toSequencer) (m := a + 1)
  · intro u hau hut
    have huf : u ≤ f := by omega
    by_cases hwrites : WritesSpr (stateAt s₀ tr u) (tr u) r.ofs
    · have hstep := r.value_next_of_writesSpr (h.noDebug u (Nat.le_of_succ_le hau) huf)
        (h.running u (Nat.le_of_succ_le hau) huf) (h.undisturbed u hau huf)
      rwa [hdata u hau huf hwrites] at hstep
    · exact Or.inl (r.value_next_of_not_writesSpr (h.noDebug u (Nat.le_of_succ_le hau) huf)
        (h.running u (Nat.le_of_succ_le hau) huf) (h.undisturbed u hau huf) hwrites)
  · obtain ⟨u, hbu, hue, hwrites⟩ := h.written r hr
    have hau : a + 1 < u := h.succ_lt.trans_le hbu
    have huf : u ≤ f := hue.le.trans h.returning.2
    have hlt : a < u := Nat.lt_of_succ_lt hau
    refine ⟨u, hau.le, hue.trans_le het, ?_⟩
    rw [← hdata u hlt huf hwrites]
    exact r.value_next_of_supervisor (h.noDebug u hlt.le huf) (h.running u hlt.le huf)
      (h.undisturbed u hlt huf) (h.idle hbu huf) hwrites (h.supervisor hau hue.le)

/-! ### The return -/

theorem spEpcrGhost_return : (exceptAt s₀ tr f).spEpcrGhost = (exceptAt s₀ tr (a + 1)).epcr :=
  h.value_exchanged (r := .epcrGhost) (by decide) h.returning.2 (Nat.le_succ f)

theorem spEsrGhost_return : (exceptAt s₀ tr f).spEsrGhost = sr (stateAt s₀ tr a) (tr a) := by
  have hvalue := h.value_exchanged (r := .esrGhost) (by decide) h.returning.2 (Nat.le_succ f)
  rw [← h.esr_entered]
  apply SavedReg.setWidth_injective
  exact hvalue.trans (SavedReg.stored_esrGhost _)

theorem srWe_return :
    Sprs.srWe (stateAt s₀ tr f).backend.sprs (sprsIn (stateAt s₀ tr f) (tr f)) = true := by
  obtain ⟨hrfe, hvoid, hillegal, hviolated, -⟩ := h.returns
  have hop : (sprsIn (stateAt s₀ tr f) (tr f)).branchOp = branchopRfe := hrfe
  have hexVoid : (sprsIn (stateAt s₀ tr f) (tr f)).exVoid = false := hvoid
  rw [Sprs.srWe, hillegal, hviolated, hexVoid, hop]
  simp

theorem srRegBitEphSelect_return :
    (stateAt s₀ tr f).backend.sprs.srRegBitEphSelect = false := by
  obtain ⟨g, rfl⟩ := Nat.exists_eq_add_one_of_ne_zero (Nat.ne_zero_of_lt h.lt_return)
  have hrst : (tr g).backend.rst = false :=
    h.running g (Nat.le_of_lt_succ h.lt_return) (Nat.le_succ g)
  change (if (tr g).backend.rst then true else false) = false
  rw [hrst]
  rfl

theorem sr_return (i' : In) :
    sr (stateAt s₀ tr (f + 1)) i' = sr (stateAt s₀ tr a) (tr a) := by
  have hbf : b ≤ f := h.returning.1.trans h.returning.2
  have hrst : (sprsIn (stateAt s₀ tr f) (tr f)).rst = false :=
    h.running f h.lt_return.le le_rfl
  have hexc : (sprsIn (stateAt s₀ tr f) (tr f)).exceptStarted = false := by
    change Except.exceptStarted (exceptAt s₀ tr f) = false
    rw [Except.exceptStarted, h.notStarted hbf le_rfl, Bool.and_false]
  have hsr := Sprs.sr_next_of_rfe hrst hexc h.srWe_return h.returns.isRfe
    h.srRegBitEphSelect_return (sprsIn (stateAt s₀ tr (f + 1)) i')
  have hregion : Sprs.spIieAddrCompare (sprsIn (stateAt s₀ tr f) (tr f)).exPc = true :=
    h.returns.region
  rw [Sprs.restored, hregion, if_pos rfl] at hsr
  exact hsr.trans h.spEsrGhost_return

theorem select_return : Genpc.select (stateAt s₀ tr f).genpc (genpcIn (stateAt s₀ tr f) (tr f)) =
    ((exceptAt s₀ tr (a + 1)).epcr, true) := by
  have hbf : b ≤ f := h.returning.1.trans h.returning.2
  have hpc : (genpcIn (stateAt s₀ tr f) (tr f)).sprPcWe = false :=
    pcWe_of_not_duAccess (h.noDebug f h.lt_return.le le_rfl)
  have hexc : (genpcIn (stateAt s₀ tr f) (tr f)).exceptStart = false := h.notStarted hbf le_rfl
  have hghost : (genpcIn (stateAt s₀ tr f) (tr f)).spEpcrGhost =
      (exceptAt s₀ tr (a + 1)).epcr := h.spEpcrGhost_return
  rw [← hghost]
  exact Genpc.select_of_rfe hpc hexc h.returns.isRfe h.returns.region _

end Handler

/-- A handler that exchanges the saved registers with their ghosts leaves no trace of the
exception. -/
theorem transparent_exception : Resumed s₀ tr a f := by
  have hef : e ≤ f + 1 := Nat.le_succ_of_le h.returning.2
  obtain ⟨hepcrGhost, heearGhost, hesrGhost⟩ := h.ghosts_entered
  refine ⟨h.select_return, h.sr_return, ?_, ?_, ?_⟩
  · have hvalue := h.value_exchanged (r := .epcr) (by decide) hef le_rfl
    exact hvalue.trans hepcrGhost
  · have hvalue := h.value_exchanged (r := .eear) (by decide) hef le_rfl
    exact hvalue.trans heearGhost
  · have hvalue := h.value_exchanged (r := .esr) (by decide) hef le_rfl
    have hghost : (SavedReg.twin .esr).value (exceptAt s₀ tr (a + 1)).toSequencer =
        (exceptAt s₀ tr a).esr.setWidth 32 := congrArg (BitVec.setWidth 32) hesrGhost
    rw [hghost, SavedReg.stored_esr_of_fo h.fixedOne] at hvalue
    exact SavedReg.setWidth_injective hvalue

end

/-- An SPR access in EX, with `data` in `rB`. -/
def sprAccess (write : Bool) (r : SavedReg) (data : BitVec 32) : Backend.In :=
  { (default : Backend.In) with
    sprRead := !write
    sprWrite := write
    sprs := { (default : Sprs.In) with addrofs := r.ofs.setWidth 16, datI := data } }

def exchange : ℕ → Backend.In
  | 0 => { (default : Backend.In) with rst := true }
  | 4 => { (default : Backend.In) with exceptIllegal := true }
  | 10 => sprAccess false .epcr 0
  | 11 => sprAccess false .esr 0
  | 12 => sprAccess false .epcrGhost 0
  | 13 => sprAccess false .eearGhost 0
  | 14 => sprAccess false .esrGhost 0
  | 15 => sprAccess true .epcr 0
  | 16 => sprAccess true .eear 0
  | 17 => sprAccess true .esr 0x8001
  | 18 => sprAccess true .epcrGhost 0x2000
  | 19 => sprAccess true .esrGhost 0x8001
  | 20 => { (default : Backend.In) with
      sprs := { (default : Sprs.In) with branchOp := branchopRfe } }
  | _ => default

/-- A reset, an illegal instruction at 0x2000 in cycle 4, and its handler from cycle 10
on. -/
def exchangeRun : ResetTrace gate where
  cycle t :=
    { (default : In) with
      backend := exchange t
      except := { (default : Except.In) with
        ifPc := if t < 4 then 0x2000 else spIieAddr
        icpuAckI := true } }
  reset_first := rfl

def exchangeReads : SavedReg → ℕ
  | .epcr => 10
  | .esr => 11
  | .epcrGhost => 12
  | .eearGhost => 13
  | .esrGhost => 14
  | .eear => 0

theorem exchangeRun_handler : Handler default exchangeRun 4 10 20 20 exchangeReads where
  taken := by decide +kernel
  illegal := by decide +kernel
  noOverflow := rfl
  fixedOne := by decide +kernel
  entered := by decide
  idleAgain := by decide +kernel
  returning := by decide
  running u hau huf := by
    have h : ∀ u < 21, 4 ≤ u → (exchangeRun u).backend.rst = false := by decide +kernel
    exact h u (Nat.lt_succ_of_le huf) hau
  noDebug u hau huf := by
    have h : ∀ u < 21, 4 ≤ u →
        Sprs.duAccess (sprsIn (stateAt default exchangeRun u) (exchangeRun u)) = false := by
      decide +kernel
    exact h u (Nat.lt_succ_of_le huf) hau
  undisturbed u hau huf := by
    have h : ∀ u < 21, 4 < u → takenAt default exchangeRun u = false := by decide +kernel
    exact h u (Nat.lt_succ_of_le huf) hau
  noReturn u _ hue := by
    have h : ∀ u < 20, (exchangeRun u).backend.sprs.branchOp ≠ branchopRfe := by decide +kernel
    exact h u hue
  noSrWrite u _ hue := by
    have h : ∀ u < 20, ¬WritesSpr (stateAt default exchangeRun u) (exchangeRun u) sprSr := by
      decide +kernel
    exact h u hue
  reads r hr := by
    cases r with
    | eear => exact absurd rfl hr
    | _ => decide +kernel
  ordered r hr u _ huf := by
    have h : ∀ u < 21, WritesSpr (stateAt default exchangeRun u) (exchangeRun u) r.ofs →
        exchangeReads r < u := by
      cases r with
      | eear => exact absurd rfl hr
      | _ => decide +kernel
    exact h u (Nat.lt_succ_of_le huf)
  copies r hr u _ huf := by
    have h : ∀ u < 21, WritesSpr (stateAt default exchangeRun u) (exchangeRun u) r.ofs →
        (exchangeRun u).backend.sprs.datI =
          readData default exchangeRun (exchangeReads r.twin) := by
      cases r with
      | eearGhost => exact absurd rfl hr
      | _ => decide +kernel
    exact h u (Nat.lt_succ_of_le huf)
  written r hr := by
    have h : ∃ u < 20, 10 ≤ u ∧
        WritesSpr (stateAt default exchangeRun u) (exchangeRun u) r.ofs := by
      cases r with
      | eearGhost => exact absurd rfl hr
      | _ => decide +kernel
    obtain ⟨u, hue, hbu, hwrites⟩ := h
    exact ⟨u, hbu, hue, hwrites⟩
  returns := ⟨rfl, rfl, by decide +kernel, by decide +kernel, by decide +kernel⟩

/-- The program goes on at 0x2000, in the mode and with the ESR of the reset. -/
theorem exchangeRun_resumed :
    ((exceptAt default exchangeRun 5).epcr = 0x2000#32 ∧
      sr (stateAt default exchangeRun 4) (exchangeRun 4) = 0x8001#17) ∧
    Resumed default exchangeRun 4 20 :=
  ⟨by decide +kernel, transparent_exception exchangeRun_handler⟩

end Specs.Or1200.Core
