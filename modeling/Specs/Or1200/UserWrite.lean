import Specs.Or1200.Core

/-!
# SPR writes in user mode

`l.mtspr` in user mode reaches the registers of group 7 only, which belong to the
handler of violations.  The group is opened by a term of the qualifier of the
chip selects; the selects of the other units stay closed for every address, and
no other register has an enable without a select.
-/

namespace Specs.Or1200.Core

/-- `l.mtspr` in EX in user mode, without access of the debug unit, update of a flag or
exception in progress. -/
structure UserMtspr (s : State) (i : In) : Prop where
  running : i.backend.rst = false
  user : (sr s i).getLsbD srSm = false
  noDebugRead : i.backend.sprs.duRead = false
  noDebugWrite : i.backend.sprs.duWrite = false
  isWrite : i.backend.sprWrite = true
  notRead : i.backend.sprRead = false
  noBranch : i.backend.sprs.branchOp = branchopNop
  noFlag : i.backend.flagWeAlu = false
  noCarry : i.backend.cyWeAlu = false
  noOverflow : i.backend.ovWeAlu = false ∧ i.backend.ovWeMultMac = false
  idle : s.except.state = .idle
  notStarted : Except.exceptStarted s.except = false
  noEntry : Except.exceptFlushpipe s.except (exceptIn s i) = false

/-- The same cycle with an instruction that does not write. -/
def withoutWrite (i : In) : In := { i with backend := { i.backend with sprWrite := false } }

/-- The registers of the handler that can be written, with their offsets. -/
def softPatchRegs : List ((Sprs.State → BitVec 32) × BitVec 11) :=
  [(Sprs.State.spReg0, pcPccr0), (Sprs.State.spReg1, pcPccr1), (Sprs.State.spReg2, pcPccr2),
    (Sprs.State.spReg3, pcPccr3), (Sprs.State.spReg4, pcPccr4), (Sprs.State.spReg6, pcPccr6)]

/-- The write touches nothing but the registers of the handler. -/
structure SoftPatchOnly (s : State) (i : In) : Prop where
  supervision : ∀ i', sr (next s i) i' = sr s i
  epcr : (next s i).except.epcr = s.except.epcr
  eear : (next s i).except.eear = s.except.eear
  esr : (next s i).except.esr = s.except.esr
  spEpcrGhost : (next s i).except.spEpcrGhost = s.except.spEpcrGhost
  spEearGhost : (next s i).except.spEearGhost = s.except.spEearGhost
  spEsrGhost : (next s i).except.spEsrGhost = s.except.spEsrGhost
  fpcsr : Sprs.fpcsrWe s.backend.sprs (sprsIn s i) = false
  gprs : Rf.gprs (next s i).backend.rf = Rf.gprs (next s (withoutWrite i)).backend.rf
  chipSelect : ∀ n < 32, n ≠ sprGroupPc →
    (Sprs.sprCs s.backend.sprs (sprsIn s i)).getLsbD n = false
  softPatch : ∀ r ∈ softPatchRegs,
    r.1 (next s i).backend.sprs ≠ r.1 s.backend.sprs → Addresses s i 7#5 r.2
  spReg7 : (next s i).backend.sprs.spReg7 = (next s (withoutWrite i)).backend.sprs.spReg7
  recovery : (next s i).backend.recovery = (next s (withoutWrite i)).backend.recovery

/-! ## Decoding -/

theorem ofsSel_of_cs {s : Sprs.State} {i : Sprs.In} {group : ℕ}
    (h : (Sprs.sprCs s i).getLsbD group = false) (ofs : BitVec 11) :
    Sprs.ofsSel group ofs s i = false := by
  rw [Sprs.ofsSel, h, Bool.false_and]

/-- A select names the group and the offset. -/
theorem address_of_ofsSel {s : Sprs.State} {i : Sprs.In} {ofs : BitVec 11}
    (h : Sprs.ofsSel sprGroupPc ofs s i = true) :
    Sprs.sprGroup (Sprs.sprAddr i) = 7#5 ∧ Sprs.sprOfs (Sprs.sprAddr i) = ofs := by
  rw [Sprs.ofsSel, Sprs.sprCs_getLsbD s i (by decide)] at h
  simp only [Bool.and_eq_true, decide_eq_true_eq, beq_iff_eq] at h
  obtain ⟨⟨hgroup, -⟩, hofs⟩ := h
  refine ⟨?_, hofs⟩
  apply BitVec.eq_of_toNat_eq
  exact hgroup

theorem select_of_spReg_ne {init old : BitVec 32} {sel : Sprs.State → Sprs.In → Bool}
    {s : Sprs.State} {i : Sprs.In} (hrst : i.rst = false)
    (h : Sprs.spReg init sel old s i ≠ old) : sel s i = true := by
  by_contra hsel
  apply h
  simp [Sprs.spReg, hrst, hsel]

/-- In user mode a write qualifies the chip select of group 7 alone. -/
theorem sprCs_of_user {s : Sprs.State} {i : Sprs.In} (hduRead : i.duRead = false)
    (hduWrite : i.duWrite = false) (hread : i.exSprRead = false)
    (huser : (Sprs.sr s i).getLsbD srSm = false) {n : ℕ} (hn : n < 32) (hne : n ≠ sprGroupPc) :
    (Sprs.sprCs s i).getLsbD n = false := by
  rw [Sprs.sprCs_getLsbD _ _ hn, hduRead, hduWrite, hread, huser]
  by_cases hgroup : (Sprs.sprGroup (Sprs.sprAddr i)).toNat = n
  · have hother : (Sprs.sprGroup (Sprs.sprAddr i) == 7#5) = false := by
      apply beq_eq_false_iff_ne.mpr
      intro hseven
      apply hne
      rw [← hgroup, hseven]
      rfl
    simp [hother]
  · simp [hgroup]

/-! ## The write -/

section

variable {s : State} {i : In} (h : UserMtspr s i)
include h

theorem UserMtspr.exSprRead : (sprsIn s i).exSprRead = false := by
  change (i.backend.sprRead && _) = false
  rw [h.notRead, Bool.false_and]

theorem UserMtspr.chipSelect {n : ℕ} (hn : n < 32) (hne : n ≠ sprGroupPc) :
    (Sprs.sprCs s.backend.sprs (sprsIn s i)).getLsbD n = false :=
  sprCs_of_user (i := sprsIn s i) h.noDebugRead h.noDebugWrite h.exSprRead h.user hn hne

theorem UserMtspr.chipSelect_withoutWrite {n : ℕ} (hn : n < 32) (hne : n ≠ sprGroupPc) :
    (Sprs.sprCs s.backend.sprs (sprsIn s (withoutWrite i))).getLsbD n = false :=
  sprCs_of_user (i := sprsIn s (withoutWrite i)) h.noDebugRead h.noDebugWrite h.exSprRead
    h.user hn hne

theorem UserMtspr.sysSel (ofs : BitVec 11) :
    Sprs.ofsSel sprGroupSys ofs s.backend.sprs (sprsIn s i) = false :=
  ofsSel_of_cs (h.chipSelect (by decide) (by decide)) ofs

theorem UserMtspr.sysWe (ofs : BitVec 11) :
    (Sprs.sprWe (sprsIn s i) && Sprs.ofsSel sprGroupSys ofs s.backend.sprs (sprsIn s i)) =
      false := by
  rw [h.sysSel ofs, Bool.and_false]

theorem UserMtspr.srWe : Sprs.srWe s.backend.sprs (sprsIn s i) = false := by
  have hmtspr : (Sprs.sprWe (sprsIn s i) && Sprs.srSel s.backend.sprs (sprsIn s i)) = false :=
    h.sysWe sprSr
  have hbranch : (sprsIn s i).branchOp = branchopNop := h.noBranch
  have hflag : (sprsIn s i).flagWe = false := by
    change ((i.backend.flagWeAlu || false) && _) = false
    rw [h.noFlag, Bool.or_false, Bool.false_and]
  have hcarry : (sprsIn s i).cyWe = false := by
    change (i.backend.cyWeAlu && _ && _) = false
    rw [h.noCarry, Bool.false_and, Bool.false_and]
  have hoverflow : (sprsIn s i).ovWe = false := by
    change (i.backend.ovWeAlu || i.backend.ovWeMultMac) = false
    rw [h.noOverflow.1, h.noOverflow.2, Bool.or_false]
  have hrfe : (branchopNop == branchopRfe) = false := rfl
  rw [Sprs.srWe, hmtspr, hbranch, hflag, hcarry, hoverflow, hrfe, Bool.and_false]
  rfl

/-- The saved registers and their ghosts are not written. -/
theorem UserMtspr.nextSequencer :
    Except.nextSequencer s.except (exceptIn s i) = s.except.toSequencer := by
  have hrst : (exceptIn s i).rst = false := h.running
  have hpcWe : (exceptIn s i).pcWe = false := by
    change (i.backend.sprs.duWrite && _) = false
    rw [h.noDebugWrite, Bool.false_and]
  have hepcr : (exceptIn s i).epcrWe = false := h.sysWe sprEpcr
  have heear : (exceptIn s i).eearWe = false := h.sysWe sprEear
  have hesr : (exceptIn s i).esrWe = false := h.sysWe sprEsr
  have hepcrGhost : (exceptIn s i).spEpcrGhostWe = false := h.sysWe (sprEpcr + 1)
  have heearGhost : (exceptIn s i).spEearGhostWe = false := h.sysWe (sprEear + 1)
  have hesrGhost : (exceptIn s i).spEsrGhostWe = false := h.sysWe (sprEsr + 1)
  rw [Except.nextSequencer, hrst, h.idle, h.noEntry, hpcWe]
  simp [Except.write, hepcr, heear, hesr, hepcrGhost, heearGhost, hesrGhost]

theorem UserMtspr.supervision (i' : In) : sr (next s i) i' = sr s i :=
  Sprs.sr_next_of_not_srWe h.running h.notStarted h.srWe (sprsIn (next s i) i')

/-- Without a select the register file does not see the access. -/
theorem UserMtspr.gprs :
    Rf.gprs (next s i).backend.rf = Rf.gprs (next s (withoutWrite i)).backend.rf := by
  have hvalid : Rf.sprValid (Backend.rfIn s.backend (backendIn s i)) = false := by
    change ((Sprs.sprCs s.backend.sprs (sprsIn s i)).getLsbD sprGroupSys && _) = false
    rw [h.chipSelect (by decide) (by decide), Bool.false_and]
  have hvalid' : Rf.sprValid (Backend.rfIn s.backend (backendIn s (withoutWrite i))) = false := by
    change ((Sprs.sprCs s.backend.sprs (sprsIn s (withoutWrite i))).getLsbD sprGroupSys && _) =
      false
    rw [h.chipSelect_withoutWrite (by decide) (by decide), Bool.false_and]
  apply Rf.gprs_next_congr
  simp only [Rf.written, Rf.rfWe, Rf.rfAddrw, Rf.rfDataw, hvalid, hvalid', Bool.false_and]
  rfl

/-- `l.mtspr` in user mode, with any address and any data, changes nothing but the
registers of the handler, each of them at its own address. -/
theorem userMtspr_softPatchOnly : SoftPatchOnly s i where
  supervision := h.supervision
  epcr := congrArg Except.Sequencer.epcr h.nextSequencer
  eear := congrArg Except.Sequencer.eear h.nextSequencer
  esr := congrArg Except.Sequencer.esr h.nextSequencer
  spEpcrGhost := congrArg Except.Sequencer.spEpcrGhost h.nextSequencer
  spEearGhost := congrArg Except.Sequencer.spEearGhost h.nextSequencer
  spEsrGhost := congrArg Except.Sequencer.spEsrGhost h.nextSequencer
  fpcsr := h.sysWe sprFpcsr
  gprs := h.gprs
  chipSelect n hn hne := h.chipSelect hn hne
  softPatch := by
    have hrst : (sprsIn s i).rst = false := h.running
    intro r hr hne
    simp only [softPatchRegs, List.mem_cons, List.not_mem_nil, or_false] at hr
    rcases hr with rfl | rfl | rfl | rfl | rfl | rfl
    all_goals exact address_of_ofsSel (select_of_spReg_ne hrst hne)
  spReg7 := rfl
  recovery := rfl

end

/-- User mode with the exception unit idle. -/
def userState : State :=
  { (default : State) with
    backend := { (default : Backend.State) with
      rf := { (default : Rf.State) with rfWeAllow := true }
      sprs := { (default : Sprs.State) with srReg := 0x8000#17 } } }

/-- `l.mtspr r0,rB,ofs` with 7 in `rB`. -/
def mtspr (ofs : BitVec 16) : In :=
  { (default : In) with
    backend := { (default : Backend.In) with
      sprWrite := true
      sprs := { (default : Sprs.In) with addrofs := ofs, datI := 7#32 } } }

/-- The write of PCCR2 takes effect, and changes no other register. -/
theorem softPatchOnly_mtspr :
    SoftPatchOnly userState (mtspr 0x3802#16) ∧
      (next userState (mtspr 0x3802#16)).backend.sprs.spReg2 = 7#32 := by
  refine ⟨userMtspr_softPatchOnly ?_, by decide +kernel⟩
  exact ⟨rfl, by decide +kernel, rfl, rfl, rfl, rfl, rfl, rfl, rfl, ⟨rfl, rfl⟩, rfl,
    by decide +kernel, by decide +kernel⟩

end Specs.Or1200.Core
