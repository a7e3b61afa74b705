import Specs.Or1200.Core

/-!
# The saved registers

EPCR, EEAR and ESR and their three ghosts are written and read by the same rules.
They are treated together here: what `l.mtspr` leaves in them, what `l.mfspr`
gets from them, and that nothing else changes them while no exception is taken.
-/

namespace Specs.Or1200.Core

open Specs.Sync

inductive SavedReg
  | epcr
  | eear
  | esr
  | epcrGhost
  | eearGhost
  | esrGhost
deriving DecidableEq

namespace SavedReg

def ofs : SavedReg → BitVec 11
  | epcr => sprEpcr
  | eear => sprEear
  | esr => sprEsr
  | epcrGhost => sprEpcr + 1
  | eearGhost => sprEear + 1
  | esrGhost => sprEsr + 1

/-- The contents, as `l.mfspr` extends them. -/
def value (q : Except.Sequencer) : SavedReg → BitVec 32
  | epcr => q.epcr
  | eear => q.eear
  | esr => q.esr.setWidth 32
  | epcrGhost => q.spEpcrGhost
  | eearGhost => q.spEearGhost
  | esrGhost => q.spEsrGhost.setWidth 32

/-- What a write of `data` leaves.  FO is forced in ESR, but not in its ghost. -/
def stored (data : BitVec 32) : SavedReg → BitVec 32
  | epcr => data
  | eear => data
  | esr => (data.extractLsb' 16 1 ++ 1#1 ++ data.extractLsb' 0 15).setWidth 32
  | epcrGhost => data
  | eearGhost => data
  | esrGhost => (data.extractLsb' 0 17).setWidth 32

def we (i : Except.In) : SavedReg → Bool
  | epcr => i.epcrWe
  | eear => i.eearWe
  | esr => i.esrWe
  | epcrGhost => i.spEpcrGhostWe
  | eearGhost => i.spEearGhostWe
  | esrGhost => i.spEsrGhostWe

theorem value_write (r : SavedReg) (q : Except.Sequencer) (i : Except.In) :
    r.value (Except.write q i) = if r.we i then r.stored i.datain else r.value q := by
  cases hwe : r.we i <;> cases r <;> simp only [we] at hwe <;>
    simp [value, stored, Except.write, hwe]

/-- While no exception is taken, only writes in the idle state change the registers. -/
theorem value_nextSequencer (r : SavedReg) {s : Except.State} {i : Except.In}
    (hrst : i.rst = false) (hflush : Except.exceptFlushpipe s i = false)
    (hpc : i.pcWe = false) :
    r.value (Except.nextSequencer s i) =
      if s.state = .idle ∧ r.we i = true then r.stored i.datain
      else r.value s.toSequencer := by
  rw [Except.nextSequencer, hrst, hflush, hpc]
  cases hstate : s.state with
  | idle =>
      simp only [Bool.false_eq_true, if_false, true_and]
      exact r.value_write _ _
  | flu1 => simp only [Bool.false_eq_true, if_false]; split <;> cases r <;> simp [value]
  | flu2 => simp only [Bool.false_eq_true, if_false]; split <;> cases r <;> simp [value]
  | flu3 => cases r <;> simp [value]
  | flu4 => cases r <;> simp [value]
  | flu5 => simp only [Bool.false_eq_true, if_false]; split <;> cases r <;> simp [value]

end SavedReg

/-! ## Access from EX -/

theorem SavedReg.we_eq (r : SavedReg) (s : State) (i : In) :
    r.we (exceptIn s i) = (Sprs.sprWe (sprsIn s i) &&
      Sprs.ofsSel sprGroupSys r.ofs s.backend.sprs (sprsIn s i)) := by
  cases r <;> rfl

theorem sysCs_of_group {s : Sprs.State} {i : Sprs.In}
    (hgroup : Sprs.sprGroup (Sprs.sprAddr i) = 0#5)
    (h : i.exSprRead = true ∨ i.exSprWrite = true ∧ (Sprs.sr s i).getLsbD srSm = true) :
    (Sprs.sprCs s i).getLsbD sprGroupSys = true := by
  rw [Sprs.sprCs_getLsbD s i (by decide), hgroup]
  rcases h with hread | ⟨hwrite, hsm⟩
  · simp [hread]
  · simp [hwrite, hsm]

section

variable {s : State} {i : In}

theorem WritesSpr.ofsSel {ofs : BitVec 11} (h : WritesSpr s i ofs)
    (hsm : (sr s i).getLsbD srSm = true) :
    Sprs.ofsSel sprGroupSys ofs s.backend.sprs (sprsIn s i) = true := by
  obtain ⟨hwrite, hgroup, hofs⟩ := h
  rw [Sprs.ofsSel, sysCs_of_group hgroup (Or.inr ⟨hwrite, hsm⟩), hofs]
  simp

variable (hdu : Sprs.duAccess (sprsIn s i) = false)
include hdu

theorem sprWe_of_not_duAccess : Sprs.sprWe (sprsIn s i) = (sprsIn s i).exSprWrite := by
  have hduWrite : (sprsIn s i).duWrite = false := (Bool.or_eq_false_iff.mp hdu).2
  rw [Sprs.sprWe, hdu, hduWrite]
  simp

theorem writesSpr_of_we {ofs : BitVec 11}
    (h : (Sprs.sprWe (sprsIn s i) &&
      Sprs.ofsSel sprGroupSys ofs s.backend.sprs (sprsIn s i)) = true) : WritesSpr s i ofs := by
  rw [sprWe_of_not_duAccess hdu, Bool.and_eq_true, Sprs.ofsSel, Bool.and_eq_true,
    Sprs.sprCs_getLsbD _ _ (by decide), Bool.and_eq_true, decide_eq_true_eq, beq_iff_eq] at h
  obtain ⟨hwrite, ⟨hgroup, -⟩, hofs⟩ := h
  refine ⟨hwrite, ?_, hofs⟩
  apply BitVec.eq_of_toNat_eq
  exact hgroup

theorem we_of_writesSpr {ofs : BitVec 11} (h : WritesSpr s i ofs)
    (hsm : (sr s i).getLsbD srSm = true) :
    (Sprs.sprWe (sprsIn s i) &&
      Sprs.ofsSel sprGroupSys ofs s.backend.sprs (sprsIn s i)) = true := by
  rw [sprWe_of_not_duAccess hdu, h.1, h.ofsSel hsm]
  rfl

theorem sprDatO_of_not_duAccess : Sprs.sprDatO (sprsIn s i) = i.backend.sprs.datI := by
  have hduWrite : (sprsIn s i).duWrite = false := (Bool.or_eq_false_iff.mp hdu).2
  rw [Sprs.sprDatO, hduWrite]
  rfl

theorem pcWe_of_not_duAccess : Sprs.pcWe s.backend.sprs (sprsIn s i) = false := by
  have hduWrite : (sprsIn s i).duWrite = false := (Bool.or_eq_false_iff.mp hdu).2
  rw [Sprs.pcWe, hduWrite, Bool.false_and]

/-- A cycle without an exception changes a saved register only by `l.mtspr`. -/
theorem SavedReg.value_next_of_not_writesSpr (r : SavedReg) (hrst : i.backend.rst = false)
    (hflush : Except.exceptFlushpipe s.except (exceptIn s i) = false)
    (h : ¬WritesSpr s i r.ofs) :
    r.value (next s i).except.toSequencer = r.value s.except.toSequencer := by
  have hvalue := r.value_nextSequencer (i := exceptIn s i) hrst hflush (pcWe_of_not_duAccess hdu)
  have hwe : ¬(s.except.state = .idle ∧ r.we (exceptIn s i) = true) := by
    rintro ⟨-, hwe⟩
    rw [r.we_eq] at hwe
    exact h (writesSpr_of_we hdu hwe)
  rw [if_neg hwe] at hvalue
  exact hvalue

/-- `l.mtspr` either is lost or leaves its data. -/
theorem SavedReg.value_next_of_writesSpr (r : SavedReg) (hrst : i.backend.rst = false)
    (hflush : Except.exceptFlushpipe s.except (exceptIn s i) = false) :
    r.value (next s i).except.toSequencer = r.value s.except.toSequencer ∨
      r.value (next s i).except.toSequencer = r.stored i.backend.sprs.datI := by
  have hvalue := r.value_nextSequencer (i := exceptIn s i) hrst hflush (pcWe_of_not_duAccess hdu)
  split at hvalue
  · apply Or.inr
    rw [← sprDatO_of_not_duAccess hdu]
    exact hvalue
  · exact Or.inl hvalue

/-- In supervisor mode with an idle exception unit `l.mtspr` is not lost. -/
theorem SavedReg.value_next_of_supervisor (r : SavedReg) (hrst : i.backend.rst = false)
    (hflush : Except.exceptFlushpipe s.except (exceptIn s i) = false)
    (hidle : s.except.state = .idle) (h : WritesSpr s i r.ofs)
    (hsm : (sr s i).getLsbD srSm = true) :
    r.value (next s i).except.toSequencer = r.stored i.backend.sprs.datI := by
  have hvalue := r.value_nextSequencer (i := exceptIn s i) hrst hflush (pcWe_of_not_duAccess hdu)
  have hwe : r.we (exceptIn s i) = true := by
    rw [r.we_eq]
    exact we_of_writesSpr hdu h hsm
  rw [if_pos ⟨hidle, hwe⟩] at hvalue
  rw [← sprDatO_of_not_duAccess hdu]
  exact hvalue

omit hdu in
/-- What `l.mfspr` gets from an offset of the system group: the selects of the other
group are closed, and the ones of this group depend on the offset alone. -/
theorem toWbmux_of_readsSpr {ofs : BitVec 11} (h : ReadsSpr s i ofs) :
    Sprs.toWbmux s.backend.sprs (sprsIn s i) =
      (i.backend.sprs.sprDatCfgr &&& Sprs.fill (ofs.extractLsb' 4 7 == sprCfgr)) |||
      (s.except.spEsrGhost.setWidth 32 &&& Sprs.fill (ofs == sprEsr + 1)) |||
      (s.except.spEpcrGhost &&& Sprs.fill (ofs == sprEpcr + 1)) |||
      (s.except.spEearGhost &&& Sprs.fill (ofs == sprEear + 1)) |||
      (Rf.dataa s.backend.rf &&& Sprs.fill (ofs.extractLsb' 5 6 == sprRf)) |||
      (s.except.sprDatNpc &&& Sprs.fill (ofs == sprNpc)) |||
      (s.except.sprDatPpc &&& Sprs.fill (ofs == sprPpc)) |||
      ((sr s i).setWidth 32 &&& Sprs.fill (ofs == sprSr)) |||
      (s.except.epcr &&& Sprs.fill (ofs == sprEpcr)) |||
      (s.except.eear &&& Sprs.fill (ofs == sprEear)) |||
      (fpcsr.setWidth 32 &&& Sprs.fill (ofs == sprFpcsr)) |||
      (s.except.esr.setWidth 32 &&& Sprs.fill (ofs == sprEsr)) := by
  obtain ⟨hread, hgroup, hofs⟩ := h
  have hsys := sysCs_of_group (s := s.backend.sprs) hgroup (Or.inl hread)
  have hpc : (Sprs.sprCs s.backend.sprs (sprsIn s i)).getLsbD sprGroupPc = false := by
    rw [Sprs.sprCs_getLsbD _ _ (by decide), hgroup]
    rfl
  rw [Sprs.toWbmux_eq_sysData (Or.inl hgroup), Sprs.sysData_eq hsys hpc hofs]
  simp only [Bool.false_and, Bool.true_and, Sprs.and_fill_false, BitVec.or_zero]
  rfl

omit hdu in
/-- `l.mfspr` gets the contents. -/
theorem SavedReg.toWbmux_eq (r : SavedReg) (h : ReadsSpr s i r.ofs) :
    Sprs.toWbmux s.backend.sprs (sprsIn s i) = r.value s.except.toSequencer := by
  rw [toWbmux_of_readsSpr h]
  -- All selects but one are closed, and the others contribute zero.
  cases r <;>
    simp [SavedReg.ofs, sprEpcr, sprEear, sprEsr, sprSr, sprPpc, sprNpc, sprFpcsr, sprCfgr,
      sprRf] <;>
    rfl

omit hdu in
theorem toWbmux_sr (h : ReadsSpr s i sprSr) :
    Sprs.toWbmux s.backend.sprs (sprsIn s i) = (sr s i).setWidth 32 := by
  rw [toWbmux_of_readsSpr h]
  simp [sprEpcr, sprEear, sprEsr, sprSr, sprPpc, sprNpc, sprFpcsr, sprCfgr, sprRf]

end

end Specs.Or1200.Core
