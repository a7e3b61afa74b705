import Specs.Or1200.Core

/-!
# The fixed one in SR

The bit FO of SR is always one.  Every writer of SR and ESR takes care of it:
`l.mtspr` forces it, an exception copies it, and the reset sets it.  The ghost of
ESR is the exception.  It is zero after a reset, and `l.mtspr` writes it as it
is, so `l.rfe` in the region of the handler can clear the bit.
-/

namespace Specs.Or1200.Core

open Specs.Sync

structure FixedOne (s : State) : Prop where
  inSr : ∀ i, (sr s i).getLsbD srFo = true
  inEsr : s.except.esr.getLsbD srFo = true

/-- `l.rfe` in the region of the handler writes SR from a ghost of ESR without FO. -/
structure ReturnsWithoutFo (s : State) (i : In) : Prop where
  running : i.backend.rst = false
  notStarted : Except.exceptStarted s.except = false
  writes : Sprs.srWe s.backend.sprs (sprsIn s i) = true
  isRfe : i.backend.sprs.branchOp = branchopRfe
  region : Sprs.spIieAddrCompare s.except.exPc = true
  ghost : s.except.spEsrGhost.getLsbD srFo = false

theorem sr_getLsbD_fo (s : State) (i : In) :
    (sr s i).getLsbD srFo = s.backend.sprs.srReg.getLsbD srFo := by
  rw [sr_eq, Sprs.sr, Sprs.withEph_getLsbD _ _ (by decide), if_neg (by decide)]

theorem fixedOne_iff (s : State) :
    FixedOne s ↔ s.backend.sprs.srReg.getLsbD srFo = true ∧
      s.except.esr.getLsbD srFo = true := by
  constructor
  · rintro ⟨hsr, hesr⟩
    exact ⟨sr_getLsbD_fo s default ▸ hsr default, hesr⟩
  · rintro ⟨hsr, hesr⟩
    exact ⟨fun i ↦ (sr_getLsbD_fo s i).trans hsr, hesr⟩

/-! ## One clock edge -/

theorem srReg_next_fo (s : Sprs.State) (i : Sprs.In) :
    (Sprs.next s i).srReg.getLsbD srFo =
      if i.rst then true
      else if i.exceptStarted || Sprs.srWe s i then (Sprs.toSr s i).getLsbD srFo
      else s.srReg.getLsbD srFo := by
  cases hrst : i.rst with
  | true =>
      simp only [Sprs.next, hrst, if_true]
      decide
  | false =>
      cases hexc : i.exceptStarted <;> cases hwe : Sprs.srWe s i <;>
        simp [Sprs.next, hrst, hexc, hwe]

theorem toSr_fo (s : Sprs.State) (i : Sprs.In) :
    (Sprs.toSr s i).getLsbD srFo =
      if i.exceptStarted then (Sprs.sr s i).getLsbD srFo
      else if Sprs.isRfe i then (Sprs.restored i).getLsbD srFo
      else (Sprs.sprWe i && Sprs.srSel s i) || (Sprs.sr s i).getLsbD srFo := by
  cases hexc : i.exceptStarted with
  | true =>
      have hcopied : (Sprs.toSrFoOve s i).getLsbD 3 = (Sprs.sr s i).getLsbD srFo := by
        rw [Sprs.toSrFoOve, hexc, if_pos rfl]
        simp only [BitVec.getLsbD_append, BitVec.getLsbD_extractLsb']
        simp
      rw [Sprs.toSr_getLsbD_slice s i (by decide)]
      exact hcopied
  | false =>
      rw [Sprs.toSr_getLsbD hexc (by decide), Sprs.writtenBit]
      have hnone : Sprs.flagWriter i srFo = none := rfl
      rw [hnone]
      cases Sprs.isRfe i <;> cases Sprs.sprWe i && Sprs.srSel s i <;> simp

section

variable {s : State} (h : FixedOne s) (i : In)
include h

/-- What is written into SR has FO, unless it comes from a ghost of ESR without. -/
theorem FixedOne.toSr (hwrites : Sprs.srWe s.backend.sprs (sprsIn s i) = true)
    (hrst : i.backend.rst = false) (hkeeps : ¬ReturnsWithoutFo s i) :
    (Sprs.toSr s.backend.sprs (sprsIn s i)).getLsbD srFo = true := by
  have hsr : (Sprs.sr s.backend.sprs (sprsIn s i)).getLsbD srFo = true := h.inSr i
  rw [toSr_fo, hsr]
  cases hexc : (sprsIn s i).exceptStarted with
  | true => rfl
  | false =>
      cases hrfe : Sprs.isRfe (sprsIn s i) with
      | false => simp
      | true =>
          cases hregion : Sprs.spIieAddrCompare s.except.exPc with
          | false =>
              have hrestored : Sprs.restored (sprsIn s i) = s.except.esr := by
                change (if Sprs.spIieAddrCompare s.except.exPc then _ else _) = _
                rw [hregion]
                rfl
              rw [hrestored]
              exact h.inEsr
          | true =>
              have hrestored : Sprs.restored (sprsIn s i) = s.except.spEsrGhost := by
                change (if Sprs.spIieAddrCompare s.except.exPc then _ else _) = _
                rw [hregion]
                rfl
              rw [hrestored]
              by_contra hghost
              apply hkeeps
              exact ⟨hrst, hexc, hwrites, beq_iff_eq.mp hrfe, hregion,
                Bool.eq_false_iff.mpr hghost⟩

theorem FixedOne.toSr_of_started (hexc : Except.exceptStarted s.except = true) :
    (Sprs.toSr s.backend.sprs (sprsIn s i)).getLsbD srFo = true := by
  have hstarted : (sprsIn s i).exceptStarted = true := hexc
  rw [toSr_fo, hstarted, if_pos rfl]
  exact h.inSr i

end

theorem write_esr_fo (s : Except.Sequencer) (i : Except.In) (h : s.esr.getLsbD srFo = true) :
    (Except.write s i).esr.getLsbD srFo = true := by
  cases hwe : i.esrWe with
  | false => simpa [Except.write, hwe] using h
  | true =>
      simp only [Except.write, hwe, if_true]
      simp only [BitVec.getLsbD_append, BitVec.getLsbD_extractLsb']
      simp

/-- ESR keeps FO if what an exception saves has it. -/
theorem nextSequencer_esr_fo {s : Except.State} {i : Except.In}
    (hesr : s.esr.getLsbD srFo = true)
    (hsaved : (if i.srWe then i.toSr else i.sr).getLsbD srFo = true) :
    (Except.nextSequencer s i).esr.getLsbD srFo = true := by
  rw [Except.nextSequencer]
  split
  · rfl
  · cases s.state with
    | idle =>
        dsimp only
        split
        · exact hsaved
        · split
          · exact hesr
          · exact write_esr_fo _ i hesr
    | flu1 => dsimp only; split <;> exact hesr
    | flu2 => dsimp only; split <;> exact hesr
    | flu3 => exact hesr
    | flu4 => exact hesr
    | flu5 => dsimp only; split <;> exact hesr

theorem fixedOne_next_of_rst (s : State) {i : In} (h : i.backend.rst = true) :
    FixedOne (next s i) := by
  have hsprs : (sprsIn s i).rst = true := h
  have hexcept : (exceptIn s i).rst = true := h
  rw [fixedOne_iff]
  constructor
  · change (Sprs.next s.backend.sprs (sprsIn s i)).srReg.getLsbD srFo = true
    rw [srReg_next_fo, hsprs]
    rfl
  · change (Except.nextSequencer s.except (exceptIn s i)).esr.getLsbD srFo = true
    rw [Except.nextSequencer_of_rst s.except hexcept]
    decide

/-- An `l.rfe` that restores SR from a ghost without the fixed one takes it away. -/
theorem ReturnsWithoutFo.not_fixedOne_next {s : State} {i : In} (h : ReturnsWithoutFo s i) :
    ¬FixedOne (next s i) := by
  intro hnext
  have hsr := ((fixedOne_iff _).mp hnext).1
  change (Sprs.next s.backend.sprs (sprsIn s i)).srReg.getLsbD srFo = true at hsr
  have hrst : (sprsIn s i).rst = false := h.running
  have hexc : (sprsIn s i).exceptStarted = false := h.notStarted
  have hrfe : Sprs.isRfe (sprsIn s i) = true := beq_iff_eq.mpr h.isRfe
  have hrestored : Sprs.restored (sprsIn s i) = s.except.spEsrGhost := by
    change (if Sprs.spIieAddrCompare s.except.exPc then _ else _) = _
    rw [h.region]
    rfl
  rw [srReg_next_fo, hrst, h.writes, Bool.or_true, toSr_fo, hexc, hrfe, hrestored,
    h.ghost] at hsr
  exact Bool.false_ne_true hsr

theorem FixedOne.next_of_not_returns {s : State} (h : FixedOne s) {i : In}
    (hkeeps : ¬ReturnsWithoutFo s i) : FixedOne (next s i) := by
  by_cases hrst : i.backend.rst = true
  · exact fixedOne_next_of_rst s hrst
  · have hrunning : i.backend.rst = false := Bool.eq_false_iff.mpr hrst
    have hrst' : (sprsIn s i).rst = false := hrunning
    rw [fixedOne_iff]
    constructor
    · change (Sprs.next s.backend.sprs (sprsIn s i)).srReg.getLsbD srFo = true
      rw [srReg_next_fo, hrst', if_neg Bool.false_ne_true]
      split
      · next hwrites =>
          by_cases hexc : Except.exceptStarted s.except = true
          · exact h.toSr_of_started i hexc
          · have hwe : Sprs.srWe s.backend.sprs (sprsIn s i) = true := by
              rcases Bool.or_eq_true _ _ ▸ hwrites with hstarted | hwe
              · exact absurd hstarted hexc
              · exact hwe
            exact h.toSr i hwe hrunning hkeeps
      · exact ((fixedOne_iff s).mp h).1
    · apply nextSequencer_esr_fo h.inEsr
      change (if Sprs.srWe s.backend.sprs (sprsIn s i) then
        Sprs.toSr s.backend.sprs (sprsIn s i) else sr s i).getLsbD srFo = true
      split
      · next hwrites => exact h.toSr i hwrites hrunning hkeeps
      · exact h.inSr i

theorem FixedOne.next_iff {s : State} (h : FixedOne s) (i : In) :
    FixedOne (next s i) ↔ ¬ReturnsWithoutFo s i := by
  constructor
  · intro hnext hreturns
    exact hreturns.not_fixedOne_next hnext
  · intro hkeeps
    exact h.next_of_not_returns hkeeps

/-- In every run from a reset, SR and ESR have their fixed one in all cycles exactly
when no `l.rfe` restores SR from a ghost without it. -/
theorem fixedOne_run_iff (s₀ : State) (tr : ResetTrace gate) :
    (∀ t, 1 ≤ t → FixedOne (stateAt s₀ tr t)) ↔
      ∀ t, 1 ≤ t → ¬ReturnsWithoutFo (stateAt s₀ tr t) (tr t) := by
  apply run_invariant_iff
  · exact fixedOne_next_of_rst s₀ tr.reset_first
  · intro t h
    exact h.next_iff (tr t)

/-- A reset cycle, fetches at the entry of the handler, and `l.rfe` in EX from cycle 3
on. -/
def rfeInHandler : ResetTrace gate where
  cycle t :=
    { (default : In) with
      backend := { (default : Backend.In) with
        rst := t == 0
        sprs := { (default : Sprs.In) with
          branchOp := if t < 3 then branchopNop else branchopRfe } }
      except := { (default : Except.In) with ifPc := spIieAddr } }
  reset_first := rfl

theorem rfeInHandler_clears :
    ((stateAt default rfeInHandler 3).except.exPc = spIieAddr ∧
      sr (stateAt default rfeInHandler 4) (rfeInHandler 4) = 0#17) ∧
    ¬∀ t, 1 ≤ t → FixedOne (stateAt default rfeInHandler t) := by
  have hcleared : sr (stateAt default rfeInHandler 4) (rfeInHandler 4) = 0#17 := by
    decide +kernel
  refine ⟨⟨by decide +kernel, hcleared⟩, ?_⟩
  intro hall
  have hone := (hall 4 (by decide)).inSr (rfeInHandler 4)
  rw [hcleared] at hone
  exact absurd hone (by decide)

end Specs.Or1200.Core
