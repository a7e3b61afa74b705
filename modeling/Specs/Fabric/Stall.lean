import Specs.Fabric.Entry

/-!
# Stalls

Two runs of the fabric are compared, the second with disabled cycles inserted.
The monitors do not see the inserted cycles, so all bits but 3 and 5 agree at
corresponding cycles without any condition.  The two registers that are loaded in
every cycle see what stands right before a step.  Inserted cycles are visible
there exactly where the verdict hangs on such a register: at an entry from user
mode that only the check of ESR reports, and at a load whose data differ.
-/

namespace Specs.BakedInAssertions

open Specs.Sync Specs.Ovl Specs.Or1200

/-- The step `i` is an entry that only the check of ESR can report. -/
def EntryExposed (past : List In) (i : In) : Prop :=
  ∃ p, past.head? = some p ∧ EntersVector p i ∧ i.esr.getLsbD srSm = true ∧
    savedPcWrong i = false

/-- The step `i` is the first of a row of loads, and its data differ. -/
def LoadExposed (past : List In) (i : In) : Prop :=
  ∃ p, past.head? = some p ∧ loadClass p = false ∧ loadClass i = true ∧
    busMismatch i = true ∧ hasOpcode 0x8C000000#32 i = false

theorem entryExposed_iff (past : List In) (i : In) :
    EntryExposed past i ↔ savedPc past i = false ∧ savedMode past i = true := by
  cases past with
  | nil => simp [EntryExposed, savedMode, AlwaysOnEdge.rising]
  | cons p past =>
      constructor
      · rintro ⟨q, hq, henters, hesr, hpc⟩
        obtain rfl : p = q := Option.some.inj hq
        rw [henters.savedPc past, henters.savedMode past]
        exact ⟨hpc, hesr⟩
      · rintro ⟨hpc, hmode⟩
        have henters : EntersVector p i := by
          simp only [savedMode, AlwaysOnEdge.rising, Bool.and_eq_true,
            Bool.not_eq_true'] at hmode
          exact ⟨hmode.1.1, hmode.1.2⟩
        rw [henters.savedPc past] at hpc
        rw [henters.savedMode past] at hmode
        exact ⟨p, rfl, henters, hmode, hpc⟩

theorem loadExposed_iff (past : List In) (i : In) :
    LoadExposed past i ↔ loadedData past i = true := by
  cases past with
  | nil => simp [LoadExposed, loadedData, AlwaysOnEdge.rising]
  | cons p past => simp [LoadExposed, loadedData, AlwaysOnEdge.rising, busMismatch, and_assoc]

/-! ## Two runs -/

section

variable {tr tr' : ResetTrace gate} (st : StallInsertion gate tr tr')

def Stalled (st : StallInsertion gate tr tr') (t : ℕ) : Prop :=
  st.pos (t + 1) ≠ st.pos t + 1

def cycleBefore (st : StallInsertion gate tr tr') (t : ℕ) : In := tr' (st.pos (t + 1) - 1)

/-- The two runs agree, except for bit 16, at corresponding enabled cycles, and
the second one is silent in the inserted cycles. -/
def StallInvariant (s₀ s₀' : State) (st : StallInsertion gate tr tr') : Prop :=
  (∀ t, (tr t).enable = true → ∀ n, n ≠ 16 →
    (firedAt s₀' tr' (st.pos t)).getLsbD n = (firedAt s₀ tr t).getLsbD n) ∧
  ∀ u, (∀ t, st.pos t ≠ u) → ∀ n, n ≠ 16 → (firedAt s₀' tr' u).getLsbD n = false

/-- The cycle before step `t + 1` is the same in both runs as far as the verdict
in the step depends on it. -/
structure StallHidden (st : StallInsertion gate tr tr') (t : ℕ) : Prop where
  entry : Stalled st t → EntryExposed (gate.steps tr (t + 1)) (tr (t + 1)) →
    userStep (tr t) = false
  load : Stalled st t → LoadExposed (gate.steps tr (t + 1)) (tr (t + 1)) →
    busMismatch (cycleBefore st t) = busMismatch (tr t)

theorem pos_succ (t : ℕ) : st.pos (t + 1) = st.pos (t + 1) - 1 + 1 := by
  have hlt : st.pos t < st.pos (t + 1) := st.strictMono (Nat.lt_succ_self t)
  omega

theorem cycleBefore_of_not_stalled {t : ℕ} (h : ¬Stalled st t) :
    cycleBefore st t = tr t := by
  have hpos : st.pos (t + 1) = st.pos t + 1 := not_not.mp h
  rw [cycleBefore, hpos, Nat.add_sub_cancel]
  exact st.kept t

theorem isIdle_cycleBefore {t : ℕ} (h : Stalled st t) : gate.IsIdle (cycleBefore st t) := by
  have hlt : st.pos t < st.pos (t + 1) := st.strictMono (Nat.lt_succ_self t)
  have hne : st.pos (t + 1) ≠ st.pos t + 1 := h
  have hlo : st.pos t < st.pos (t + 1) - 1 := by omega
  have hhi : st.pos (t + 1) - 1 < st.pos (t + 1) := by omega
  exact st.inserted _ (st.ne_pos_of_between hlo hhi)

theorem userStep_of_isIdle {i : In} (h : gate.IsIdle i) : userStep i = false := by
  have henable : i.enable = false := h.2
  simp [userStep, henable]

theorem userStep_cycleBefore_iff (t : ℕ) :
    userStep (cycleBefore st t) = userStep (tr t) ↔
      (Stalled st t → userStep (tr t) = false) := by
  by_cases h : Stalled st t
  · rw [userStep_of_isIdle (isIdle_cycleBefore st h)]
    simp only [h, forall_const, eq_comm]
  · rw [cycleBefore_of_not_stalled st h]
    simp only [h, false_imp_iff]

theorem busMismatch_cycleBefore_iff (t : ℕ) :
    busMismatch (cycleBefore st t) = busMismatch (tr t) ↔
      (Stalled st t → busMismatch (cycleBefore st t) = busMismatch (tr t)) := by
  by_cases h : Stalled st t
  · simp only [h, forall_const]
  · simp only [h, false_imp_iff, cycleBefore_of_not_stalled st h]

variable (s₀ s₀' : State)

theorem firedAt_pos {n : ℕ} (h₃ : n ≠ 3) (h₅ : n ≠ 5) (h₁₆ : n ≠ 16) (t : ℕ) :
    (firedAt s₀' tr' (st.pos t)).getLsbD n = (firedAt s₀ tr t).getLsbD n := by
  rw [firedAt_getLsbD s₀' tr' _ h₃ h₅ h₁₆, firedAt_getLsbD s₀ tr _ h₃ h₅ h₁₆]
  exact st.verdict_pos _ t

/-- In a reset cycle no bit is set, and in an idle one bit 16 at most. -/
theorem firedAt_of_not_isStep {t n : ℕ} (hn : n ≠ 16) (h : ¬gate.IsStep (tr t)) :
    (firedAt s₀ tr t).getLsbD n = false := by
  have hsilent : ∀ m, gate.verdict m tr t = false := fun _ ↦ gate.verdict_of_not_isStep h
  by_cases h₃ : n = 3
  · rw [h₃, firedAt, checkersFired_getLsbD]
    apply (checker3_run s₀ tr t).trans
    rw [hsilent, hsilent, Bool.false_and, Bool.or_false]
  · by_cases h₅ : n = 5
    · rw [h₅, firedAt, checkersFired_getLsbD]
      apply (checker5_run s₀ tr t).trans
      rw [hsilent, Bool.false_and]
    · rw [firedAt_getLsbD s₀ tr t h₃ h₅ hn, hsilent]

theorem firedAt_three_pos_iff {t : ℕ} (hstep : gate.IsStep (tr (t + 1))) :
    (firedAt s₀' tr' (st.pos (t + 1))).getLsbD 3 = (firedAt s₀ tr (t + 1)).getLsbD 3 ↔
      (Stalled st t → EntryExposed (gate.steps tr (t + 1)) (tr (t + 1)) →
        userStep (tr t) = false) := by
  have hleft : (firedAt s₀' tr' (st.pos (t + 1))).getLsbD 3 =
      (savedPc (gate.steps tr (t + 1)) (tr (t + 1)) ||
        (savedMode (gate.steps tr (t + 1)) (tr (t + 1)) && userStep (cycleBefore st t))) := by
    rw [pos_succ st t, firedAt_three, ← pos_succ st t, st.verdict_pos, st.verdict_pos,
      gate.verdict_of_isStep hstep, gate.verdict_of_isStep hstep]
    rfl
  rw [hleft, firedAt_three, gate.verdict_of_isStep hstep, gate.verdict_of_isStep hstep,
    entryExposed_iff]
  have huser := userStep_cycleBefore_iff st t
  cases savedPc (gate.steps tr (t + 1)) (tr (t + 1)) with
  | true => simp
  | false =>
      cases savedMode (gate.steps tr (t + 1)) (tr (t + 1)) with
      | false => simp
      | true => simpa using huser

theorem firedAt_five_pos_iff {t : ℕ} (hstep : gate.IsStep (tr (t + 1))) :
    (firedAt s₀' tr' (st.pos (t + 1))).getLsbD 5 = (firedAt s₀ tr (t + 1)).getLsbD 5 ↔
      (Stalled st t → LoadExposed (gate.steps tr (t + 1)) (tr (t + 1)) →
        busMismatch (cycleBefore st t) = busMismatch (tr t)) := by
  have hleft : (firedAt s₀' tr' (st.pos (t + 1))).getLsbD 5 =
      (loadedData (gate.steps tr (t + 1)) (tr (t + 1)) && busMismatch (cycleBefore st t)) := by
    rw [pos_succ st t, firedAt_five, ← pos_succ st t, st.verdict_pos,
      gate.verdict_of_isStep hstep]
    rfl
  rw [hleft, firedAt_five, gate.verdict_of_isStep hstep, loadExposed_iff]
  have hbus := busMismatch_cycleBefore_iff st t
  cases loadedData (gate.steps tr (t + 1)) (tr (t + 1)) with
  | false => simp
  | true => simpa using hbus

/-- Inserted cycles never change a verdict exactly when every step hides them. -/
theorem stallInvariant_iff :
    StallInvariant s₀ s₀' st ↔
      ∀ t, gate.IsStep (tr (t + 1)) → StallHidden st t := by
  constructor
  · rintro ⟨hagree, -⟩ t hstep
    constructor
    · apply (firedAt_three_pos_iff st s₀ s₀' hstep).mp
      exact hagree (t + 1) hstep.2 3 (by decide)
    · apply (firedAt_five_pos_iff st s₀ s₀' hstep).mp
      exact hagree (t + 1) hstep.2 5 (by decide)
  · intro hhidden
    constructor
    · intro t _ n hn
      by_cases hstep : gate.IsStep (tr t)
      · cases t with
        | zero => exact absurd (hstep.1.symm.trans tr.reset_first) Bool.false_ne_true
        | succ t =>
            obtain ⟨hentry, hload⟩ := hhidden t hstep
            by_cases h₃ : n = 3
            · rw [h₃]
              exact (firedAt_three_pos_iff st s₀ s₀' hstep).mpr hentry
            · by_cases h₅ : n = 5
              · rw [h₅]
                exact (firedAt_five_pos_iff st s₀ s₀' hstep).mpr hload
              · exact firedAt_pos st s₀ s₀' h₃ h₅ hn (t + 1)
      · rw [firedAt_of_not_isStep s₀ hn hstep]
        exact firedAt_of_not_isStep s₀' hn (st.kept t ▸ hstep)
    · intro u hu n hn
      apply firedAt_of_not_isStep s₀' hn
      intro hstep
      have hidle : gate.IsIdle (tr' u) := st.inserted u hu
      exact Bool.false_ne_true (hidle.2.symm.trans hstep.2)

end

/-! ## A visible stall -/

def oneStall : StallInsertion gate escalation stalledEscalation where
  pos
    | 0 => 0
    | 1 => 1
    | t + 2 => t + 3
  pos_zero := rfl
  strictMono := by
    apply strictMono_nat_of_lt_succ
    intro t
    rcases t with _ | _ | t
    · exact Nat.zero_lt_one
    · exact (by decide : (1 : ℕ) < 3)
    · exact Nat.lt_succ_self _
  kept t := by rcases t with _ | _ | t <;> rfl
  inserted u hu := by
    rcases u with _ | _ | _ | u
    · exact absurd rfl (hu 0)
    · exact absurd rfl (hu 1)
    · exact ⟨rfl, rfl⟩
    · exact absurd rfl (hu (u + 2))

theorem oneStall_visible :
    ((firedAt default escalation 2).getLsbD 3 = true ∧
      (firedAt default stalledEscalation (oneStall.pos 2)).getLsbD 3 = false) ∧
    ¬StallInvariant default default oneStall := by
  have hbits : (firedAt default escalation 2).getLsbD 3 = true ∧
      (firedAt default stalledEscalation (oneStall.pos 2)).getLsbD 3 = false :=
    ⟨by decide, by decide⟩
  refine ⟨hbits, ?_⟩
  rintro ⟨hagrees, -⟩
  have hagree := hagrees 2 rfl 3 (by decide)
  rw [hbits.1, hbits.2] at hagree
  exact Bool.false_ne_true hagree

end Specs.BakedInAssertions
