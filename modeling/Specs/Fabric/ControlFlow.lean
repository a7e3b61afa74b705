import Specs.Fabric.Monitors

/-!
# Checker 13: control flow

Checker 13 is the conjunction of six sub-checkers.  Four of them exclude the
instructions that may transfer control, and they do so as intended.  The other
two never hold in an enabled step: the delta checker has a zero lower limit, and
the proposition checker fires only while it is disabled.  So no transfer of
control is ever reported.
-/

namespace Specs.BakedInAssertions

open Specs.Sync Specs.Ovl Specs.Or1200

/-- A jump, a branch or `l.rfe`, as checker 13 decodes them. -/
def transfersControl (i : In) : Bool :=
  i.exInsn.extractLsb' 28 4 == 0x0#4 || i.exInsn.extractLsb' 28 4 == 0x4#4 ||
    i.exInsn.extractLsb' 26 6 == 0x04#6 || i.exInsn.extractLsb' 26 6 == 0x09#6

/-- The step `i` after `p` and, before that, `q` is not reached by consecutive
execution, nor by a control transfer in one of the two earlier steps, nor by an
exception. -/
structure IllegalTransfer (q p i : In) : Prop where
  discontinuous : 4 < Delta.change p.exPc i.exPc
  notVector : atVector i = false
  notReturn : i.exInsn.extractLsb' 26 6 ≠ 0x09#6
  notAfterTransfer : transfersControl p = false
  notAfterDelaySlot : transfersControl q = false

instance (q p i : In) : Decidable (IllegalTransfer q p i) :=
  decidable_of_iff (4 < Delta.change p.exPc i.exPc ∧ atVector i = false ∧
      i.exInsn.extractLsb' 26 6 ≠ 0x09#6 ∧ transfersControl p = false ∧
      transfersControl q = false)
    ⟨fun ⟨h₁, h₂, h₃, h₄, h₅⟩ ↦ ⟨h₁, h₂, h₃, h₄, h₅⟩,
      fun ⟨h₁, h₂, h₃, h₄, h₅⟩ ↦ ⟨h₁, h₂, h₃, h₄, h₅⟩⟩

theorem out_level_of_isStep {test : In → Bool} {i : In} (hi : gate.IsStep i) :
    Always.out (level In.enable test i) = !test i := by
  obtain ⟨hrst, henable⟩ := hi
  simp only [gate_rst, gate_enable] at hrst henable
  simp [out_level, hrst, henable]

section

variable (s₀ : State) (tr : ResetTrace gate) {t : ℕ} {p : In} {past : List In}

/-- A delay register shows the verdict of the latest step. -/
theorem delayed_run (π : State → Bool) {fires : In → Bool}
    (hπ : ∀ s i, π (next s i) = delayed i (π s) (fires i))
    (hsteps : gate.steps tr t = p :: past) : π (stateAt s₀ tr t) = fires p := by
  cases t with
  | zero => simp at hsteps
  | succ t =>
      have hregister : ∀ s i,
          π (next s i) = gate.register false (fun _ i ↦ fires i) (π s) i := by
        intro s i
        rw [hπ, delayed, Gate.register, gate_rst, gate_enable]
        simp
      have hfold := gate.run_register π hregister s₀ tr.reset_first t
      rw [hsteps] at hfold
      exact hfold

theorem IllegalTransfer.instructions {q : In} (hstep : gate.IsStep (tr t))
    (hsteps : gate.steps tr t = p :: q :: past) (h : IllegalTransfer q p (tr t)) :
    (stateAt s₀ tr t).checker13_2_1 = true ∧ (stateAt s₀ tr t).checker13_3_1 = true ∧
      (stateAt s₀ tr t).checker13_4_1 = true ∧ checker13_5 (tr t) = true := by
  have hp : gate.IsStep p := gate.isStep_of_mem_steps (hsteps ▸ List.mem_cons_self)
  have hno := h.notAfterTransfer
  simp only [transfersControl, Bool.or_eq_false_iff] at hno
  obtain ⟨⟨⟨hjump, hjumpRegister⟩, hbranch⟩, -⟩ := hno
  refine ⟨?_, ?_, ?_, ?_⟩
  · rw [delayed_run s₀ tr State.checker13_2_1 (fun _ _ ↦ rfl) hsteps, checker13_2,
      out_level_of_isStep hp, hjump]
    rfl
  · rw [delayed_run s₀ tr State.checker13_3_1 (fun _ _ ↦ rfl) hsteps, checker13_3,
      out_level_of_isStep hp, hjumpRegister]
    rfl
  · rw [delayed_run s₀ tr State.checker13_4_1 (fun _ _ ↦ rfl) hsteps, checker13_4,
      out_level_of_isStep hp, hbranch]
    rfl
  · rw [checker13_5, out_level_of_isStep hstep]
    simpa using h.notReturn

/-- An illegal transfer satisfies the four instruction sub-checkers, but neither
the delta checker nor the proposition checker, and so is not reported. -/
theorem illegalTransfer_unreported {q : In} (hstep : gate.IsStep (tr t))
    (hsteps : gate.steps tr t = p :: q :: past) (h : IllegalTransfer q p (tr t)) :
    ((stateAt s₀ tr t).checker13_2_1 = true ∧ (stateAt s₀ tr t).checker13_3_1 = true ∧
      (stateAt s₀ tr t).checker13_4_1 = true ∧ checker13_5 (tr t) = true) ∧
    checker13_1 (stateAt s₀ tr t) (tr t) = false ∧ checker13_6 (tr t) = false ∧
    (firedAt s₀ tr t).getLsbD 13 = false := by
  refine ⟨h.instructions s₀ tr hstep hsteps, checker13_1_eq_false _ _, ?_, ?_⟩
  · exact Proposition.out_of_enable hstep.2
  · rw [firedAt, checkersFired_getLsbD]
    exact checker13_eq_false _ _

end

/-- A reset cycle, two `l.addi` at 0x2000 and 0x2004, and one at 0x9000. -/
def strayAddi : ResetTrace gate where
  cycle
    | 0 => { (default : In) with rst := true }
    | 1 => { (default : In) with enable := true, exPc := 0x2000#32, exInsn := 0x9C000000#32 }
    | 2 => { (default : In) with enable := true, exPc := 0x2004#32, exInsn := 0x9C000000#32 }
    | _ => { (default : In) with enable := true, exPc := 0x9000#32, exInsn := 0x9C000000#32 }
  reset_first := rfl

theorem illegalTransfer_unreported_strayAddi :
    checker13_1 (stateAt default strayAddi 3) (strayAddi 3) = false :=
  (illegalTransfer_unreported default strayAddi ⟨rfl, rfl⟩ rfl (by decide)).2.1

theorem strayAddi_unreported :
    (gate.IsStep (strayAddi 3) ∧ gate.steps strayAddi 3 = [strayAddi 2, strayAddi 1] ∧
      IllegalTransfer (strayAddi 1) (strayAddi 2) (strayAddi 3)) ∧
    (firedAt default strayAddi 3).getLsbD 13 = false :=
  ⟨⟨⟨rfl, rfl⟩, rfl, by decide⟩, by decide⟩

end Specs.BakedInAssertions
