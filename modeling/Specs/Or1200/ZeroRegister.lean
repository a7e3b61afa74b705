import Specs.Or1200.Operands

/-!
# Register 0 as an operand

The register file replaces what is written into `r0` by zero.  The forwarding paths
do not, so an instruction with the target `r0` shows its result to the two
instructions after it.  The register file itself is read wrongly only when an SPR
access takes its port while the instruction that reads it waits in ID.
-/

namespace Specs.Or1200.Operands

open Specs.Sync

/-- What an instruction leaves for a register. -/
structure Result where
  we : Bool
  addr : BitVec 5
  data : BitVec 32

def Result.IsForZero (r : Result) : Prop := r.we = true ∧ r.addr = 0#5

instance (r : Result) : Decidable r.IsForZero := inferInstanceAs (Decidable (_ ∧ _))

/-- The result of the instruction in EX. -/
def exResult (s : State) (i : In) : Result := ⟨s.rfwbOp.getLsbD 0, s.rfAddrw, rfDataw s i⟩

/-- The result of the instruction before it. -/
def wbResult (s : State) : Result := ⟨s.wbmux.muxregValid, s.wbRfaddrw, s.wbmux.muxreg⟩

/-- The instruction in ID moves to EX. -/
def EntersEx (i : In) : Prop :=
  i.rst = false ∧ exFreeze i = false ∧ idFreeze i = false ∧ i.exFlushpipe = false

instance (i : In) : Decidable (EntersEx i) := inferInstanceAs (Decidable (_ ∧ _))

/-- The instruction in ID takes `r0` as operand A. -/
def takesA (s : State) : Bool := readsA s.ctrl.idInsn && fieldA s.ctrl.idInsn == 0#5

/-- The instruction in ID takes `r0` as register operand B. -/
def takesB (s : State) : Bool :=
  readsB s.ctrl.idInsn && !s.selImm && fieldB s.ctrl.idInsn == 0#5

theorem takesA_iff (s : State) :
    takesA s = true ↔ readsA s.ctrl.idInsn = true ∧ fieldA s.ctrl.idInsn = 0#5 := by
  rw [takesA, Bool.and_eq_true, beq_iff_eq]

theorem takesB_iff (s : State) :
    takesB s = true ↔
      readsB s.ctrl.idInsn = true ∧ s.selImm = false ∧ fieldB s.ctrl.idInsn = 0#5 := by
  rw [takesB, Bool.and_eq_true, Bool.and_eq_true, Bool.not_eq_true', beq_iff_eq, and_assoc]

/-- The operand registers are zero for an instruction that takes `r0`. -/
def PresentsZero (s : State) (i : In) : Prop :=
  EntersEx i →
    (takesA s = true → (next s i).operandmuxes.operandA = 0#32) ∧
      (takesB s = true → (next s i).operandmuxes.operandB = 0#32)

/-! ## Where another value comes from -/

/-- The last result for `r0` that is forwarded is not zero. -/
def ForwardsNonzero (s : State) (i : In) : Prop :=
  ((exResult s i).IsForZero ∧ (exResult s i).data ≠ 0#32) ∨
    (¬(exResult s i).IsForZero ∧ (wbResult s).IsForZero ∧ (wbResult s).data ≠ 0#32)

instance (s : State) (i : In) : Decidable (ForwardsNonzero s i) :=
  inferInstanceAs (Decidable (_ ∨ _))

/-- The read port A is not used for the instruction that moves to ID. -/
def takesPort (s : State) (i : In) : Bool :=
  (Rf.sprValid (rfIn s i) && !i.sprWe) || Rf.sprCsFe s.rf (rfIn s i)

/-- The port has been taken since the instruction in ID was fetched. -/
def PortTaken (s₀ : State) (tr : ℕ → In) (t : ℕ) : Prop :=
  ∃ u < t, takesPort (stateAt s₀ tr u) (tr u) = true ∧ ∀ v < t, u < v → idFreeze (tr v) = true

/-- Nothing is forwarded, and the port is left at a register that is not zero. -/
def MisreadsPort (s₀ : State) (tr : ℕ → In) (t : ℕ) : Prop :=
  ¬(exResult (stateAt s₀ tr t) (tr t)).IsForZero ∧ ¬(wbResult (stateAt s₀ tr t)).IsForZero ∧
    PortTaken s₀ tr t ∧
    (stateAt s₀ tr t).rf.rfA.mem (stateAt s₀ tr t).rf.rfA.addrAReg ≠ 0#32

/-- An instruction that takes `r0` meets a nonzero forwarded result, or a port that an
SPR access has moved. -/
def Leaks (s₀ : State) (tr : ℕ → In) (t : ℕ) : Prop :=
  EntersEx (tr t) ∧
    ((takesA (stateAt s₀ tr t) = true ∧
        (ForwardsNonzero (stateAt s₀ tr t) (tr t) ∨ MisreadsPort s₀ tr t)) ∨
      (takesB (stateAt s₀ tr t) = true ∧ ForwardsNonzero (stateAt s₀ tr t) (tr t)))

/-! ## Forwarding -/

theorem forward_zero (s : State) (i : In) :
    forward 0#5 s = if (exResult s i).IsForZero then .exForw
      else if (wbResult s).IsForZero then .wbForw else .rf := by
  have hex : (0#5 == s.rfAddrw && s.rfwbOp.getLsbD 0) = true ↔ (exResult s i).IsForZero := by
    rw [Bool.and_eq_true, beq_iff_eq]
    exact ⟨fun h ↦ ⟨h.2, h.1.symm⟩, fun h ↦ ⟨h.2.symm, h.1⟩⟩
  have hwb : (0#5 == s.wbRfaddrw && s.wbmux.muxregValid) = true ↔ (wbResult s).IsForZero := by
    rw [Bool.and_eq_true, beq_iff_eq]
    exact ⟨fun h ↦ ⟨h.2, h.1.symm⟩, fun h ↦ ⟨h.2.symm, h.1⟩⟩
  simp only [forward, hex, hwb]

/-- The value of `r0` that reaches the operand register, when `stored` is read from the
register file. -/
def zeroValue (s : State) (i : In) (stored : BitVec 32) : BitVec 32 :=
  if (exResult s i).IsForZero then (exResult s i).data
  else if (wbResult s).IsForZero then (wbResult s).data else stored

theorem zeroValue_eq_zero_iff (s : State) (i : In) (stored : BitVec 32) :
    zeroValue s i stored = 0#32 ↔
      ¬(ForwardsNonzero s i ∨ (¬(exResult s i).IsForZero ∧ ¬(wbResult s).IsForZero ∧
        stored ≠ 0#32)) := by
  rw [zeroValue, ForwardsNonzero]
  by_cases hex : (exResult s i).IsForZero
  · simp [hex]
  · by_cases hwb : (wbResult s).IsForZero
    · simp [hex, hwb]
    · simp [hex, hwb]

/-- Both operand multiplexers pass on the forwarded results. -/
theorem select_forward_zero {s : State} {i : In} (mux : Sel → BitVec 32)
    (hex : mux .exForw = (exResult s i).data) (hwb : mux .wbForw = (wbResult s).data) :
    mux (forward 0#5 s) = zeroValue s i (mux .rf) := by
  rw [forward_zero s i, zeroValue]
  split
  · exact hex
  · split
    · exact hwb
    · rfl

theorem muxedA_of_takesA {s : State} (h : takesA s = true) (i : In) :
    Operandmuxes.muxedA (operandmuxesIn s i) = zeroValue s i (Rf.dataa s.rf) := by
  obtain ⟨-, hfield⟩ := (takesA_iff s).mp h
  have hsel : operandmuxesIn s i = { operandmuxesIn s i with selA := forward 0#5 s } := by
    rw [← hfield]
    rfl
  rw [hsel]
  exact select_forward_zero
    (fun sel ↦ Operandmuxes.muxedA { operandmuxesIn s i with selA := sel }) rfl rfl

theorem muxedB_of_takesB {s : State} (h : takesB s = true) (i : In) :
    Operandmuxes.muxedB (operandmuxesIn s i) = zeroValue s i (Rf.datab s.rf) := by
  obtain ⟨-, himm, hfield⟩ := (takesB_iff s).mp h
  have hsel : operandmuxesIn s i = { operandmuxesIn s i with selB := forward 0#5 s } := by
    rw [← hfield, operandmuxesIn, selB, himm, if_neg Bool.false_ne_true]
  rw [hsel]
  exact select_forward_zero
    (fun sel ↦ Operandmuxes.muxedB { operandmuxesIn s i with selB := sel }) rfl rfl

/-! ## The state before an instruction enters EX -/

/-- `r0` is zero in both copies, no operand is saved ahead, and port B is at the register of
the instruction in ID. -/
structure Ready (s : State) : Prop where
  zeroA : s.rf.rfA.mem 0#5 = 0#32
  zeroB : s.rf.rfB.mem 0#5 = 0#32
  notSavedA : s.operandmuxes.savedA = false
  notSavedB : s.operandmuxes.savedB = false
  portB : readsB s.ctrl.idInsn = true → s.rf.rfB.addrAReg = fieldB s.ctrl.idInsn

theorem idInsn_next (s : State) (i : In) :
    (next s i).ctrl.idInsn =
      if i.rst then Ctrl.voidInsn
      else if i.idFlushpipe then Ctrl.voidInsn
      else if !idFreeze i then i.ifInsn
      else s.ctrl.idInsn := rfl

/-- A port that takes the field of every instruction that reads it and moves to ID is at the
field of the instruction in ID, or ID is frozen and the port is where it was. -/
theorem port_next {reads : BitVec 32 → Bool} {field : BitVec 32 → BitVec 5} {s : State} {i : In}
    {port port' : BitVec 5} (hvoid : reads Ctrl.voidInsn = false)
    (hport : port' = if reads i.ifInsn && !idFreeze i then field i.ifInsn else port)
    (hreads : reads (next s i).ctrl.idInsn = true) :
    port' = field (next s i).ctrl.idInsn ∨
      idFreeze i = true ∧ (next s i).ctrl.idInsn = s.ctrl.idInsn ∧ port' = port := by
  rw [idInsn_next] at hreads ⊢
  split at hreads
  · exact absurd (hvoid.symm.trans hreads) Bool.false_ne_true
  · split at hreads
    · exact absurd (hvoid.symm.trans hreads) Bool.false_ne_true
    · next hrst hflush =>
        rw [if_neg hrst, if_neg hflush]
        cases hfreeze : idFreeze i with
        | false =>
            rw [hfreeze] at hreads hport
            apply Or.inl
            rw [hport, show reads i.ifInsn = true from hreads]
            rfl
        | true =>
            rw [hfreeze, Bool.not_true, Bool.and_false] at hport
            exact Or.inr ⟨rfl, rfl, hport⟩

theorem ready_next_of_rst {s : State} (hzeroA : s.rf.rfA.mem 0#5 = 0#32)
    (hzeroB : s.rf.rfB.mem 0#5 = 0#32) {i : In} (hrst : i.rst = true) : Ready (next s i) where
  zeroA := Rf.mem_zero_next_port hzeroA _ _ _ _
  zeroB := Rf.mem_zero_next_port hzeroB _ _ _ _
  notSavedA := by
    change (Operandmuxes.nextOperand _ _ _ (operandmuxesIn s i)).2 = false
    simp [Operandmuxes.nextOperand, operandmuxesIn, hrst]
  notSavedB := by
    change (Operandmuxes.nextOperand _ _ _ (operandmuxesIn s i)).2 = false
    simp [Operandmuxes.nextOperand, operandmuxesIn, hrst]
  portB hreads := by
    rw [idInsn_next, hrst, if_pos rfl] at hreads
    exact absurd hreads (by decide)

theorem Ready.next {s : State} (h : Ready s) (i : In) : Ready (next s i) where
  zeroA := Rf.mem_zero_next_port h.zeroA _ _ _ _
  zeroB := Rf.mem_zero_next_port h.zeroB _ _ _ _
  notSavedA := by
    change (Operandmuxes.nextOperand _ _ s.operandmuxes.savedA (operandmuxesIn s i)).2 = false
    rw [h.notSavedA]
    exact Operandmuxes.nextOperand_saved exFreeze_of_idFreeze _ _
  notSavedB := by
    change (Operandmuxes.nextOperand _ _ s.operandmuxes.savedB (operandmuxesIn s i)).2 = false
    rw [h.notSavedB]
    exact Operandmuxes.nextOperand_saved exFreeze_of_idFreeze _ _
  portB hreads := by
    have hvoid : readsB Ctrl.voidInsn = false := by decide
    have hport : (Operands.next s i).rf.rfB.addrAReg =
        if readsB i.ifInsn && !idFreeze i then fieldB i.ifInsn else s.rf.rfB.addrAReg := rfl
    rcases port_next hvoid hport hreads with hnow | ⟨-, hinsn, hkept⟩
    · exact hnow
    · rw [hinsn] at hreads ⊢
      rw [hkept]
      exact h.portB hreads

theorem portA_next {s : State} {i : In} (h : takesPort s i = false) :
    (next s i).rf.rfA.addrAReg =
      if readsA i.ifInsn && !idFreeze i then fieldA i.ifInsn else s.rf.rfA.addrAReg := by
  obtain ⟨hread, hrestore⟩ := Bool.or_eq_false_iff.mp h
  have hread' : (Rf.sprValid (rfIn s i) && !(rfIn s i).sprWrite) = false := hread
  change (if Rf.rfEna s.rf (rfIn s i) then Rf.rfAddra s.rf (rfIn s i)
    else s.rf.rfA.addrAReg) = _
  rw [Rf.rfEna, Rf.rfAddra, hread', hrestore, Bool.or_false, Bool.or_false]
  rfl

theorem Ready.operandA_next {s : State} (h : Ready s) {i : In} (henters : EntersEx i)
    (htakes : takesA s = true) :
    (Operands.next s i).operandmuxes.operandA = zeroValue s i (Rf.dataa s.rf) := by
  obtain ⟨hrst, hex, hid, -⟩ := henters
  change (Operandmuxes.nextOperand _ _ s.operandmuxes.savedA (operandmuxesIn s i)).1 = _
  rw [h.notSavedA, Operandmuxes.nextOperand_of_moves hrst hex hid]
  exact muxedA_of_takesA htakes i

theorem Ready.operandB_next {s : State} (h : Ready s) {i : In} (henters : EntersEx i)
    (htakes : takesB s = true) :
    (Operands.next s i).operandmuxes.operandB = zeroValue s i 0#32 := by
  obtain ⟨hrst, hex, hid, -⟩ := henters
  obtain ⟨hreads, -, hfield⟩ := (takesB_iff s).mp htakes
  have hdatab : Rf.datab s.rf = 0#32 := by
    rw [Rf.datab, Dpram.doA, h.portB hreads, hfield, h.zeroB]
  change (Operandmuxes.nextOperand _ _ s.operandmuxes.savedB (operandmuxesIn s i)).1 = _
  rw [h.notSavedB, Operandmuxes.nextOperand_of_moves hrst hex hid, ← hdatab]
  exact muxedB_of_takesB htakes i

/-! ## Runs -/

section

variable (s₀ : State) (tr : ResetTrace gate)

theorem stateAt_succ (t : ℕ) : stateAt s₀ tr (t + 1) = next (stateAt s₀ tr t) (tr t) := rfl

theorem portTaken_succ_of_takesPort {t : ℕ}
    (h : takesPort (stateAt s₀ tr t) (tr t) = true) : PortTaken s₀ tr (t + 1) := by
  refine ⟨t, Nat.lt_succ_self t, h, ?_⟩
  intro v hvt htv
  exact absurd htv (Nat.not_lt.mpr (Nat.le_of_lt_succ hvt))

theorem portTaken_succ_of_idFreeze {t : ℕ} (h : PortTaken s₀ tr t)
    (hfrozen : idFreeze (tr t) = true) : PortTaken s₀ tr (t + 1) := by
  obtain ⟨u, hut, htakes, hafter⟩ := h
  refine ⟨u, hut.trans (Nat.lt_succ_self t), htakes, ?_⟩
  intro v hvt huv
  rcases Nat.lt_or_eq_of_le (Nat.le_of_lt_succ hvt) with hlt | rfl
  · exact hafter v hlt huv
  · exact hfrozen

/-- Unless it has been taken, port A is at the register of the instruction in ID. -/
theorem portA_stateAt (t : ℕ) (hreads : readsA (stateAt s₀ tr (t + 1)).ctrl.idInsn = true) :
    (stateAt s₀ tr (t + 1)).rf.rfA.addrAReg = fieldA (stateAt s₀ tr (t + 1)).ctrl.idInsn ∨
      PortTaken s₀ tr (t + 1) := by
  have hvoid : readsA Ctrl.voidInsn = false := by decide
  induction t with
  | zero =>
      have hrst : (tr 0).rst = true := tr.reset_first
      rw [stateAt_succ, idInsn_next, hrst, if_pos rfl, hvoid] at hreads
      exact absurd hreads Bool.false_ne_true
  | succ t ih =>
      cases htakes : takesPort (stateAt s₀ tr (t + 1)) (tr (t + 1)) with
      | true => exact Or.inr (portTaken_succ_of_takesPort s₀ tr htakes)
      | false =>
          rw [stateAt_succ] at hreads ⊢
          rcases port_next hvoid (portA_next htakes) hreads with hnow | ⟨hfreeze, hinsn, hkept⟩
          · exact Or.inl hnow
          · rw [hinsn] at hreads ⊢
            rw [hkept]
            rcases ih hreads with hport | htaken
            · exact Or.inl hport
            · exact Or.inr (portTaken_succ_of_idFreeze s₀ tr htaken hfreeze)

-- The register file starts with zero in `r0`.
variable (hzeroA : s₀.rf.rfA.mem 0#5 = 0#32) (hzeroB : s₀.rf.rfB.mem 0#5 = 0#32)
include hzeroA hzeroB

theorem ready_stateAt (t : ℕ) : Ready (stateAt s₀ tr (t + 1)) := by
  induction t with
  | zero => exact ready_next_of_rst hzeroA hzeroB tr.reset_first
  | succ t ih => exact ih.next (tr (t + 1))

theorem operandA_iff {t : ℕ} (henters : EntersEx (tr (t + 1)))
    (htakes : takesA (stateAt s₀ tr (t + 1)) = true) :
    (next (stateAt s₀ tr (t + 1)) (tr (t + 1))).operandmuxes.operandA = 0#32 ↔
      ¬(ForwardsNonzero (stateAt s₀ tr (t + 1)) (tr (t + 1)) ∨ MisreadsPort s₀ tr (t + 1)) := by
  have hready := ready_stateAt s₀ tr hzeroA hzeroB t
  obtain ⟨hreads, hfield⟩ := (takesA_iff _).mp htakes
  rw [hready.operandA_next henters htakes, zeroValue_eq_zero_iff]
  apply not_congr
  apply or_congr_right
  constructor
  · rintro ⟨hex, hwb, hstored⟩
    refine ⟨hex, hwb, ?_, hstored⟩
    apply (portA_stateAt s₀ tr t hreads).resolve_left
    intro hport
    rw [Rf.dataa, Dpram.doA, hport, hfield] at hstored
    exact hstored hready.zeroA
  · rintro ⟨hex, hwb, -, hstored⟩
    exact ⟨hex, hwb, hstored⟩

theorem operandB_iff {t : ℕ} (henters : EntersEx (tr (t + 1)))
    (htakes : takesB (stateAt s₀ tr (t + 1)) = true) :
    (next (stateAt s₀ tr (t + 1)) (tr (t + 1))).operandmuxes.operandB = 0#32 ↔
      ¬ForwardsNonzero (stateAt s₀ tr (t + 1)) (tr (t + 1)) := by
  have hready := ready_stateAt s₀ tr hzeroA hzeroB t
  rw [hready.operandB_next henters htakes, zeroValue_eq_zero_iff]
  apply not_congr
  simp

theorem presentsZero_iff (t : ℕ) :
    PresentsZero (stateAt s₀ tr t) (tr t) ↔ ¬Leaks s₀ tr t := by
  by_cases henters : EntersEx (tr t)
  · obtain ⟨u, rfl⟩ : ∃ u, t = u + 1 := by
      apply Nat.exists_eq_add_one_of_ne_zero
      rintro rfl
      exact absurd (henters.1.symm.trans tr.reset_first) Bool.false_ne_true
    have hA := operandA_iff s₀ tr hzeroA hzeroB henters
    have hB := operandB_iff s₀ tr hzeroA hzeroB henters
    constructor
    · rintro hzero ⟨-, ⟨htakes, hleak⟩ | ⟨htakes, hleak⟩⟩
      · exact (hA htakes).mp ((hzero henters).1 htakes) hleak
      · exact (hB htakes).mp ((hzero henters).2 htakes) hleak
    · intro hnone _
      constructor
      · intro htakes
        apply (hA htakes).mpr
        intro hleak
        exact hnone ⟨henters, Or.inl ⟨htakes, hleak⟩⟩
      · intro htakes
        apply (hB htakes).mpr
        intro hleak
        exact hnone ⟨henters, Or.inr ⟨htakes, hleak⟩⟩
  · constructor
    · rintro - ⟨h, -⟩
      exact henters h
    · intro _ h
      exact absurd h henters

/-- The operands of the instructions that take `r0` are zero in every cycle of a run
exactly when no such instruction meets a forwarded result or a moved port. -/
theorem presentsZero_run_iff :
    (∀ t, PresentsZero (stateAt s₀ tr t) (tr t)) ↔ ∀ t, ¬Leaks s₀ tr t :=
  forall_congr' (presentsZero_iff s₀ tr hzeroA hzeroB)

end

/-- `l.addi` with the result 7 for `target`, and `l.add r3,r0,r0` after it.  The run ends with
a reset in cycle 6. -/
def addiThenAdd (target : BitVec 5) : ResetTrace gate where
  cycle t :=
    { (default : In) with
      rst := t == 0 || decide (6 ≤ t)
      ifInsn :=
        if t = 1 then or32Addi ++ target ++ 1#5 ++ 7#16
        else if t = 2 then or32Alu ++ 3#5 ++ 0#5 ++ 0#5 ++ 0#11
        else or32Nop ++ 0#26
      aluDataout := 7 }
  reset_first := rfl

/-- With another target the operands of `l.add` are zero. -/
theorem addiThenAdd_r4 :
    takesA (stateAt default (addiThenAdd 4) 3) = true ∧
      ∀ t, PresentsZero (stateAt default (addiThenAdd 4) t) (addiThenAdd 4 t) := by
  refine ⟨by decide +kernel, ?_⟩
  apply (presentsZero_run_iff default (addiThenAdd 4) rfl rfl).mpr
  rintro t ⟨henters, hleak⟩
  have ht : t < 6 := by
    by_contra hge
    have hrst : (addiThenAdd 4 t).rst = true := by
      change (t == 0 || decide (6 ≤ t)) = true
      rw [decide_eq_true (Nat.le_of_not_lt hge), Bool.or_true]
    exact absurd (henters.1.symm.trans hrst) Bool.false_ne_true
  have hforward : ∀ t < 6, (takesA (stateAt default (addiThenAdd 4) t) = true ∨
      takesB (stateAt default (addiThenAdd 4) t) = true) →
        ¬ForwardsNonzero (stateAt default (addiThenAdd 4) t) (addiThenAdd 4 t) := by
    decide +kernel
  have hport : ∀ u < 6,
      takesPort (stateAt default (addiThenAdd 4) u) (addiThenAdd 4 u) = false := by
    decide +kernel
  rcases hleak with ⟨htakes, hresult | ⟨-, -, ⟨u, hut, htaken, -⟩, -⟩⟩ | ⟨htakes, hresult⟩
  · exact hforward t ht (Or.inl htakes) hresult
  · exact absurd ((hport u (hut.trans ht)).symm.trans htaken) Bool.false_ne_true
  · exact hforward t ht (Or.inr htakes) hresult

/-- With the target `r0` they are the result. -/
theorem addiThenAdd_r0 :
    ((default : State).rf.rfA.mem = fun _ ↦ 0) ∧ ((default : State).rf.rfB.mem = fun _ ↦ 0) ∧
    ¬∀ t, PresentsZero (stateAt default (addiThenAdd 0) t) (addiThenAdd 0 t) := by
  refine ⟨rfl, rfl, ?_⟩
  intro hzero
  have hoperand := (hzero 3 (by decide +kernel)).1 (by decide +kernel)
  exact absurd hoperand (by decide +kernel)

end Specs.Or1200.Operands
