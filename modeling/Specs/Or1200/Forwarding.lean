import Specs.Or1200.ZeroRegister

/-!
# Forwarding

A result on its way to the register file is forwarded from the write-back multiplexer.
So the operands of the instruction in EX are what the register file holds, with all
instructions before it written back, and they stay so for as long as it is in EX.
-/

namespace Specs.Or1200.Operands

open Specs.Sync

/-- Neither the SPR bus nor the debug unit reaches the register file, and no violation
blocks it. -/
structure Undisturbed (i : In) : Prop where
  noAccess : i.sprCs = true → i.sprAddr.extractLsb' 5 6 ≠ sprRf
  noDebug : i.duRead = false
  noViolation : i.spExceptionComb = false

instance (i : In) : Decidable (Undisturbed i) :=
  decidable_of_iff ((i.sprCs = true → i.sprAddr.extractLsb' 5 6 ≠ sprRf) ∧ i.duRead = false ∧
      i.spExceptionComb = false)
    ⟨fun h ↦ ⟨h.1, h.2.1, h.2.2⟩, fun h ↦ ⟨h.1, h.2, h.3⟩⟩

/-! ## The register file -/

/-- The general registers after a result has been written. -/
def commit (r : Result) (m : BitVec 5 → BitVec 32) : BitVec 5 → BitVec 32 :=
  if r.we then Function.update m r.addr (if r.addr = 0#5 then 0#32 else r.data) else m

theorem commit_addr {r : Result} (hwe : r.we = true) (hzero : r.addr ≠ 0#5)
    (m : BitVec 5 → BitVec 32) : commit r m r.addr = r.data := by
  rw [commit, if_pos hwe, Function.update_self, if_neg hzero]

theorem commit_of_not {r : Result} {f : BitVec 5} (h : ¬(r.we = true ∧ r.addr = f))
    (m : BitVec 5 → BitVec 32) : commit r m f = m f := by
  rw [commit]
  split
  · next hwe =>
      apply Function.update_of_ne
      rintro rfl
      exact h ⟨hwe, rfl⟩
  · rfl

theorem Undisturbed.sprValid {i : In} (h : Undisturbed i) (s : State) :
    Rf.sprValid (rfIn s i) = false := by
  rw [← Bool.not_eq_true, Rf.sprValid, Bool.and_eq_true, beq_iff_eq]
  rintro ⟨hcs, haddr⟩
  exact h.noAccess hcs haddr

theorem Undisturbed.takesPort {s : State} {i : In} (h : Undisturbed i)
    (hdu : s.rf.sprDuCs = false) : takesPort s i = false := by
  rw [Operands.takesPort, h.sprValid, Rf.sprCsFe, hdu]
  rfl

/-- What is written in a cycle is the result of the instruction that leaves EX. -/
theorem Undisturbed.written {s : State} {i : In} (h : Undisturbed i)
    (hallowed : s.rfwbOp.getLsbD 0 = true → s.rf.rfWeAllow = true) :
    Rf.written s.rf (rfIn s i) =
      if (exResult s i).we && !exFreeze i then
        some ((exResult s i).addr,
          if (exResult s i).addr = 0#5 then 0#32 else (exResult s i).data)
      else none := by
  have hvalid := h.sprValid s
  have hwe : Rf.rfWe s.rf (rfIn s i) = ((exResult s i).we && !exFreeze i) := by
    rw [Rf.rfWe, hvalid, Bool.false_and, Bool.false_or]
    change (s.rfwbOp.getLsbD 0 && !exFreeze i && s.rf.rfWeAllow) =
      (s.rfwbOp.getLsbD 0 && !exFreeze i)
    cases hop : s.rfwbOp.getLsbD 0 with
    | false => rfl
    | true => rw [hallowed hop, Bool.and_true]
  have haddr : Rf.rfAddrw (rfIn s i) = s.rfAddrw := by
    rw [Rf.rfAddrw, hvalid, Bool.false_and, if_neg Bool.false_ne_true]
    rfl
  have hdata : Rf.rfDataw (rfIn s i) = if s.rfAddrw = 0#5 then 0#32 else rfDataw s i := by
    simp only [Rf.rfDataw, haddr, hvalid, Bool.false_and, beq_iff_eq, Bool.false_eq_true, if_false]
    rfl
  have hcomb : (rfIn s i).spExceptionComb = false := h.noViolation
  rw [Rf.written, hwe, haddr, hdata, hcomb, Bool.not_false, Bool.and_true]
  rfl

/-- A copy of the register file changes when an instruction leaves EX. -/
theorem Undisturbed.mem_next {s : State} {i : In} (h : Undisturbed i)
    (hallowed : s.rfwbOp.getLsbD 0 = true → s.rf.rfWeAllow = true) (c : Dpram.State 5 32)
    (en : Bool) (addr : BitVec 5) :
    (Dpram.next c (Rf.port en addr s.rf (rfIn s i))).mem =
      if exFreeze i then c.mem else commit (exResult s i) c.mem := by
  rw [Rf.mem_next_port, h.written hallowed, commit]
  cases (exResult s i).we <;> cases exFreeze i <;> rfl

/-! ## Forwarded values -/

/-- The result before the one in EX has reached the register file, if its target is among
the registers `R`. -/
def Tracks (R : BitVec 5 → Prop) (s : State) (m : BitVec 5 → BitVec 32) : Prop :=
  (wbResult s).we = true → R (wbResult s).addr → m (wbResult s).addr = (wbResult s).data

theorem forward_eq (f : BitVec 5) (s : State) (i : In) :
    forward f s = if (exResult s i).we = true ∧ (exResult s i).addr = f then .exForw
      else if (wbResult s).we = true ∧ (wbResult s).addr = f then .wbForw else .rf := by
  have hand : ∀ (x : BitVec 5) (we : Bool), (f == x && we) = true ↔ we = true ∧ x = f := by
    intro x we
    rw [Bool.and_eq_true, beq_iff_eq]
    exact ⟨fun h ↦ ⟨h.2, h.1.symm⟩, fun h ↦ ⟨h.2.symm, h.1⟩⟩
  simp only [forward, hand]
  rfl

/-- Wherever the operand comes from, it is what the register holds once the instruction in
EX has been written back. -/
theorem select_forward {R : BitVec 5 → Prop} {s : State} {i : In} {f : BitVec 5}
    {m : BitVec 5 → BitVec 32} (hR : R f) (hzero : R 0#5 → ¬(exResult s i).IsForZero)
    (htracks : Tracks R s m) (mux : Sel → BitVec 32) (hex : mux .exForw = (exResult s i).data)
    (hwb : mux .wbForw = (wbResult s).data) (hrf : mux .rf = m f) :
    mux (forward f s) = commit (exResult s i) m f := by
  rw [forward_eq f s i]
  split
  · next hfrom =>
      obtain ⟨hwe, rfl⟩ := hfrom
      have hne : (exResult s i).addr ≠ 0#5 := by
        intro h0
        rw [h0] at hR
        exact hzero hR ⟨hwe, h0⟩
      rw [commit_addr hwe hne, hex]
  · next hnot =>
      rw [commit_of_not hnot]
      split
      · next hfrom =>
          obtain ⟨hwe, rfl⟩ := hfrom
          rw [hwb, htracks hwe hR]
      · exact hrf

/-- The result that leaves EX is tracked from then on. -/
theorem tracks_next {R : BitVec 5 → Prop} {s : State} {i : In} {m : BitVec 5 → BitVec 32}
    (hrst : i.rst = false) (hzero : R 0#5 → ¬(exResult s i).IsForZero) (h : Tracks R s m) :
    Tracks R (next s i) (if exFreeze i then m else commit (exResult s i) m) := by
  have hwb : wbResult (next s i) =
      if exFreeze i then wbResult s else exResult s i := by
    have hfreeze : wbFreeze i = exFreeze i := rfl
    cases hex : exFreeze i <;>
      simp [wbResult, exResult, next, Wbmux.next, wbmuxIn, hrst, hfreeze, hex, rfDataw]
  rw [Tracks, hwb]
  split
  · exact h
  · intro hwe hR
    apply commit_addr hwe
    intro h0
    rw [h0] at hR
    exact hzero hR ⟨hwe, h0⟩

/-! ## The invariant -/

/-- The registers around ID and EX agree with the register file, as far as the registers
`R` are concerned. -/
structure Current (R : BitVec 5 → Prop) (s : State) : Prop where
  noRestore : s.rf.sprDuCs = false
  allowed : s.rfwbOp.getLsbD 0 = true → s.rf.rfWeAllow = true
  notSavedA : s.operandmuxes.savedA = false
  notSavedB : s.operandmuxes.savedB = false
  tracksA : Tracks R s s.rf.rfA.mem
  tracksB : Tracks R s s.rf.rfB.mem
  portA : readsA s.ctrl.idInsn = true → s.rf.rfA.addrAReg = fieldA s.ctrl.idInsn
  portB : readsB s.ctrl.idInsn = true → s.rf.rfB.addrAReg = fieldB s.ctrl.idInsn
  selImm : s.ctrl.idInsn ≠ Ctrl.voidInsn →
    s.selImm = decide (opcode s.ctrl.idInsn ∉ registerOpcodes)
  operandA : readsA s.ctrl.exInsn = true → R (fieldA s.ctrl.exInsn) →
    s.operandmuxes.operandA = s.rf.rfA.mem (fieldA s.ctrl.exInsn)
  operandB : readsB s.ctrl.exInsn = true → opcode s.ctrl.exInsn ∈ registerOpcodes →
    R (fieldB s.ctrl.exInsn) → s.operandmuxes.operandB = s.rf.rfB.mem (fieldB s.ctrl.exInsn)
  immediate : opcode s.ctrl.exInsn ∉ registerOpcodes →
    s.operandmuxes.operandB = Ctrl.idSimm s.ctrl.exInsn

theorem exInsn_next (s : State) (i : In) :
    (next s i).ctrl.exInsn =
      if i.rst then Ctrl.voidInsn
      else if Ctrl.voidsEx (ctrlIn i) then Ctrl.voidInsn
      else if !exFreeze i then s.ctrl.idInsn
      else s.ctrl.exInsn := rfl

/-- What can happen to the instruction in EX in a cycle. -/
theorem exInsn_next_cases (s : State) {i : In} (hrst : i.rst = false) :
    (next s i).ctrl.exInsn = Ctrl.voidInsn ∨
      (EntersEx i ∧ (next s i).ctrl.exInsn = s.ctrl.idInsn) ∨
        (exFreeze i = true ∧ (next s i).ctrl.exInsn = s.ctrl.exInsn) := by
  rw [exInsn_next, hrst, if_neg Bool.false_ne_true]
  split
  · exact Or.inl rfl
  · next hvoids =>
      have hflush : i.exFlushpipe = false := by
        rw [← Bool.not_eq_true]
        intro hflush
        apply hvoids
        rw [Ctrl.voidsEx]
        exact Bool.or_eq_true_iff.mpr (Or.inr hflush)
      split
      · next hmoves =>
          have hex : exFreeze i = false := by simpa using hmoves
          have hid : idFreeze i = false := by
            rw [← Bool.not_eq_true]
            intro hid
            exact absurd ((exFreeze_of_idFreeze hid).symm.trans hex) (by decide)
          exact Or.inr (Or.inl ⟨⟨hrst, hex, hid, hflush⟩, rfl⟩)
      · next hfrozen => exact Or.inr (Or.inr ⟨by simpa using hfrozen, rfl⟩)

theorem readsA_voidInsn : readsA Ctrl.voidInsn = false := by decide

theorem readsB_voidInsn : readsB Ctrl.voidInsn = false := by decide

theorem opcode_voidInsn_mem : opcode Ctrl.voidInsn ∈ registerOpcodes := by decide

section

variable {R : BitVec 5 → Prop} {s : State} {i : In}

theorem Current.operandA_next (h : Current R s) (hquiet : Undisturbed i)
    (hzero : R 0#5 → ¬(exResult s i).IsForZero) (hrst : i.rst = false)
    (hreads : readsA (next s i).ctrl.exInsn = true) (hR : R (fieldA (next s i).ctrl.exInsn)) :
    (next s i).operandmuxes.operandA =
      (next s i).rf.rfA.mem (fieldA (next s i).ctrl.exInsn) := by
  have hmem : (next s i).rf.rfA.mem = _ := hquiet.mem_next h.allowed s.rf.rfA _ _
  have hoperand : (next s i).operandmuxes.operandA =
      (Operandmuxes.nextOperand (Operandmuxes.muxedA (operandmuxesIn s i))
        s.operandmuxes.operandA s.operandmuxes.savedA (operandmuxesIn s i)).1 := rfl
  rw [hoperand, hmem]
  rcases exInsn_next_cases s hrst with hvoid | ⟨⟨-, hex, hid, -⟩, hmoves⟩ | ⟨hfrozen, hkept⟩
  · rw [hvoid, readsA_voidInsn] at hreads
    exact absurd hreads Bool.false_ne_true
  · rw [hmoves] at hreads hR ⊢
    rw [h.notSavedA, Operandmuxes.nextOperand_of_moves hrst hex hid, if_neg (by simp [hex])]
    apply select_forward hR hzero h.tracksA
      (fun sel ↦ Operandmuxes.muxedA { operandmuxesIn s i with selA := sel }) rfl rfl
    change s.rf.rfA.mem s.rf.rfA.addrAReg = _
    rw [h.portA hreads]
  · rw [hkept] at hreads hR ⊢
    rw [if_pos hfrozen, ← h.operandA hreads hR]
    have hex : (operandmuxesIn s i).exFreeze = true := hfrozen
    have hrst' : (operandmuxesIn s i).rst = false := hrst
    simp [Operandmuxes.nextOperand, hex, hrst']

theorem Current.operandB_next (h : Current R s) (hquiet : Undisturbed i)
    (hzero : R 0#5 → ¬(exResult s i).IsForZero) (hrst : i.rst = false)
    (hreads : readsB (next s i).ctrl.exInsn = true)
    (hregister : opcode (next s i).ctrl.exInsn ∈ registerOpcodes)
    (hR : R (fieldB (next s i).ctrl.exInsn)) :
    (next s i).operandmuxes.operandB =
      (next s i).rf.rfB.mem (fieldB (next s i).ctrl.exInsn) := by
  have hmem : (next s i).rf.rfB.mem = _ := hquiet.mem_next h.allowed s.rf.rfB _ _
  have hoperand : (next s i).operandmuxes.operandB =
      (Operandmuxes.nextOperand (Operandmuxes.muxedB (operandmuxesIn s i))
        s.operandmuxes.operandB s.operandmuxes.savedB (operandmuxesIn s i)).1 := rfl
  rw [hoperand, hmem]
  rcases exInsn_next_cases s hrst with hvoid | ⟨⟨-, hex, hid, -⟩, hmoves⟩ | ⟨hfrozen, hkept⟩
  · rw [hvoid, readsB_voidInsn] at hreads
    exact absurd hreads Bool.false_ne_true
  · rw [hmoves] at hreads hregister hR ⊢
    have hne : s.ctrl.idInsn ≠ Ctrl.voidInsn := by
      intro hvoid
      rw [hvoid, readsB_voidInsn] at hreads
      exact absurd hreads Bool.false_ne_true
    have hsel : selB s = forward (fieldB s.ctrl.idInsn) s := by
      have himm : s.selImm = false := by
        rw [h.selImm hne]
        exact decide_eq_false (not_not_intro hregister)
      rw [selB, himm, if_neg Bool.false_ne_true]
    have hmux : operandmuxesIn s i =
        { operandmuxesIn s i with selB := forward (fieldB s.ctrl.idInsn) s } := by
      rw [← hsel]
      rfl
    rw [h.notSavedB, Operandmuxes.nextOperand_of_moves hrst hex hid, if_neg (by simp [hex]), hmux]
    apply select_forward hR hzero h.tracksB
      (fun sel ↦ Operandmuxes.muxedB { operandmuxesIn s i with selB := sel }) rfl rfl
    change s.rf.rfB.mem s.rf.rfB.addrAReg = _
    rw [h.portB hreads]
  · rw [hkept] at hreads hregister hR ⊢
    rw [if_pos hfrozen, ← h.operandB hreads hregister hR]
    have hex : (operandmuxesIn s i).exFreeze = true := hfrozen
    have hrst' : (operandmuxesIn s i).rst = false := hrst
    simp [Operandmuxes.nextOperand, hex, hrst']

theorem Current.immediate_next (h : Current R s) (hrst : i.rst = false)
    (himm : opcode (next s i).ctrl.exInsn ∉ registerOpcodes) :
    (next s i).operandmuxes.operandB = Ctrl.idSimm (next s i).ctrl.exInsn := by
  have hoperand : (next s i).operandmuxes.operandB =
      (Operandmuxes.nextOperand (Operandmuxes.muxedB (operandmuxesIn s i))
        s.operandmuxes.operandB s.operandmuxes.savedB (operandmuxesIn s i)).1 := rfl
  rw [hoperand]
  rcases exInsn_next_cases s hrst with hvoid | ⟨⟨-, hex, hid, -⟩, hmoves⟩ | ⟨hfrozen, hkept⟩
  · rw [hvoid] at himm
    exact absurd opcode_voidInsn_mem himm
  · rw [hmoves] at himm ⊢
    have hne : s.ctrl.idInsn ≠ Ctrl.voidInsn := by
      intro hvoid
      rw [hvoid] at himm
      exact himm opcode_voidInsn_mem
    have hsel : selB s = .imm := by
      rw [selB, h.selImm hne, decide_eq_true himm, if_pos rfl]
    have hmux : operandmuxesIn s i = { operandmuxesIn s i with selB := .imm } := by
      rw [← hsel]
      rfl
    rw [h.notSavedB, Operandmuxes.nextOperand_of_moves hrst hex hid, hmux]
    rfl
  · rw [hkept] at himm ⊢
    have hex : (operandmuxesIn s i).exFreeze = true := hfrozen
    have hrst' : (operandmuxesIn s i).rst = false := hrst
    simp [Operandmuxes.nextOperand, hex, hrst', h.immediate himm]

theorem Current.allowed_next (h : Current R s) (hrst : i.rst = false)
    (hflush : i.wbFlushpipe = i.exFlushpipe) (hop : (next s i).rfwbOp.getLsbD 0 = true) :
    (next s i).rf.rfWeAllow = true := by
  have hallow : (next s i).rf.rfWeAllow =
      if !exFreeze i then !i.exFlushpipe else s.rf.rfWeAllow := by
    rw [← hflush]
    exact if_neg (by simp [rfIn, hrst])
  have hnext : (next s i).rfwbOp =
      if Ctrl.voidsEx (ctrlIn i) then rfwbopNop
      else if !exFreeze i then decodeRfwbOp (opcode s.ctrl.idInsn) else s.rfwbOp :=
    if_neg (by simp [hrst])
  rw [hnext] at hop
  rw [hallow]
  split at hop
  · exact absurd hop (by decide)
  · next hvoids =>
      split at hop
      · next hmoves =>
          rw [if_pos hmoves]
          cases hflushed : i.exFlushpipe with
          | false => rfl
          | true =>
              apply absurd _ hvoids
              rw [Ctrl.voidsEx, show (ctrlIn i).exFlushpipe = true from hflushed, Bool.or_true]
      · next hfrozen =>
          rw [if_neg hfrozen]
          exact h.allowed hop

theorem Current.selImm_next (h : Current R s) (hrst : i.rst = false)
    (hne : (next s i).ctrl.idInsn ≠ Ctrl.voidInsn) :
    (next s i).selImm = decide (opcode (next s i).ctrl.idInsn ∉ registerOpcodes) := by
  have hsel : (next s i).selImm =
      if !idFreeze i then decide (opcode i.ifInsn ∉ registerOpcodes) else s.selImm :=
    if_neg (by simp [hrst])
  rw [idInsn_next, hrst, if_neg Bool.false_ne_true] at hne ⊢
  rw [hsel]
  split at hne
  · exact absurd rfl hne
  · next hflush =>
      rw [if_neg hflush]
      split at hne
      · next hmoves => rw [if_pos hmoves, if_pos hmoves]
      · next hfrozen =>
          rw [if_neg hfrozen, if_neg hfrozen]
          exact h.selImm hne

theorem current_next_of_rst (hquiet : Undisturbed i) (hrst : i.rst = true) :
    Current R (next s i) where
  noRestore := by
    change (i.sprCs && i.duRead) = false
    rw [hquiet.noDebug, Bool.and_false]
  allowed _ := if_pos hrst
  notSavedA := by
    change (Operandmuxes.nextOperand _ _ _ (operandmuxesIn s i)).2 = false
    simp [Operandmuxes.nextOperand, operandmuxesIn, hrst]
  notSavedB := by
    change (Operandmuxes.nextOperand _ _ _ (operandmuxesIn s i)).2 = false
    simp [Operandmuxes.nextOperand, operandmuxesIn, hrst]
  tracksA hwe := absurd hwe (by simp [wbResult, next, Wbmux.next, wbmuxIn, hrst])
  tracksB hwe := absurd hwe (by simp [wbResult, next, Wbmux.next, wbmuxIn, hrst])
  portA hreads := by
    rw [idInsn_next, if_pos hrst, readsA_voidInsn] at hreads
    exact absurd hreads Bool.false_ne_true
  portB hreads := by
    rw [idInsn_next, if_pos hrst, readsB_voidInsn] at hreads
    exact absurd hreads Bool.false_ne_true
  selImm hne := by
    rw [idInsn_next, if_pos hrst] at hne
    exact absurd rfl hne
  operandA hreads := by
    rw [exInsn_next, if_pos hrst, readsA_voidInsn] at hreads
    exact absurd hreads Bool.false_ne_true
  operandB hreads := by
    rw [exInsn_next, if_pos hrst, readsB_voidInsn] at hreads
    exact absurd hreads Bool.false_ne_true
  immediate himm := by
    rw [exInsn_next, if_pos hrst] at himm
    exact absurd opcode_voidInsn_mem himm

/-- A port at the field of the instruction in ID stays there. -/
theorem port_follows {reads : BitVec 32 → Bool} {field : BitVec 32 → BitVec 5}
    {port port' : BitVec 5} (hvoid : reads Ctrl.voidInsn = false)
    (h : reads s.ctrl.idInsn = true → port = field s.ctrl.idInsn)
    (hport : port' = if reads i.ifInsn && !idFreeze i then field i.ifInsn else port)
    (hreads : reads (next s i).ctrl.idInsn = true) : port' = field (next s i).ctrl.idInsn := by
  rcases port_next hvoid hport hreads with hnow | ⟨-, hinsn, hkept⟩
  · exact hnow
  · rw [hinsn] at hreads ⊢
    rw [hkept]
    exact h hreads

/-- What a cycle keeps. -/
theorem Current.next (h : Current R s) (hquiet : Undisturbed i)
    (hflush : i.wbFlushpipe = i.exFlushpipe) (hzero : R 0#5 → ¬(exResult s i).IsForZero) :
    Current R (Operands.next s i) := by
  cases hrst : i.rst with
  | true => exact current_next_of_rst hquiet hrst
  | false =>
      have hmemA : (Operands.next s i).rf.rfA.mem = _ :=
        hquiet.mem_next h.allowed s.rf.rfA _ _
      have hmemB : (Operands.next s i).rf.rfB.mem = _ :=
        hquiet.mem_next h.allowed s.rf.rfB _ _
      constructor
      case noRestore =>
        change (i.sprCs && i.duRead) = false
        rw [hquiet.noDebug, Bool.and_false]
      case allowed => exact h.allowed_next hrst hflush
      case notSavedA =>
        change (Operandmuxes.nextOperand _ _ s.operandmuxes.savedA (operandmuxesIn s i)).2 = false
        rw [h.notSavedA]
        exact Operandmuxes.nextOperand_saved exFreeze_of_idFreeze _ _
      case notSavedB =>
        change (Operandmuxes.nextOperand _ _ s.operandmuxes.savedB (operandmuxesIn s i)).2 = false
        rw [h.notSavedB]
        exact Operandmuxes.nextOperand_saved exFreeze_of_idFreeze _ _
      case tracksA =>
        rw [hmemA]
        exact tracks_next hrst hzero h.tracksA
      case tracksB =>
        rw [hmemB]
        exact tracks_next hrst hzero h.tracksB
      case portA =>
        exact port_follows readsA_voidInsn h.portA (portA_next (hquiet.takesPort h.noRestore))
      case portB => exact port_follows readsB_voidInsn h.portB rfl
      case selImm => exact h.selImm_next hrst
      case operandA => exact h.operandA_next hquiet hzero hrst
      case operandB => exact h.operandB_next hquiet hzero hrst
      case immediate => exact h.immediate_next hrst

end

/-! ## Runs -/

/-- The operands of the instruction in EX are in the register file, and the register file
gets its result when it leaves. -/
structure Forwards (s : State) (i : In) : Prop where
  registerA : readsA s.ctrl.exInsn = true → fieldA s.ctrl.exInsn ≠ 0#5 →
    s.operandmuxes.operandA = s.rf.rfA.mem (fieldA s.ctrl.exInsn)
  registerB : readsB s.ctrl.exInsn = true → opcode s.ctrl.exInsn ∈ registerOpcodes →
    fieldB s.ctrl.exInsn ≠ 0#5 →
      s.operandmuxes.operandB = s.rf.rfB.mem (fieldB s.ctrl.exInsn)
  immediate : opcode s.ctrl.exInsn ∉ registerOpcodes →
    s.operandmuxes.operandB = Ctrl.idSimm s.ctrl.exInsn
  writtenA : (next s i).rf.rfA.mem =
    if exFreeze i then s.rf.rfA.mem else commit (exResult s i) s.rf.rfA.mem
  writtenB : (next s i).rf.rfB.mem =
    if exFreeze i then s.rf.rfB.mem else commit (exResult s i) s.rf.rfB.mem

section

variable (s₀ : State) (tr : ResetTrace gate) (hquiet : ∀ t, Undisturbed (tr t))
  (hflush : ∀ t, (tr t).wbFlushpipe = (tr t).exFlushpipe)
include hquiet hflush

theorem current_stateAt (t : ℕ) : Current (· ≠ 0#5) (stateAt s₀ tr (t + 1)) := by
  induction t with
  | zero => exact current_next_of_rst (hquiet 0) tr.reset_first
  | succ t ih => exact ih.next (hquiet (t + 1)) (hflush (t + 1)) fun h ↦ absurd rfl h

/-- However the pipeline is held up and flushed, forwarding is transparent. -/
theorem forwards_stateAt (t : ℕ) : Forwards (stateAt s₀ tr (t + 1)) (tr (t + 1)) := by
  have hcurrent := current_stateAt s₀ tr hquiet hflush t
  constructor
  case registerA => exact hcurrent.operandA
  case registerB => exact hcurrent.operandB
  case immediate => exact hcurrent.immediate
  case writtenA => exact (hquiet (t + 1)).mem_next hcurrent.allowed _ _ _
  case writtenB => exact (hquiet (t + 1)).mem_next hcurrent.allowed _ _ _

end

/-- `l.addi r4,r1,7` and `l.add r3,r4,r4` after it.  The sum is computed elsewhere. -/
def addiThenDouble : ResetTrace gate where
  cycle t :=
    { (default : In) with
      rst := t == 0
      ifInsn :=
        if t = 1 then or32Addi ++ 4#5 ++ 1#5 ++ 7#16
        else if t = 2 then or32Alu ++ 3#5 ++ 4#5 ++ 4#5 ++ 0#11
        else or32Nop ++ 0#26
      aluDataout := 7 }
  reset_first := rfl

theorem forwards_addiThenDouble :
    Forwards (stateAt default addiThenDouble (3 + 1)) (addiThenDouble (3 + 1)) ∧
      (stateAt default addiThenDouble (3 + 1)).operandmuxes.operandA = 7#32 := by
  have hquiet : ∀ t, Undisturbed (addiThenDouble t) := by
    intro t
    constructor
    · intro hcs
      exact absurd hcs Bool.false_ne_true
    · rfl
    · rfl
  refine ⟨forwards_stateAt default addiThenDouble hquiet (fun _ ↦ rfl) 3, ?_⟩
  decide +kernel

end Specs.Or1200.Operands
