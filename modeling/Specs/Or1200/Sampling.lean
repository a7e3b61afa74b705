import Specs.Or1200.Ctrl
import Specs.Or1200.Except
import Specs.Sync.Stage

/-!
# What the fabric samples

The instruction in EX is kept by `or1200_ctrl` and its program counter by
`or1200_except`, under different conditions: a flush makes the instruction void and
keeps the counter, and a bubble makes the instruction void and takes the counter of
ID.  Still the pair that `insn_clk` presents to the fabric is the pair of one
instruction, and every instruction that leaves EX unflushed is presented once.

Freezes and flushes are inputs here.  The rule that a freeze of EX goes with a freeze
of ID is not needed: without it ID may lose an instruction, but one that never moves.
-/

namespace Specs.Or1200.Pipeline

open Specs.Sync

/-- The inputs of a cycle; `except` has the ports of the exception unit that are not
wired below. -/
structure In where
  rst : Bool
  ifPc : BitVec 32
  ifInsn : BitVec 32
  idFreeze : Bool
  exFreeze : Bool
  flush : Bool
  except : Except.In
deriving Inhabited

structure State where
  ctrl : Ctrl.State
  except : Except.State
deriving Inhabited

def ctrlIn (i : In) : Ctrl.In where
  rst := i.rst
  ifInsn := i.ifInsn
  idFreeze := i.idFreeze
  exFreeze := i.exFreeze
  idFlushpipe := i.flush
  exFlushpipe := i.flush

def exceptIn (s : State) (i : In) : Except.In :=
  { i.except with
    rst := i.rst
    ifPc := i.ifPc
    idFreeze := i.idFreeze
    exFreeze := i.exFreeze
    wbFreeze := i.exFreeze
    idFlushpipe := i.flush
    exFlushpipe := i.flush
    exVoid := Ctrl.exVoid s.ctrl }

def next (s : State) (i : In) : State where
  ctrl := Ctrl.next s.ctrl (ctrlIn i)
  except := Except.next s.except (exceptIn s i)

def stateAt (s₀ : State) (tr : ℕ → In) (t : ℕ) : State := run next s₀ tr t

def isVoid (insn : BitVec 32) : Bool := opcode insn == or32Nop && insn.getLsbD 16

def idVoid (s : State) : Bool := isVoid s.ctrl.idInsn

def exVoid (s : State) : Bool := isVoid s.ctrl.exInsn

def insnClk (s : State) (i : In) : Bool :=
  !exVoid s && !i.exFreeze && s.except.exPc.extractLsb' 27 5 == 0#5

def idPair (s : State) : BitVec 32 × BitVec 32 := (s.except.idPc, s.ctrl.idInsn)

def exPair (s : State) : BitVec 32 × BitVec 32 := (s.except.exPc, s.ctrl.exInsn)

/-- The pipeline as a reset leaves it. -/
structure Cleared (s : State) : Prop where
  idInsn : s.ctrl.idInsn = Ctrl.voidInsn
  exInsn : s.ctrl.exInsn = Ctrl.voidInsn
  idPc : s.except.idPc = 0
  exPc : s.except.exPc = 0

theorem cleared_next_of_rst (s : State) {i : In} (h : i.rst = true) : Cleared (next s i) := by
  constructor <;> simp [next, Ctrl.next, Except.next, ctrlIn, exceptIn, h]

/-! ## One cycle -/

theorem isVoid_voidInsn : isVoid Ctrl.voidInsn = true := by decide

section

variable {s : State} {i : In} (hrst : i.rst = false)
include hrst

theorem idVoid_next_of_flush (hflush : i.flush = true) : idVoid (next s i) = true := by
  have hinsn : (next s i).ctrl.idInsn = Ctrl.voidInsn := by
    simp [next, Ctrl.next, ctrlIn, hrst, hflush]
  rw [idVoid, hinsn, isVoid_voidInsn]

theorem idPair_next (hflush : i.flush = false) :
    idPair (next s i) = if i.idFreeze then idPair s else (i.ifPc, i.ifInsn) := by
  cases hfreeze : i.idFreeze <;>
    simp [idPair, next, Ctrl.next, Except.next, ctrlIn, exceptIn, hrst, hflush, hfreeze]

theorem exVoid_next_of_flush (hflush : i.flush = true) : exVoid (next s i) = true := by
  have hinsn : (next s i).ctrl.exInsn = Ctrl.voidInsn := by
    simp [next, Ctrl.next, Ctrl.voidsEx, ctrlIn, hrst, hflush]
  rw [exVoid, hinsn, isVoid_voidInsn]

theorem exVoid_next_of_bubble (hex : i.exFreeze = false) (hid : i.idFreeze = true) :
    exVoid (next s i) = true := by
  have hinsn : (next s i).ctrl.exInsn = Ctrl.voidInsn := by
    simp [next, Ctrl.next, Ctrl.voidsEx, ctrlIn, hrst, hex, hid]
  rw [exVoid, hinsn, isVoid_voidInsn]

theorem exPair_next_of_freeze (hflush : i.flush = false) (hex : i.exFreeze = true) :
    exPair (next s i) = exPair s := by
  simp [exPair, next, Ctrl.next, Ctrl.voidsEx, Except.next, Except.movesToEx, ctrlIn, exceptIn,
    hrst, hflush, hex]

theorem exPair_next_of_move (hflush : i.flush = false) (hex : i.exFreeze = false)
    (hid : i.idFreeze = false) : exPair (next s i) = idPair s := by
  simp [exPair, idPair, next, Ctrl.next, Ctrl.voidsEx, Except.next, Except.movesToEx, ctrlIn,
    exceptIn, hrst, hflush, hex, hid]

end

/-! ## ID and EX as stages -/

/-- A pair, unless its instruction is void. -/
def item (pair : BitVec 32 × BitVec 32) : Option (BitVec 32 × BitVec 32) :=
  if isVoid pair.2 then none else some pair

theorem item_eq_some_iff {pair x : BitVec 32 × BitVec 32} :
    item pair = some x ↔ isVoid pair.2 = false ∧ pair = x := by
  cases h : isVoid pair.2 <;> simp [item, h]

/-- A run without resets from the state that a reset leaves. -/
structure Running (s₀ : State) (tr : ℕ → In) : Prop where
  cleared : Cleared s₀
  noReset : ∀ t, (tr t).rst = false

section

variable {s₀ : State} {tr : ℕ → In} (h : Running s₀ tr)

def Running.idStage : Stage (BitVec 32 × BitVec 32) where
  frozen t := (tr t).idFreeze
  flushed t := (tr t).flush
  offered t := item ((tr t).ifPc, (tr t).ifInsn)
  content t := item (idPair (stateAt s₀ tr t))
  content_zero := by
    apply if_pos
    change isVoid s₀.ctrl.idInsn = true
    rw [h.cleared.idInsn, isVoid_voidInsn]
  content_succ t := by
    change item (idPair (next (stateAt s₀ tr t) (tr t))) = _
    cases hflush : (tr t).flush with
    | true => exact if_pos (idVoid_next_of_flush (h.noReset t) hflush)
    | false =>
        rw [idPair_next (h.noReset t) hflush]
        cases (tr t).idFreeze <;> rfl

def Running.exStage : Stage (BitVec 32 × BitVec 32) where
  frozen t := (tr t).exFreeze
  flushed t := (tr t).flush
  offered t := if (tr t).idFreeze then none else item (idPair (stateAt s₀ tr t))
  content t := item (exPair (stateAt s₀ tr t))
  content_zero := by
    apply if_pos
    change isVoid s₀.ctrl.exInsn = true
    rw [h.cleared.exInsn, isVoid_voidInsn]
  content_succ t := by
    change item (exPair (next (stateAt s₀ tr t) (tr t))) = _
    cases hflush : (tr t).flush with
    | true => exact if_pos (exVoid_next_of_flush (h.noReset t) hflush)
    | false =>
        cases hex : (tr t).exFreeze with
        | true =>
            rw [exPair_next_of_freeze (h.noReset t) hflush hex]
            rfl
        | false =>
            cases hid : (tr t).idFreeze with
            | true => exact if_pos (exVoid_next_of_bubble (h.noReset t) hex hid)
            | false =>
                rw [exPair_next_of_move (h.noReset t) hflush hex hid]
                rfl

end

/-! ## Program counters of the program -/

/-- Instructions enter ID below the region of the violation handler. -/
def LowPcs (tr : ℕ → In) : Prop :=
  ∀ t, (tr t).flush = false → (tr t).idFreeze = false → (tr t).ifPc.toNat < 0x08000000

theorem extractLsb'_of_low {pc : BitVec 32} (h : pc.toNat < 0x08000000) :
    pc.extractLsb' 27 5 = 0#5 := by
  apply BitVec.eq_of_toNat_eq
  rw [BitVec.extractLsb'_toNat, Nat.shiftRight_eq_div_pow, Nat.div_eq_of_lt h]
  rfl

theorem Running.low_pcs {s₀ : State} {tr : ℕ → In} (h : Running s₀ tr) (hlow : LowPcs tr)
    (t : ℕ) :
    (stateAt s₀ tr t).except.idPc.toNat < 0x08000000 ∧
      (stateAt s₀ tr t).except.exPc.toNat < 0x08000000 := by
  induction t with
  | zero =>
      change s₀.except.idPc.toNat < _ ∧ s₀.except.exPc.toNat < _
      rw [h.cleared.idPc, h.cleared.exPc]
      decide
  | succ t ih =>
      obtain ⟨hid, hex⟩ := ih
      have hrst := h.noReset t
      refine ⟨?_, ?_⟩
      · change (if (tr t).rst then (0 : BitVec 32)
          else if !(tr t).flush && !(tr t).idFreeze then (tr t).ifPc
          else (stateAt s₀ tr t).except.idPc).toNat < _
        rw [hrst, if_neg Bool.false_ne_true]
        split
        · next hmoves =>
            rw [Bool.and_eq_true, Bool.not_eq_true', Bool.not_eq_true'] at hmoves
            exact hlow t hmoves.1 hmoves.2
        · exact hid
      · change (if (tr t).rst then (0 : BitVec 32)
          else if !(tr t).exFreeze && !(tr t).flush then (stateAt s₀ tr t).except.idPc
          else (stateAt s₀ tr t).except.exPc).toNat < _
        rw [hrst, if_neg Bool.false_ne_true]
        split
        · exact hid
        · exact hex

/-! ## Exactly once -/

section

variable (s₀ : State) (tr : ℕ → In)

/-- A non-void instruction moves from ID to EX at the end of cycle `m`. -/
def Moves (m : ℕ) : Prop :=
  ((tr m).exFreeze = false ∧ (tr m).flush = false) ∧ (tr m).idFreeze = false ∧
    idVoid (stateAt s₀ tr m) = false

/-- What moves to EX in cycle `m` is there in cycle `u`. -/
def Stays (m u : ℕ) : Prop :=
  m < u ∧ ∀ w < u, m < w → (tr w).exFreeze = true ∧ (tr w).flush = false

/-- What moves to EX in cycle `m` leaves it through the unfrozen cycle `u`. -/
def Leaves (m u : ℕ) : Prop := Stays tr m u ∧ (tr u).exFreeze = false

instance (m : ℕ) : Decidable (Moves s₀ tr m) := inferInstanceAs (Decidable (_ ∧ _))

instance (m u : ℕ) : Decidable (Stays tr m u) := inferInstanceAs (Decidable (_ ∧ _))

instance (m u : ℕ) : Decidable (Leaves tr m u) := inferInstanceAs (Decidable (_ ∧ _))

/-- The pairs of EX in the cycles before `t` in which the fabric is clocked. -/
def sampledPairs (t : ℕ) : List (BitVec 32 × BitVec 32) :=
  ((List.range t).filter fun u ↦ insnClk (stateAt s₀ tr u) (tr u)).map
    fun u ↦ exPair (stateAt s₀ tr u)

/-- The pairs of ID that moved to EX and left it unfrozen before `t`, in the order in
which they moved. -/
def passedPairs (t : ℕ) : List (BitVec 32 × BitVec 32) :=
  ((List.range t).filter fun m ↦ decide (Moves s₀ tr m ∧ ∃ u < t, Leaves tr m u)).map
    fun m ↦ idPair (stateAt s₀ tr m)

end

section

variable {s₀ : State} {tr : ℕ → In} (h : Running s₀ tr)
include h

theorem Running.insnClk_eq (hlow : LowPcs tr) (u : ℕ) :
    insnClk (stateAt s₀ tr u) (tr u) = (!exVoid (stateAt s₀ tr u) && !(tr u).exFreeze) := by
  rw [insnClk, extractLsb'_of_low (h.low_pcs hlow u).2]
  exact Bool.and_true _

theorem Running.sample_eq (hlow : LowPcs tr) (u : ℕ) :
    h.exStage.sample u =
      if insnClk (stateAt s₀ tr u) (tr u) then some (exPair (stateAt s₀ tr u)) else none := by
  change (if (tr u).exFreeze then none
    else if exVoid (stateAt s₀ tr u) then none else some (exPair (stateAt s₀ tr u))) = _
  rw [h.insnClk_eq hlow]
  cases (tr u).exFreeze <;> cases exVoid (stateAt s₀ tr u) <;> rfl

theorem Running.moves_iff (m : ℕ) (x : BitVec 32 × BitVec 32) :
    h.exStage.Takes m ∧ h.exStage.offered m = some x ↔
      Moves s₀ tr m ∧ idPair (stateAt s₀ tr m) = x := by
  have hoffered : h.exStage.offered m = some x ↔
      ((tr m).idFreeze = false ∧ idVoid (stateAt s₀ tr m) = false) ∧
        idPair (stateAt s₀ tr m) = x := by
    change (if (tr m).idFreeze then none else item (idPair (stateAt s₀ tr m))) = some x ↔ _
    cases (tr m).idFreeze with
    | true => simp
    | false =>
        rw [if_neg Bool.false_ne_true, item_eq_some_iff]
        simp [idVoid, idPair]
  rw [hoffered]
  exact and_assoc.symm

theorem Running.delivered_eq (t m : ℕ) :
    h.exStage.delivered t m =
      if Moves s₀ tr m ∧ ∃ u < t, Leaves tr m u then some (idPair (stateAt s₀ tr m))
      else none := by
  apply Option.ext
  intro x
  have hmoves := h.moves_iff m x
  rw [Stage.delivered]
  constructor
  · intro hx
    split at hx
    · next hleft =>
        obtain ⟨hm, rfl⟩ := hmoves.mp ⟨hleft.1, hx⟩
        exact if_pos ⟨hm, hleft.2⟩
    · cases hx
  · intro hx
    split at hx
    · next hleft =>
        obtain ⟨htakes, hoffered⟩ := hmoves.mpr ⟨hleft.1, Option.some.inj hx⟩
        rw [if_pos ⟨htakes, hleft.2⟩]
        exact hoffered
    · cases hx

theorem Running.sampledPairs_eq (hlow : LowPcs tr) (t : ℕ) :
    sampledPairs s₀ tr t = h.exStage.sampled t := by
  rw [sampledPairs, ← List.filterMap_eq_map, List.filterMap_filter, Stage.sampled]
  apply List.filterMap_congr
  intro u _
  exact (h.sample_eq hlow u).symm

theorem Running.passedPairs_eq (t : ℕ) : passedPairs s₀ tr t = h.exStage.passed t := by
  rw [passedPairs, ← List.filterMap_eq_map, List.filterMap_filter, Stage.passed]
  apply List.filterMap_congr
  intro m _
  rw [h.delivered_eq]
  simp

theorem Running.insnClk_iff (hlow : LowPcs tr) (u : ℕ) :
    insnClk (stateAt s₀ tr u) (tr u) = true ↔
      ∃ m, (Moves s₀ tr m ∧ Leaves tr m u) ∧
        idPair (stateAt s₀ tr m) = exPair (stateAt s₀ tr u) := by
  have hsample : insnClk (stateAt s₀ tr u) (tr u) = true ↔
      h.exStage.sample u = some (exPair (stateAt s₀ tr u)) := by
    rw [h.sample_eq hlow]
    cases insnClk (stateAt s₀ tr u) (tr u) <;> simp
  rw [hsample, Stage.sample_eq_some_iff]
  apply exists_congr
  intro m
  rw [← and_assoc, h.moves_iff, and_right_comm]
  rfl

/-- The instruction in EX has its own program counter. -/
theorem Running.exists_fetched (hlow : LowPcs tr) {u : ℕ}
    (hclk : insnClk (stateAt s₀ tr u) (tr u) = true) :
    ∃ k < u, ((tr k).idFreeze = false ∧ (tr k).flush = false) ∧
      exPair (stateAt s₀ tr u) = ((tr k).ifPc, (tr k).ifInsn) := by
  obtain ⟨m, ⟨hmoves, hleaves⟩, hpair⟩ := (h.insnClk_iff hlow u).mp hclk
  have hcontent : h.idStage.content m = some (idPair (stateAt s₀ tr m)) :=
    item_eq_some_iff.mpr ⟨hmoves.2.2, rfl⟩
  obtain ⟨k, htakes, hoffered, hstays⟩ := (h.idStage.content_eq_some_iff).mp hcontent
  obtain ⟨-, hfetched⟩ := item_eq_some_iff.mp hoffered
  exact ⟨k, hstays.1.trans hleaves.1.1, htakes, hpair.symm.trans hfetched.symm⟩

/-- The sampled pairs are the pairs that moved to EX and left it unfrozen, each one once
and in order.  A clocked cycle belongs to one of these instructions, with the pair it
had in ID and was fetched with, and no instruction flushed in a freeze has one. -/
theorem sampling_exactlyOnce (hlow : LowPcs tr) :
    (∀ t, sampledPairs s₀ tr t = passedPairs s₀ tr t) ∧
      (∀ u, insnClk (stateAt s₀ tr u) (tr u) = true ↔
        ∃ m, (Moves s₀ tr m ∧ Leaves tr m u) ∧
          idPair (stateAt s₀ tr m) = exPair (stateAt s₀ tr u)) ∧
      (∀ u, insnClk (stateAt s₀ tr u) (tr u) = true →
        ∃ k < u, ((tr k).idFreeze = false ∧ (tr k).flush = false) ∧
          exPair (stateAt s₀ tr u) = ((tr k).ifPc, (tr k).ifInsn)) ∧
      ∀ m w, Stays tr m w → (tr w).exFreeze = true → (tr w).flush = true →
        ∀ u, ¬Leaves tr m u := by
  refine ⟨?_, h.insnClk_iff hlow, ?_, ?_⟩
  · intro t
    rw [h.sampledPairs_eq hlow, h.passedPairs_eq]
    exact h.exStage.sampled_eq_passed t
  · intro u hclk
    exact h.exists_fetched hlow hclk
  · intro m w hstays hfreeze hflush
    have hex : h.exStage.Stays m w := hstays
    exact hex.not_leaves_of_flushed hfreeze hflush

end

/-- Two instructions; the first is held in EX for one cycle, and the second is flushed in
a freeze. -/
def flushTrace (t : ℕ) : In :=
  { (default : In) with
    ifPc := if t = 0 then 0x100#32 else 0x104#32
    ifInsn := if t = 0 ∨ t = 1 then 0x9c210001#32 else Ctrl.voidInsn
    idFreeze := t == 2 || t == 4
    exFreeze := t == 2 || t == 4
    flush := t == 4 }

def resetState : State := next default { (default : In) with rst := true }

theorem running_flushTrace : Running resetState flushTrace where
  cleared := cleared_next_of_rst default rfl
  noReset _ := rfl

theorem lowPcs_flushTrace : LowPcs flushTrace := by
  intro t _ _
  change (if t = 0 then 0x100#32 else 0x104#32).toNat < _
  split
  · decide
  · decide

theorem sampling_exactlyOnce_flushTrace :
    sampledPairs resetState flushTrace 8 = [(0x100#32, 0x9c210001#32)] ∧
      sampledPairs resetState flushTrace 8 = passedPairs resetState flushTrace 8 :=
  ⟨by decide +kernel, (sampling_exactlyOnce running_flushTrace lowPcs_flushTrace).1 8⟩

end Specs.Or1200.Pipeline
