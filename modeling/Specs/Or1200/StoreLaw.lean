import Specs.Bits.Field
import Specs.Or1200.LostWrite
import Specs.Or1200.Transparency

/-!
# The store law of the special-purpose registers

SR, the saved registers with their ghosts, and the registers of the violation handler
that can be written form a store: `l.mfspr` returns what `l.mtspr` has left at the
same address, and `l.mtspr` to one address changes nothing at the others.  The write
goes through selects into two modules, and the read is an OR of twenty masked
sources.
-/

namespace Specs.Or1200.Core

open Specs.Sync

/-- The registers of the violation handler that `l.mtspr` writes. -/
inductive SoftReg
  | pccr0
  | pccr1
  | pccr2
  | pccr3
  | pccr4
  | pccr6
deriving DecidableEq

namespace SoftReg

def ofs : SoftReg → BitVec 11
  | pccr0 => pcPccr0
  | pccr1 => pcPccr1
  | pccr2 => pcPccr2
  | pccr3 => pcPccr3
  | pccr4 => pcPccr4
  | pccr6 => pcPccr6

def value (s : Sprs.State) : SoftReg → BitVec 32
  | pccr0 => s.spReg0
  | pccr1 => s.spReg1
  | pccr2 => s.spReg2
  | pccr3 => s.spReg3
  | pccr4 => s.spReg4
  | pccr6 => s.spReg6

theorem value_next (r : SoftReg) (s : Sprs.State) {i : Sprs.In} (hrst : i.rst = false) :
    r.value (Sprs.next s i) =
      if (Sprs.sprWe i && Sprs.ofsSel sprGroupPc r.ofs s i) = true then Sprs.sprDatO i
      else r.value s := by
  cases r <;> simp only [value, Sprs.next, Sprs.spReg, hrst, Bool.false_eq_true, if_false] <;> rfl

end SoftReg

/-- The registers of the store. -/
inductive StoreReg
  | sr
  | saved (r : SavedReg)
  | softPatch (r : SoftReg)
deriving DecidableEq

namespace StoreReg

def group : StoreReg → BitVec 5
  | sr => 0#5
  | saved _ => 0#5
  | softPatch _ => 7#5

def ofs : StoreReg → BitVec 11
  | sr => sprSr
  | saved r => r.ofs
  | softPatch r => r.ofs

def address (r : StoreReg) : BitVec 16 := r.group ++ r.ofs

/-- The contents, once the cycle after a reset is over. -/
def value (s : State) : StoreReg → BitVec 32
  | sr => (Sprs.withEph s.backend.sprs.srReg s.backend.sprs.srRegBitEph).setWidth 32
  | saved r => r.value s.except.toSequencer
  | softPatch r => r.value s.backend.sprs

/-- What is read back after a write of `v`: SR and ESR have 17 bits, of which bit 15
is fixed, and the ghost of ESR has 17 bits. -/
def readBack (v : BitVec 32) : StoreReg → BitVec 32
  | sr => (v ||| 0x8000#32) &&& 0x1ffff#32
  | saved .esr => (v ||| 0x8000#32) &&& 0x1ffff#32
  | saved .esrGhost => v &&& 0x1ffff#32
  | saved .epcr => v
  | saved .eear => v
  | saved .epcrGhost => v
  | saved .eearGhost => v
  | softPatch _ => v

theorem getLsbD_readBack_sr (v : BitVec 32) {n : ℕ} (hn : n < 32) :
    (sr.readBack v).getLsbD n = (decide (n < 17) && (n == srFo || v.getLsbD n)) := by
  have hfo : ∀ n < 32, (0x8000#32).getLsbD n = (n == srFo) := by decide
  have hmask : ∀ n < 32, (0x1ffff#32).getLsbD n = decide (n < 17) := by decide
  rw [readBack, BitVec.getLsbD_and, BitVec.getLsbD_or, hfo n hn, hmask n hn,
    Bool.or_comm, Bool.and_comm]

theorem readBack_esr (v : BitVec 32) : SavedReg.esr.stored v = sr.readBack v := by
  apply BitVec.eq_of_getLsbD_eq
  intro n hn
  rw [getLsbD_readBack_sr v hn, SavedReg.stored]
  simp only [BitVec.getLsbD_setWidth, BitVec.getLsbD_append, BitVec.getLsbD_extractLsb', hn,
    decide_true, Bool.true_and]
  obtain hlo | rfl | rfl | hhi : n < 15 ∨ n = 15 ∨ n = 16 ∨ 16 < n := by omega
  · have hne : n ≠ srFo := hlo.ne
    have hlt : n < 17 := hlo.trans (by decide)
    simp [hlo, hne, hlt]
  · simp
  · have hfo : (16 == srFo) = false := rfl
    simp [hfo]
  · have hskip : ¬n < 15 := by omega
    have hbit : ¬n - 15 < 1 := by omega
    have hwide : ¬n - 15 - 1 < 1 := by omega
    have hout : ¬n < 17 := by omega
    simp [hskip, hbit, hwide, hout]

theorem readBack_esrGhost (v : BitVec 32) :
    SavedReg.esrGhost.stored v = (saved .esrGhost).readBack v := by
  have hmask : ∀ n < 32, (0x1ffff#32).getLsbD n = decide (n < 17) := by decide
  apply BitVec.eq_of_getLsbD_eq
  intro n hn
  rw [readBack, BitVec.getLsbD_and, hmask n hn, SavedReg.stored]
  simp [BitVec.getLsbD_extractLsb', hn, Bool.and_comm]

theorem stored_saved (r : SavedReg) (v : BitVec 32) : r.stored v = (saved r).readBack v := by
  cases r with
  | epcr => rfl
  | eear => rfl
  | esr => exact readBack_esr v
  | epcrGhost => rfl
  | eearGhost => rfl
  | esrGhost => exact readBack_esrGhost v

end StoreReg

/-! ## Accesses -/

/-- The part of the address on the SPR bus that is decoded. -/
def sprAddr16 (s : State) (i : In) : BitVec 16 := (Sprs.sprAddr (sprsIn s i)).extractLsb' 0 16

/-- `l.mtspr` of `v` to `a` is in EX and performs its write on the SPR bus.  It branches
nowhere, and no other writer of SR is active. -/
structure Mtspr (s : State) (i : In) (a : BitVec 16) (v : BitVec 32) : Prop where
  running : i.backend.rst = false
  isWrite : (sprsIn s i).exSprWrite = true
  onBus : Sprs.sprWe (sprsIn s i) = true
  address : sprAddr16 s i = a
  data : Sprs.sprDatO (sprsIn s i) = v
  noBranch : i.backend.sprs.branchOp = branchopNop
  noFlag : (sprsIn s i).flagWe = false
  noCarry : (sprsIn s i).cyWe = false
  noOverflow : (sprsIn s i).ovWe = false
  notTaken : Except.exceptFlushpipe s.except (exceptIn s i) = false

/-- `l.mfspr` of `b` is in EX. -/
structure Mfspr (s : State) (i : In) (b : BitVec 16) : Prop where
  isRead : (sprsIn s i).exSprRead = true
  address : sprAddr16 s i = b

theorem sprAddr16_eq_iff {s : State} {i : In} (r : StoreReg) :
    sprAddr16 s i = r.address ↔ Addresses s i r.group r.ofs :=
  Bits.extractLsb'_eq_append_iff (Sprs.sprAddr (sprsIn s i)) 0 r.group r.ofs

/-! ## The write -/

/-- The write enable of a register of the store. -/
def strobe (s : State) (i : In) (r : StoreReg) : Bool :=
  Sprs.sprWe (sprsIn s i) && Sprs.ofsSel r.group.toNat r.ofs s.backend.sprs (sprsIn s i)

/-- Once the cycle after a reset is over, SR is what its two registers hold. -/
theorem sr_eq_value {s : State} (hselect : s.backend.sprs.srRegBitEphSelect = false) (i : In) :
    (sr s i).setWidth 32 = StoreReg.sr.value s := by
  change (Sprs.withEph _ (Sprs.srRegBitEphMuxed _ _)).setWidth 32 = _
  rw [Sprs.srRegBitEphMuxed, hselect]
  rfl

section

variable {s : State} {i : In} {a : BitVec 16} {v : BitVec 32} (h : Mtspr s i a v)
include h

theorem Mtspr.address_of_strobe {r : StoreReg} (hstrobe : strobe s i r = true) :
    a = r.address := by
  rw [strobe, h.onBus, Bool.true_and, Sprs.ofsSel, Sprs.sprCs_getLsbD _ _ r.group.isLt,
    Bool.and_eq_true, Bool.and_eq_true, decide_eq_true_eq, beq_iff_eq,
    BitVec.toNat_inj] at hstrobe
  obtain ⟨⟨hgroup, -⟩, hofs⟩ := hstrobe
  exact h.address.symm.trans ((sprAddr16_eq_iff r).mpr ⟨hgroup, hofs⟩)

theorem Mtspr.strobe_of_supervisor (hsm : (sr s i).getLsbD srSm = true) {r : StoreReg}
    (ha : a = r.address) : strobe s i r = true := by
  obtain ⟨hgroup, hofs⟩ := (sprAddr16_eq_iff r).mp (h.address.trans ha)
  have hsm' : (Sprs.sr s.backend.sprs (sprsIn s i)).getLsbD srSm = true := hsm
  rw [strobe, h.onBus, Bool.true_and, Sprs.ofsSel, Sprs.sprCs_getLsbD _ _ r.group.isLt,
    h.isWrite, hsm', hgroup, hofs]
  simp

theorem Mtspr.value_next_softPatch (r : SoftReg) :
    (StoreReg.softPatch r).value (next s i) =
      if strobe s i (.softPatch r) = true then (StoreReg.softPatch r).readBack v
      else (StoreReg.softPatch r).value s := by
  have hvalue := r.value_next s.backend.sprs (i := sprsIn s i) h.running
  rw [h.data] at hvalue
  exact hvalue

/-- The debug unit does not write a program counter in the same cycle as the register. -/
theorem Mtspr.pcWe_eq_false {r : SavedReg} (hstrobe : strobe s i (.saved r) = true) :
    (exceptIn s i).pcWe = false := by
  have haddress := h.address.trans (h.address_of_strobe hstrobe)
  obtain ⟨-, hofs⟩ := (sprAddr16_eq_iff (.saved r)).mp haddress
  have hnpc : Sprs.npcSel s.backend.sprs (sprsIn s i) = false := by
    rw [Sprs.npcSel, Sprs.ofsSel, hofs]
    cases r <;> exact Bool.and_false _
  have hppc : Sprs.ppcSel s.backend.sprs (sprsIn s i) = false := by
    rw [Sprs.ppcSel, Sprs.ofsSel, hofs]
    cases r <;> exact Bool.and_false _
  change (_ && (_ || _)) = false
  rw [hnpc, hppc, Bool.or_false, Bool.and_false]

theorem Mtspr.value_next_saved (hidle : s.except.state = .idle) (r : SavedReg) :
    (StoreReg.saved r).value (next s i) =
      if strobe s i (.saved r) = true then (StoreReg.saved r).readBack v
      else (StoreReg.saved r).value s := by
  have hwe : r.we (exceptIn s i) = strobe s i (.saved r) := by
    rw [r.we_eq]
    cases r <;> rfl
  have hdata : (exceptIn s i).datain = v := h.data
  rw [← StoreReg.stored_saved]
  change r.value (Except.nextSequencer s.except (exceptIn s i)) = _
  by_cases hpc : (exceptIn s i).pcWe = true
  · have hclosed : ¬strobe s i (.saved r) = true := by
      intro hstrobe
      rw [h.pcWe_eq_false hstrobe] at hpc
      exact Bool.false_ne_true hpc
    have hrst : (exceptIn s i).rst = false := h.running
    rw [if_neg hclosed, Except.nextSequencer, hrst, hidle, h.notTaken, hpc]
    cases r <;> rfl
  · have hvalue := r.value_nextSequencer (i := exceptIn s i) h.running h.notTaken
      (Bool.eq_false_iff.mpr hpc)
    rw [hdata, hwe] at hvalue
    exact hvalue.trans (if_congr (and_iff_right hidle) rfl rfl)

theorem Mtspr.branchOp_ne_rfe : ((sprsIn s i).branchOp == branchopRfe) = false := by
  change (i.backend.sprs.branchOp == branchopRfe) = false
  rw [h.noBranch]
  rfl

theorem Mtspr.srWe_eq : Sprs.srWe s.backend.sprs (sprsIn s i) = strobe s i .sr := by
  rw [Sprs.srWe, h.branchOp_ne_rfe, h.noFlag, h.noCarry, h.noOverflow, Bool.and_false,
    Bool.or_false, Bool.or_false, Bool.or_false, Bool.or_false]
  rfl

theorem Mtspr.writtenBit_eq (hstrobe : strobe s i .sr = true) (n : ℕ) :
    Sprs.writtenBit s.backend.sprs (sprsIn s i) n = (n == srFo || v.getLsbD n) := by
  have hsel : (Sprs.sprWe (sprsIn s i) && Sprs.srSel s.backend.sprs (sprsIn s i)) = true :=
    hstrobe
  have hnone : Sprs.flagWriter (sprsIn s i) n = none := by
    rw [Sprs.flagWriter, h.noFlag, h.noCarry, h.noOverflow]
    simp
  rw [Sprs.writtenBit, Sprs.isRfe, h.branchOp_ne_rfe, hnone, hsel, h.data]
  rfl

theorem Mtspr.value_next_sr (hexc : Except.exceptStarted s.except = false)
    (hselect : s.backend.sprs.srRegBitEphSelect = false) :
    StoreReg.sr.value (next s i) =
      if strobe s i .sr = true then StoreReg.sr.readBack v else StoreReg.sr.value s := by
  have hrst : (sprsIn s i).rst = false := h.running
  have hselect' : (next s i).backend.sprs.srRegBitEphSelect = false := by
    change (if (sprsIn s i).rst then true else false) = false
    rw [hrst]
    rfl
  rw [← sr_eq_value hselect' i, ← sr_eq_value hselect i]
  change (Sprs.sr (Sprs.next s.backend.sprs (sprsIn s i)) (sprsIn (next s i) i)).setWidth 32 = _
  cases hstrobe : strobe s i .sr with
  | true =>
      have hwe : Sprs.srWe s.backend.sprs (sprsIn s i) = true := h.srWe_eq.trans hstrobe
      rw [if_pos rfl]
      apply BitVec.eq_of_getLsbD_eq
      intro n hn
      rw [BitVec.getLsbD_setWidth, StoreReg.getLsbD_readBack_sr v hn, decide_eq_true hn,
        Bool.true_and]
      by_cases hlt : n < 17
      · rw [Sprs.sr_next_getLsbD_of_srWe hrst hexc hwe _ hlt, hselect,
          h.writtenBit_eq hstrobe, h.writtenBit_eq hstrobe, decide_eq_true hlt, Bool.true_and]
        by_cases heph : n = srEph
        · rw [if_pos heph, heph]
          rfl
        · rw [if_neg heph]
      · rw [BitVec.getLsbD_of_ge _ _ (Nat.le_of_not_lt hlt), decide_eq_false hlt,
          Bool.false_and]
  | false =>
      have hwe : Sprs.srWe s.backend.sprs (sprsIn s i) = false := h.srWe_eq.trans hstrobe
      rw [if_neg Bool.false_ne_true, Sprs.sr_next_of_not_srWe hrst hexc hwe]
      rfl

variable (hidle : s.except.state = .idle) (hsettled : Except.Settled s.except.toSequencer)
  (hselect : s.backend.sprs.srRegBitEphSelect = false) (r : StoreReg)
include hidle hsettled hselect

/-- A cycle of `l.mtspr` writes the register whose strobe is open and no other. -/
theorem Mtspr.value_next :
    r.value (next s i) = if strobe s i r = true then r.readBack v else r.value s := by
  cases r with
  | sr =>
      have hexc : Except.exceptStarted s.except = false := by
        rw [Except.exceptStarted, Except.exceptStart_of_settled hsettled hidle, Bool.and_false]
      exact h.value_next_sr hexc hselect
  | saved r => exact h.value_next_saved hidle r
  | softPatch r => exact h.value_next_softPatch r

theorem Mtspr.value_next_of_address (hsm : (sr s i).getLsbD srSm = true)
    (ha : a = r.address) : r.value (next s i) = r.readBack v := by
  rw [h.value_next hidle hsettled hselect r, if_pos (h.strobe_of_supervisor hsm ha)]

theorem Mtspr.value_next_of_ne (ha : a ≠ r.address) : r.value (next s i) = r.value s := by
  have hclosed : ¬strobe s i r = true := fun hstrobe ↦ ha (h.address_of_strobe hstrobe)
  rw [h.value_next hidle hsettled hselect r, if_neg hclosed]

/-- In any mode the register keeps its contents or takes the value. -/
theorem Mtspr.value_next_or :
    r.value (next s i) = r.value s ∨ r.value (next s i) = r.readBack v := by
  have hvalue := h.value_next hidle hsettled hselect r
  split at hvalue
  · exact Or.inr hvalue
  · exact Or.inl hvalue

end

/-! ## The read -/

section

variable {s : State} {i : In}

theorem Mfspr.toWbmux_softPatch (r : SoftReg)
    (h : Mfspr s i (StoreReg.softPatch r).address) :
    Sprs.toWbmux s.backend.sprs (sprsIn s i) = (StoreReg.softPatch r).value s := by
  obtain ⟨hgroup, hofs⟩ := (sprAddr16_eq_iff (StoreReg.softPatch r)).mp h.address
  have hsys : (Sprs.sprCs s.backend.sprs (sprsIn s i)).getLsbD sprGroupSys = false := by
    rw [Sprs.sprCs_getLsbD _ _ (by decide), hgroup]
    rfl
  have hpc : (Sprs.sprCs s.backend.sprs (sprsIn s i)).getLsbD sprGroupPc = true := by
    rw [Sprs.sprCs_getLsbD _ _ (by decide), hgroup, h.isRead]
    simp [StoreReg.group]
  rw [Sprs.toWbmux_eq_sysData (Or.inr hgroup), Sprs.sysData_eq hsys hpc hofs]
  cases r <;>
    simp [StoreReg.ofs, SoftReg.ofs, pcPccr0, pcPccr1, pcPccr2, pcPccr3, pcPccr4, pcPccr5,
      pcPccr6, pcPccr7] <;>
    rfl

/-- `l.mfspr` reads the register at its address. -/
theorem Mfspr.toWbmux_eq (hselect : s.backend.sprs.srRegBitEphSelect = false) (r : StoreReg)
    (h : Mfspr s i r.address) :
    Sprs.toWbmux s.backend.sprs (sprsIn s i) = r.value s := by
  have haddress := (sprAddr16_eq_iff r).mp h.address
  cases r with
  | sr => exact (toWbmux_sr ⟨h.isRead, haddress⟩).trans (sr_eq_value hselect i)
  | saved r => exact r.toWbmux_eq ⟨h.isRead, haddress⟩
  | softPatch r => exact h.toWbmux_softPatch r

end

/-! ## The law -/

theorem srRegBitEphSelect_succ (s₀ : State) (tr : ℕ → In) (t : ℕ)
    (h : (tr t).backend.rst = false) :
    (stateAt s₀ tr (t + 1)).backend.sprs.srRegBitEphSelect = false := by
  change (if (tr t).backend.rst then true else false) = false
  rw [h]
  rfl

/-- `l.mtspr` of `v` to `a` is in EX in the cycles from `m` to `n` of a run, with the
exception unit idle, more than one cycle after a reset. -/
structure Stores (s₀ : State) (tr : ResetTrace gate) (m n : ℕ) (a : BitVec 16)
    (v : BitVec 32) : Prop where
  entered : 0 < m ∧ m ≤ n
  late : (tr (m - 1)).backend.rst = false
  mtspr : ∀ u, m ≤ u → u ≤ n → Mtspr (stateAt s₀ tr u) (tr u) a v
  idle : ∀ u, m ≤ u → u ≤ n → (stateAt s₀ tr u).except.state = .idle
  supervisor : (sr (stateAt s₀ tr m) (tr m)).getLsbD srSm = true

section

variable {s₀ : State} {tr : ResetTrace gate} {m n : ℕ} {a : BitVec 16} {v : BitVec 32}
  (h : Stores s₀ tr m n a v)
include h

theorem Stores.settled {u : ℕ} (hmu : m ≤ u) :
    Except.Settled (stateAt s₀ tr u).except.toSequencer := by
  obtain ⟨k, rfl⟩ := Nat.exists_eq_add_one_of_ne_zero (h.entered.1.trans_le hmu).ne'
  exact settled_exceptAt s₀ tr k

theorem Stores.select {u : ℕ} (hmu : m ≤ u) (hun : u ≤ n + 1) :
    (stateAt s₀ tr u).backend.sprs.srRegBitEphSelect = false := by
  obtain ⟨k, rfl⟩ := Nat.exists_eq_add_one_of_ne_zero (h.entered.1.trans_le hmu).ne'
  apply srRegBitEphSelect_succ
  rcases Nat.eq_or_lt_of_le hmu with rfl | hlt
  · exact h.late
  · exact (h.mtspr k (Nat.le_of_lt_succ hlt) (Nat.le_of_succ_le_succ hun)).running

theorem Stores.value_of_address (r : StoreReg) (ha : a = r.address) :
    r.value (stateAt s₀ tr (n + 1)) = r.readBack v := by
  apply register_settles (f := fun u ↦ r.value (stateAt s₀ tr u)) (m := m) (n := n + 1)
  · intro u hmu hun
    have hun' : u ≤ n := Nat.le_of_lt_succ hun
    exact (h.mtspr u hmu hun').value_next_or (h.idle u hmu hun') (h.settled hmu)
      (h.select hmu hun.le) r
  · have hfirst := (h.mtspr m le_rfl h.entered.2).value_next_of_address
      (h.idle m le_rfl h.entered.2) (h.settled le_rfl)
      (h.select le_rfl (Nat.le_succ_of_le h.entered.2)) r h.supervisor ha
    exact ⟨m, le_rfl, Nat.lt_succ_of_le h.entered.2, hfirst⟩

theorem Stores.value_of_ne (r : StoreReg) (ha : a ≠ r.address) :
    r.value (stateAt s₀ tr (n + 1)) = r.value (stateAt s₀ tr m) := by
  apply register_kept (f := fun u ↦ r.value (stateAt s₀ tr u))
    (Nat.le_succ_of_le h.entered.2)
  intro u hmu hun
  have hun' : u ≤ n := Nat.le_of_lt_succ hun
  exact (h.mtspr u hmu hun').value_next_of_ne (h.idle u hmu hun') (h.settled hmu)
    (h.select hmu hun.le) r ha

/-- After `l.mtspr` of `v` to `a`, for any address `a`, `l.mfspr` returns `v` at the same
address, and at the address of every other register of the store what it would have
returned before. -/
theorem spr_storeLaw (r : StoreReg) {before after : In}
    (hbefore : Mfspr (stateAt s₀ tr m) before r.address)
    (hafter : Mfspr (stateAt s₀ tr (n + 1)) after r.address) :
    Sprs.toWbmux (stateAt s₀ tr (n + 1)).backend.sprs
        (sprsIn (stateAt s₀ tr (n + 1)) after) =
      if a = r.address then r.readBack v
      else Sprs.toWbmux (stateAt s₀ tr m).backend.sprs (sprsIn (stateAt s₀ tr m) before) := by
  have hselect := h.select le_rfl (Nat.le_succ_of_le h.entered.2)
  have hselect' := h.select (Nat.le_succ_of_le h.entered.2) le_rfl
  rw [hafter.toWbmux_eq hselect' r, hbefore.toWbmux_eq hselect r]
  split
  · next ha => exact h.value_of_address r ha
  · next ha => exact h.value_of_ne r ha

end

/-- `l.mtspr` of 7 to ESR, held in EX in cycles 2 and 3. -/
def storeTrace : ResetTrace gate where
  cycle
    | 0 => resetCycle
    | 2 | 3 => mtspr 0x40#16
    | _ => bubble false
  reset_first := rfl

def mfspr (ofs : BitVec 16) : In :=
  { (default : In) with
    backend := { (default : Backend.In) with
      sprRead := true
      sprs := { (default : Sprs.In) with addrofs := ofs } } }

theorem storeTrace_stores : Stores default storeTrace 2 3 0x40#16 7#32 where
  entered := by decide
  late := rfl
  mtspr := by
    intro u hmu hun
    obtain rfl | rfl : u = 2 ∨ u = 3 := by omega
    · exact ⟨rfl, by decide +kernel, by decide +kernel, by decide +kernel, rfl, rfl,
        by decide +kernel, by decide +kernel, rfl, by decide +kernel⟩
    · exact ⟨rfl, by decide +kernel, by decide +kernel, by decide +kernel, rfl, rfl,
        by decide +kernel, by decide +kernel, rfl, by decide +kernel⟩
  idle := by
    intro u hmu hun
    obtain rfl | rfl : u = 2 ∨ u = 3 := by omega
    · decide +kernel
    · decide +kernel
  supervisor := by decide +kernel

/-- ESR reads back with its fixed one, and SR reads as before. -/
theorem spr_storeLaw_esr :
    Sprs.toWbmux (stateAt default storeTrace 4).backend.sprs
        (sprsIn (stateAt default storeTrace 4) (mfspr 0x40#16)) = 0x8007#32 ∧
      Sprs.toWbmux (stateAt default storeTrace 4).backend.sprs
          (sprsIn (stateAt default storeTrace 4) (mfspr 0x11#16)) =
        Sprs.toWbmux (stateAt default storeTrace 2).backend.sprs
          (sprsIn (stateAt default storeTrace 2) (mfspr 0x11#16)) := by
  have hread : ∀ t b, t = 2 ∨ t = 4 → b = 0x40#16 ∨ b = 0x11#16 →
      Mfspr (stateAt default storeTrace t) (mfspr b) b := by
    rintro t b (rfl | rfl) (rfl | rfl)
    all_goals exact ⟨by decide +kernel, by decide +kernel⟩
  refine ⟨?_, ?_⟩
  · exact spr_storeLaw storeTrace_stores (.saved .esr)
      (hread 2 _ (Or.inl rfl) (Or.inl rfl)) (hread 4 _ (Or.inr rfl) (Or.inl rfl))
  · exact spr_storeLaw storeTrace_stores .sr
      (hread 2 _ (Or.inl rfl) (Or.inr rfl)) (hread 4 _ (Or.inr rfl) (Or.inr rfl))

end Specs.Or1200.Core
