import Specs.Fabric.Exceptions
import Specs.Or1200.Cpu
import Specs.Or1200.Genpc

/-!
# Entries into supervisor mode

Checker 8 reports a rise of SM at an address that is not a vector of the low page.
The processor enters exceptions at three bases, but the fabric samples only the
instructions below 0x08000000.  An entry at one of the other bases is not sampled
itself, and its rise of SM is reported at the first instruction of the handler
that is.
-/

namespace Specs.Or1200

open Specs.Sync BakedInAssertions

namespace Genpc

/-- The addresses of exception entries. -/
def EntryAddress (eph : Bool) (pc : BitVec 32) : Prop :=
  LowVector pc ∨ (eph = true ∧ ∃ n : BitVec 4, pc = 0xF0000#20 ++ n ++ 0#8) ∨ pc = spIieAddr

theorem entryAddress_exceptEntry (eph : Bool) (exceptType : BitVec 4) :
    EntryAddress eph (exceptEntry eph exceptType) := by
  rw [exceptEntry]
  split
  · exact Or.inr (Or.inr rfl)
  · cases eph with
    | false => exact Or.inl ⟨exceptType, rfl⟩
    | true => exact Or.inr (Or.inl ⟨rfl, exceptType, rfl⟩)

/-- The only base in the window of the fabric is the low one. -/
theorem EntryAddress.lowVector {eph : Bool} {pc : BitVec 32} (h : EntryAddress eph pc)
    (hlow : pc.extractLsb' 27 5 = 0#5) : LowVector pc := by
  have hhigh : ∀ n : BitVec 4, (0xF0000#20 ++ n ++ 0#8 : BitVec 32).extractLsb' 27 5 ≠ 0#5 := by
    decide
  rcases h with hvector | ⟨-, n, rfl⟩ | rfl
  · exact hvector
  · exact absurd hlow (hhigh n)
  · exact absurd hlow (by decide)

end Genpc

namespace Cpu

/-- The registers and the inputs of a cycle. -/
abbrev Cycle := State × In

def completes (c : Cycle) : Bool := !Ctrl.exVoid c.1.ctrl && !exFreeze c.1 c.2

def supervisor (c : Cycle) : Bool := (sr c.1 c.2).getLsbD srSm

/-- An instruction completes. -/
def completion : Gate Cycle := ⟨fun c ↦ c.2.backend.rst, completes⟩

/-- The fabric samples. -/
def window : Gate Cycle := ⟨fun c ↦ c.2.backend.rst, fun c ↦ insnClk c.1 c.2⟩

/-- The reset of the fabric includes the pending violation. -/
def fabricGate : Gate Cycle :=
  ⟨fun c ↦ spExceptionGated c.1 c.2 || c.2.backend.rst, fun c ↦ insnClk c.1 c.2⟩

theorem insnClk_eq (c : Cycle) :
    insnClk c.1 c.2 = (completes c && (exPc c.2).extractLsb' 27 5 == 0#5) := rfl

theorem isStep_window_iff (c : Cycle) :
    window.IsStep c ↔ completion.IsStep c ∧ (exPc c.2).extractLsb' 27 5 = 0#5 := by
  change (c.2.backend.rst = false ∧ insnClk c.1 c.2 = true) ↔
    (c.2.backend.rst = false ∧ completes c = true) ∧ _
  rw [insnClk_eq, Bool.and_eq_true, beq_iff_eq, and_assoc]

theorem isStep_fabricGate_iff (c : Cycle) : fabricGate.IsStep c ↔ window.IsStep c := by
  constructor
  · rintro ⟨hrst, hclk⟩
    exact ⟨(Bool.or_eq_false_iff.mp hrst).2, hclk⟩
  · rintro ⟨hrst, hclk⟩
    have hgated : spExceptionGated c.1 c.2 = false := by
      rw [← Bool.not_eq_true]
      intro h
      exact absurd ((insnClk_of_gated h).symm.trans hclk) Bool.false_ne_true
    exact ⟨Bool.or_eq_false_iff.mpr ⟨hgated, hrst⟩, hclk⟩

section

variable (s₀ : State) (tr : ResetTrace gate)

def cycleAt (t : ℕ) : Cycle := (stateAt s₀ tr t, tr t)

def violatedAt (t : ℕ) : BitVec 32 := spAssertionsViolated (stateAt s₀ tr t) (tr t)

def gatedAt (t : ℕ) : Bool := spExceptionGated (stateAt s₀ tr t) (tr t)

/-- SM rises in cycle `t`, between completed instructions, only at an entry. -/
def LawfulRises : Prop :=
  ∀ c t, completion.LastStep (cycleAt s₀ tr) c t → completion.IsStep (cycleAt s₀ tr t) →
    supervisor (cycleAt s₀ tr c) = false → supervisor (cycleAt s₀ tr t) = true →
      Genpc.EntryAddress ((sr (stateAt s₀ tr t) (tr t)).getLsbD srEph) (exPc (tr t))

/-- The program is sampled in user mode in cycle `a`, enters supervisor mode in cycle `d`
outside the window, and comes into the window in cycle `t`, not at a vector. -/
structure UnseenEntry (a d t : ℕ) : Prop where
  user : window.IsStep (cycleAt s₀ tr a) ∧ supervisor (cycleAt s₀ tr a) = false
  between : a < d ∧ d < t
  entry : completion.IsStep (cycleAt s₀ tr d) ∧ supervisor (cycleAt s₀ tr d) = true ∧
    Genpc.EntryAddress ((sr (stateAt s₀ tr d) (tr d)).getLsbD srEph) (exPc (tr d))
  unseen : ∀ u, a < u → u < t → window.IsIdle (cycleAt s₀ tr u)
  seen : window.IsStep (cycleAt s₀ tr t) ∧ supervisor (cycleAt s₀ tr t) = true ∧
    ¬LowVector (exPc (tr t))

/-! ## The fabric in a run without violations -/

theorem recovery_clear (hnone : ∀ u, violatedAt s₀ tr u = 0#32) (t : ℕ) :
    (stateAt s₀ tr (t + 1)).backend.recovery.spAssertionViolatedReg ≠ true ∧
      (stateAt s₀ tr (t + 1)).backend.recovery.spExceptionHold ≠ true := by
  induction t with
  | zero =>
      have hrst : (tr 0).backend.rst = true := tr.reset_first
      constructor
      · intro hpulse
        have hrun := ((Recovery.pulse_next_iff _ _).mp hpulse).1
        exact absurd (hrun.symm.trans hrst) Bool.false_ne_true
      · intro hhold
        have hrun := ((Recovery.hold_next_iff _ _).mp hhold).1
        exact absurd (hrun.symm.trans hrst) Bool.false_ne_true
  | succ t ih =>
      have hquiet : ¬(violatedAt s₀ tr (t + 1) != 0#32) = true := by
        intro hviolated
        exact bne_iff_ne.mp hviolated (hnone (t + 1))
      constructor
      · intro hpulse
        exact hquiet ((Recovery.pulse_next_iff _ _).mp hpulse).2
      · intro hhold
        rcases ((Recovery.hold_next_iff _ _).mp hhold).2.2 with hviolated | hheld
        · exact hquiet hviolated
        · exact ih.2 hheld

theorem gatedAt_eq_false (hnone : ∀ u, violatedAt s₀ tr u = 0#32) (t : ℕ) :
    gatedAt s₀ tr (t + 1) = false := by
  obtain ⟨hpulse, hhold⟩ := recovery_clear s₀ tr hnone t
  rw [gatedAt, ← Bool.not_eq_true]
  intro hgated
  rcases ((Recovery.gated_iff _ _).mp hgated).1 with hset | hset
  · exact hpulse hset
  · exact hhold hset

/-- Bit 8 is a rise of SM between samples, in the window and not at a vector. -/
theorem violatedAt_eight_iff (t : ℕ) :
    (violatedAt s₀ tr t).getLsbD 8 = true ↔
      window.IsStep (cycleAt s₀ tr t) ∧ ∃ a, fabricGate.LastStep (cycleAt s₀ tr) a t ∧
        supervisor (cycleAt s₀ tr a) = false ∧ supervisor (cycleAt s₀ tr t) = true ∧
        ¬LowVector (exPc (tr t)) := by
  have hbit : (violatedAt s₀ tr t).getLsbD 8 =
      BakedInAssertions.gate.verdict privilegeRise (fabricTrace s₀ tr) t := by
    rw [violatedAt, spAssertionsViolated_stateAt]
    exact firedAt_getLsbD _ _ _ (by decide) (by decide) (by decide)
  have hmap := fabricGate.verdict_map BakedInAssertions.gate (fun c ↦ fabricIn c.1 c.2)
    (fun _ ↦ rfl) (fun _ ↦ rfl) privilegeRise (cycleAt s₀ tr) t
  have htrace : (fabricTrace s₀ tr : ℕ → BakedInAssertions.In) =
      fun u ↦ fabricIn (cycleAt s₀ tr u).1 (cycleAt s₀ tr u).2 := rfl
  rw [hbit, htrace, hmap, ← isStep_fabricGate_iff]
  apply fabricGate.verdict_iff_of_lastStep (R := fun p c ↦
    supervisor p = false ∧ supervisor c = true ∧ ¬LowVector (exPc c.2))
  · intro c
    rfl
  · intro p past c
    have hvector : atVector (fabricIn c.1 c.2) = false ↔ ¬LowVector (exPc c.2) := by
      rw [← Bool.not_eq_true, atVector_iff]
      rfl
    rw [← hvector]
    change ((!supervisor p && supervisor c) && !atVector (fabricIn c.1 c.2)) = true ↔ _
    rw [Bool.and_eq_true, Bool.and_eq_true, Bool.not_eq_true', Bool.not_eq_true', and_assoc]

/-! ## The runs without a false alarm -/

variable {s₀ tr} in
theorem UnseenEntry.violated {a d t : ℕ} (h : UnseenEntry s₀ tr a d t)
    (hnone : ∀ u, violatedAt s₀ tr u = 0#32) : (violatedAt s₀ tr t).getLsbD 8 = true := by
  obtain ⟨⟨hstep, hmode⟩, ⟨had, hdt⟩, -, hunseen, hseen⟩ := h
  apply (violatedAt_eight_iff s₀ tr t).mpr
  refine ⟨hseen.1, a, ⟨had.trans hdt, (isStep_fabricGate_iff _).mpr hstep, ?_⟩, hmode, hseen.2⟩
  intro u hau hut
  obtain ⟨hrst, hclk⟩ := hunseen u hau hut
  obtain ⟨v, rfl⟩ := Nat.exists_eq_add_one_of_ne_zero (Nat.ne_zero_of_lt hau)
  have hgated : gatedAt s₀ tr (v + 1) = false := gatedAt_eq_false s₀ tr hnone v
  exact ⟨Bool.or_eq_false_iff.mpr ⟨hgated, hrst⟩, hclk⟩

/-- A first alarm of checker 8 in a run with lawful rises is at an unseen entry. -/
theorem exists_unseenEntry (hrises : LawfulRises s₀ tr) {t : ℕ}
    (halarm : (violatedAt s₀ tr t).getLsbD 8 = true) : ∃ a d, UnseenEntry s₀ tr a d t := by
  obtain ⟨hseen, a, ⟨hat, hstep, hidle⟩, huser, hsupervisor, hvector⟩ :=
    (violatedAt_eight_iff s₀ tr t).mp halarm
  have hwindow : window.IsStep (cycleAt s₀ tr a) := (isStep_fabricGate_iff _).mp hstep
  have hunseen : ∀ u, a < u → u < t → window.IsIdle (cycleAt s₀ tr u) := by
    intro u hau hut
    obtain ⟨hrst, hclk⟩ := hidle u hau hut
    exact ⟨(Bool.or_eq_false_iff.mp hrst).2, hclk⟩
  obtain ⟨hcompletes, hlow⟩ := (isStep_window_iff _).mp hseen
  obtain ⟨c, d, hac, hdt, hlast, hd, hc, hrisen⟩ := completion.exists_rise
    (P := fun x ↦ supervisor x = true) hat ((isStep_window_iff _).mp hwindow).1
    (Bool.eq_false_iff.mp huser) hcompletes hsupervisor fun u hau hut ↦ (hunseen u hau hut).1
  have hentry := hrises c d hlast hd (Bool.eq_false_iff.mpr hc) hrisen
  rcases Nat.lt_or_eq_of_le hdt with hlt | rfl
  · exact ⟨a, d, ⟨hwindow, huser⟩, ⟨hac.trans_lt hlast.before, hlt⟩, ⟨hd, hrisen, hentry⟩,
      hunseen, hseen, hsupervisor, hvector⟩
  · -- An entry in the window is at a vector.
    exact absurd (hentry.lowVector hlow) hvector

/-- In a run with lawful rises of SM and no other violation, checker 8 is silent exactly
when no entry outside the window comes into it elsewhere than at a vector. -/
theorem entryAlarm_iff (hquiet : ∀ t n, n ≠ 8 → (violatedAt s₀ tr t).getLsbD n = false)
    (hrises : LawfulRises s₀ tr) :
    (∀ t, (violatedAt s₀ tr t).getLsbD 8 = false) ↔ ∀ a d t, ¬UnseenEntry s₀ tr a d t := by
  constructor
  · intro hsilent a d t hunseen
    have hnone : ∀ u, violatedAt s₀ tr u = 0#32 := by
      intro u
      apply BitVec.eq_of_getLsbD_eq
      intro n _
      rw [BitVec.getLsbD_zero]
      by_cases hn : n = 8
      · rw [hn]
        exact hsilent u
      · exact hquiet u n hn
    have halarm := hunseen.violated hnone
    rw [hsilent t] at halarm
    exact Bool.false_ne_true halarm
  · intro hnone t
    rw [← Bool.not_eq_true]
    intro halarm
    obtain ⟨a, d, hunseen⟩ := exists_unseenEntry s₀ tr hrises halarm
    exact hnone a d t hunseen

end

/-! ## Entries at two bases -/

/-- The program counter of EX: a user program, the entry of the exception, and a
subroutine of the handler at 0x2000. -/
def enteringPc (exceptType : BitVec 4) (t : ℕ) : BitVec 32 :=
  if t < 5 then 0x3000 else if t = 5 then 0x2000 else if t = 6 then 0x2004
  else if t < 14 then Genpc.exceptEntry false exceptType else 0x2000

/-- After a reset `l.rfe` is in EX in cycles 3 and 4 and returns to user mode.  The
exception of cycle 6 flushes the pipeline up to cycle 10.  The handler completes one
instruction at the entry in cycle 13 and another one in cycle 14, and the core is reset. -/
def entering (exceptType : BitVec 4) : ResetTrace gate where
  cycle t :=
    { (default : In) with
      ifInsn := if t = 1 then or32Rfe ++ 0#26 else or32Nop ++ 0#26
      idFlushpipe := decide (6 ≤ t ∧ t ≤ 10)
      exFlushpipe := decide (6 ≤ t ∧ t ≤ 10)
      backend := { (default : Backend.In) with
        rst := t == 0 || decide (15 ≤ t)
        exceptIllegal := t == 6 && exceptType == exceptIllegal
        recovery := { (default : Recovery.In) with
          exceptType := if 7 ≤ t ∧ t ≤ 12 then exceptType else exceptNone }
        freeze := { (default : Freeze.In) with lsuStall := t == 3 }
        sprs := { (default : Sprs.In) with
          branchOp := if t = 3 ∨ t = 4 then branchopRfe else branchopNop
          exceptStarted := decide (7 ≤ t ∧ t ≤ 10)
          esr := 0x8000
          epcr := 0x2000
          exPc := enteringPc exceptType t } } }
  reset_first := rfl

section

variable {exceptType : BitVec 4}

theorem rst_entering {t : ℕ} (ht : 15 ≤ t) : (entering exceptType t).backend.rst = true := by
  change (t == 0 || decide (15 ≤ t)) = true
  rw [decide_eq_true ht, Bool.or_true]

theorem lt_of_isStep_entering {t : ℕ}
    (h : completion.IsStep (cycleAt default (entering exceptType) t)) : t < 15 := by
  by_contra hge
  have hrst : (entering exceptType t).backend.rst = true := rst_entering (Nat.le_of_not_lt hge)
  exact absurd (h.1.symm.trans hrst) Bool.false_ne_true

theorem quiet_entering
    (h : ∀ t < 15, violatedAt default (entering exceptType) t = 0#32 ∨
      violatedAt default (entering exceptType) t = BitVec.twoPow 32 8) (t n : ℕ) (hn : n ≠ 8) :
    (violatedAt default (entering exceptType) t).getLsbD n = false := by
  rcases Nat.lt_or_ge t 15 with hlt | hge
  · rcases h t hlt with hzero | hbit
    · rw [hzero, BitVec.getLsbD_zero]
    · rw [hbit, BitVec.getLsbD_twoPow, decide_eq_false hn.symm, Bool.and_false]
  · have hsilent : violatedAt default (entering exceptType) t = 0#32 := by
      apply checkersFired_of_rst
      change (_ || (entering exceptType t).backend.rst) = true
      rw [rst_entering hge, Bool.or_true]
    rw [hsilent, BitVec.getLsbD_zero]

/-- From cycle `d` on, with the instruction at the entry, instructions complete in supervisor
mode. -/
structure EntersAt (exceptType : BitVec 4) (d : ℕ) : Prop where
  isStep : completion.IsStep (cycleAt default (entering exceptType) d)
  eph : (sr (stateAt default (entering exceptType) d) (entering exceptType d)).getLsbD srEph =
    false
  pc : exPc (entering exceptType d) = Genpc.exceptEntry false exceptType
  mode_iff : ∀ t < 15, completion.IsStep (cycleAt default (entering exceptType) t) →
    (supervisor (cycleAt default (entering exceptType) t) = true ↔ d ≤ t)

theorem EntersAt.lawfulRises {d : ℕ} (h : EntersAt exceptType d) :
    LawfulRises default (entering exceptType) := by
  intro c t hlast ht hc hrisen
  have htd : d ≤ t := (h.mode_iff t (lt_of_isStep_entering ht) ht).mp hrisen
  have hcd : c < d := by
    by_contra hge
    have hsupervisor := (h.mode_iff c (lt_of_isStep_entering hlast.isStep) hlast.isStep).mpr
      (Nat.le_of_not_lt hge)
    exact absurd (hc.symm.trans hsupervisor) Bool.false_ne_true
  rcases Nat.lt_or_eq_of_le htd with hlt | rfl
  · exact absurd ((hlast.idle d hcd hlt).2.symm.trans h.isStep.2) Bool.false_ne_true
  · rw [h.eph, h.pc]
    exact Genpc.entryAddress_exceptEntry false exceptType

end

theorem entersAt_syscall : EntersAt exceptSyscall 13 :=
  ⟨by decide +kernel, by decide +kernel, rfl, by decide +kernel⟩

theorem entersAt_illegal : EntersAt exceptIllegal 13 :=
  ⟨by decide +kernel, by decide +kernel, rfl, by decide +kernel⟩

/-- The entry at 0x00000C00 is sampled. -/
theorem entering_syscall_silent :
    window.IsStep (cycleAt default (entering exceptSyscall) 13) ∧
      ∀ t, (violatedAt default (entering exceptSyscall) t).getLsbD 8 = false := by
  have henters := entersAt_syscall
  have hentry : window.IsStep (cycleAt default (entering exceptSyscall) 13) := by decide +kernel
  refine ⟨hentry, ?_⟩
  apply (entryAlarm_iff default (entering exceptSyscall) (quiet_entering (by decide +kernel))
    henters.lawfulRises).mpr
  rintro a d t ⟨⟨ha, huser⟩, -, -, hunseen, ht, hsupervisor, hvector⟩
  have hac := ((isStep_window_iff _).mp ha).1
  have htc := ((isStep_window_iff _).mp ht).1
  have htd : 13 ≤ t := (henters.mode_iff t (lt_of_isStep_entering htc) htc).mp hsupervisor
  have had : a < 13 := by
    by_contra hge
    have hmode := (henters.mode_iff a (lt_of_isStep_entering hac) hac).mpr
      (Nat.le_of_not_lt hge)
    exact absurd (huser.symm.trans hmode) Bool.false_ne_true
  rcases Nat.lt_or_eq_of_le htd with hlt | rfl
  · exact absurd ((hunseen 13 had hlt).2.symm.trans hentry.2) Bool.false_ne_true
  · exact hvector ⟨0xC#4, rfl⟩

/-- The entry at 0x08000000 is not sampled, and the subroutine is reported. -/
theorem entering_illegal_alarm :
    ((∀ t n, n ≠ 8 → (violatedAt default (entering exceptIllegal) t).getLsbD n = false) ∧
      LawfulRises default (entering exceptIllegal)) ∧
    ¬∀ t, (violatedAt default (entering exceptIllegal) t).getLsbD 8 = false := by
  refine ⟨⟨quiet_entering (by decide +kernel), entersAt_illegal.lawfulRises⟩, ?_⟩
  intro hsilent
  have halarm : (violatedAt default (entering exceptIllegal) 14).getLsbD 8 = true := by
    decide +kernel
  exact absurd ((hsilent 14).symm.trans halarm) Bool.false_ne_true

end Cpu

end Specs.Or1200
