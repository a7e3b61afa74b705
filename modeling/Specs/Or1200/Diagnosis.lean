import Specs.Fabric.Exceptions
import Specs.Or1200.Cpu

/-!
# The diagnostic registers

The handler of a violation learns from two registers which checker fired and
where.  They are overwritten by the next violation, so they can be read as long
as there is none.  A loop through two modules sees to that: the violation raises
the hold flag, the hold flag resets the fabric, and a fabric in reset is silent.
The loop is modelled on its own here, with the pipeline as an input; the
processor contains it.
-/

namespace Specs.Or1200.Diagnosis

open Specs.Sync BakedInAssertions

structure In where
  rst : Bool
  enable : Bool
  ports : Ports
  exceptType : BitVec 4
deriving Inhabited

structure State where
  fabric : BakedInAssertions.State
  recovery : Recovery.State
  spReg7 : BitVec 32
deriving Inhabited

def spExceptionGated (s : State) (i : In) : Bool :=
  Recovery.spExceptionGated s.recovery { (default : Recovery.In) with exceptType := i.exceptType }

def fabricIn (s : State) (i : In) : BakedInAssertions.In :=
  { i.ports with rst := spExceptionGated s i || i.rst, enable := i.enable }

def spAssertionsViolated (s : State) (i : In) : BitVec 32 := checkersFired s.fabric (fabricIn s i)

def recoveryIn (s : State) (i : In) : Recovery.In :=
  ⟨i.rst, spAssertionsViolated s i, i.exceptType⟩

def next (s : State) (i : In) : State where
  fabric := BakedInAssertions.next s.fabric (fabricIn s i)
  recovery := Recovery.next s.recovery (recoveryIn s i)
  spReg7 :=
    if i.rst then 0
    else if Recovery.spAssertionViolated (recoveryIn s i) then i.ports.sprDatPpc
    else s.spReg7

def gate : Gate In := ⟨In.rst, fun _ ↦ true⟩

def stateAt (s₀ : State) (tr : ℕ → In) (t : ℕ) : State := run next s₀ tr t

/-! ## The loop inside the processor -/

def ofCpu (s : Cpu.State) : State := ⟨s.fabric, s.backend.recovery, s.backend.sprs.spReg7⟩

def cpuWire (s : Cpu.State) (i : Cpu.In) : In where
  rst := i.backend.rst
  enable := Cpu.insnClk s i
  ports := (Cpu.fabricIn s i).toPorts
  exceptType := i.backend.recovery.exceptType

theorem ofCpu_next (s : Cpu.State) (i : Cpu.In) :
    ofCpu (Cpu.next s i) = next (ofCpu s) (cpuWire s i) := rfl

/-- The processor runs the loop. -/
theorem ofCpu_stateAt (s₀ : Cpu.State) (tr : ℕ → Cpu.In) (t : ℕ) :
    ofCpu (Cpu.stateAt s₀ tr t) =
      stateAt (ofCpu s₀) (fun u ↦ cpuWire (Cpu.stateAt s₀ tr u) (tr u)) t :=
  component_run ofCpu cpuWire ofCpu_next s₀ tr t

/-! ## One cycle -/

theorem spAssertionViolated_iff (s : State) (i : In) :
    Recovery.spAssertionViolated (recoveryIn s i) = true ↔ spAssertionsViolated s i ≠ 0 := by
  rw [Recovery.spAssertionViolated, bne_iff_ne]
  rfl

theorem gated_of_hold {s : State} {i : In} (hold : s.recovery.spExceptionHold = true)
    (h : i.exceptType ≠ exceptIllegal) : spExceptionGated s i = true :=
  (Recovery.gated_iff _ _).mpr ⟨Or.inr hold, h⟩

theorem silent_of_gated {s : State} {i : In} (h : spExceptionGated s i = true) :
    spAssertionsViolated s i = 0 := by
  apply checkersFired_of_rst
  simp [fabricIn, h]

theorem rst_of_violated {s : State} {i : In} (h : spAssertionsViolated s i ≠ 0) :
    i.rst = false := by
  by_contra hrst
  apply h
  apply checkersFired_of_rst
  simp [fabricIn, Bool.not_eq_false _ ▸ hrst]

/-- A reset of the other checkers silences checker 15, whatever is on the reset pin of
`oaw15_3`. -/
theorem checker15With_of_gated {s : State} {i : In} (h : spExceptionGated s i = true)
    (rst15_3 : Bool) : checker15With rst15_3 s.fabric (fabricIn s i) = false := by
  have hrst : (fabricIn s i).rst = true := by simp [fabricIn, h]
  simp [checker15With, checker15_1, checker15_2, oaoew15_1, onw15_2, onEdge, nextOne,
    Ovl.AlwaysOnEdge.out, Ovl.AlwaysOnEdge.fire2StateComb, Ovl.Next.out,
    Ovl.Next.fire2StateComb, hrst]

/-- The hold flag is up, and the registers hold `fired` and `ppc`. -/
structure Records (fired : BitVec 32) (ppc : BitVec 32) (s : State) : Prop where
  hold : s.recovery.spExceptionHold = true
  fired : s.recovery.spAssertionsViolatedReg = fired
  ppc : s.spReg7 = ppc

theorem records_next_of_violated {s : State} {i : In} (h : spAssertionsViolated s i ≠ 0)
    (hexc : i.exceptType ≠ exceptIllegal) :
    Records (spAssertionsViolated s i) i.ports.sprDatPpc (next s i) := by
  have hrst : i.rst = false := rst_of_violated h
  have hviolated := (spAssertionViolated_iff s i).mpr h
  have hhandled : Recovery.spExceptionHandled (recoveryIn s i) = false :=
    (Recovery.handled_eq_false_iff _).mpr hexc
  have hrst' : (recoveryIn s i).rst = false := hrst
  constructor
  · simp [next, Recovery.next, hrst', hhandled, hviolated]
  · simp only [next, Recovery.next, hrst', hviolated, Bool.false_eq_true, if_false, if_true]
    rfl
  · simp [next, hrst, hviolated]

theorem Records.next {s : State} {i : In} {fired ppc : BitVec 32} (h : Records fired ppc s)
    (hrst : i.rst = false) (hexc : i.exceptType ≠ exceptIllegal) :
    Records fired ppc (next s i) := by
  have hsilent := silent_of_gated (gated_of_hold h.hold hexc)
  have hviolated : Recovery.spAssertionViolated (recoveryIn s i) = false := by
    rw [← Bool.not_eq_true, spAssertionViolated_iff]
    exact not_not_intro hsilent
  have hhandled : Recovery.spExceptionHandled (recoveryIn s i) = false :=
    (Recovery.handled_eq_false_iff _).mpr hexc
  have hrst' : (recoveryIn s i).rst = false := hrst
  constructor
  · simp [Diagnosis.next, Recovery.next, hrst', hhandled, hviolated, h.hold]
  · simp [Diagnosis.next, Recovery.next, hrst', hviolated, h.fired]
  · simp [Diagnosis.next, hrst, hviolated, h.ppc]

/-! ## From the violation to the exception -/

section

variable (s₀ : State) (tr : ResetTrace gate) {a t : ℕ}

/-- A violation is raised in cycle `a`, and up to cycle `t` the exception has not been
started and the core has not been reset. -/
structure Pending (a t : ℕ) : Prop where
  raised : spAssertionsViolated (stateAt s₀ tr a) (tr a) ≠ 0
  lt : a < t
  unhandled : ∀ u, a ≤ u → u < t → (tr u).exceptType ≠ exceptIllegal
  running : ∀ u, a < u → u < t → (tr u).rst = false

variable {s₀ tr}

theorem Pending.records (h : Pending s₀ tr a t) :
    Records (spAssertionsViolated (stateAt s₀ tr a) (tr a)) (tr a).ports.sprDatPpc
      (stateAt s₀ tr t) := by
  obtain ⟨hraised, hlt, hunhandled, hrunning⟩ := h
  induction t, hlt using Nat.le_induction with
  | base => exact records_next_of_violated hraised (hunhandled a le_rfl (Nat.lt_succ_self a))
  | succ t hat ih =>
      have hkept := ih
        (fun u hau hut ↦ hunhandled u hau (hut.trans (Nat.lt_succ_self t)))
        (fun u hau hut ↦ hrunning u hau (hut.trans (Nat.lt_succ_self t)))
      apply hkept.next
      · exact hrunning t hat (Nat.lt_succ_self t)
      · exact hunhandled t (Nat.le_of_succ_le hat) (Nat.lt_succ_self t)

/-- Until the exception starts or the core is reset, the fabric is silent and the
registers keep what they captured with the violation. -/
theorem pending_keeps (h : Pending s₀ tr a t) :
    ((tr t).exceptType ≠ exceptIllegal →
      spAssertionsViolated (stateAt s₀ tr t) (tr t) = 0 ∧
        ∀ rst15_3, checker15With rst15_3 (stateAt s₀ tr t).fabric
          (fabricIn (stateAt s₀ tr t) (tr t)) = false) ∧
    (stateAt s₀ tr t).recovery.spAssertionsViolatedReg =
      spAssertionsViolated (stateAt s₀ tr a) (tr a) ∧
    (stateAt s₀ tr t).spReg7 = (tr a).ports.sprDatPpc := by
  have hrecords := h.records
  refine ⟨?_, hrecords.fired, hrecords.ppc⟩
  intro hexc
  have hgated := gated_of_hold hrecords.hold hexc
  exact ⟨silent_of_gated hgated, checker15With_of_gated hgated⟩

end

/-- A reset cycle and a write of `r7` by `l.addi r4,r4,1` after 0x2000, in cycle 2;
cycle 3 is a reset cycle if `again` is. -/
def writeOfR7 (again : Bool) : ResetTrace gate where
  cycle t :=
    { (default : In) with
      exceptType := exceptNone
      rst := t == 0 || (again && t == 3)
      ports := { (default : Ports) with
        exInsn := 0x9C840001#32
        sprDatPpc := 0x2000#32
        gprWrittenTo := t == 2
        gprWrittenAddr := 7#5 } }
  reset_first := rfl

theorem exceptType_writeOfR7 (again : Bool) (u : ℕ) :
    (writeOfR7 again u).exceptType ≠ exceptIllegal := by
  change exceptNone ≠ exceptIllegal
  decide

theorem pending_keeps_writeOfR7 :
    (stateAt default (writeOfR7 false) 4).spReg7 = 0x2000#32 := by
  have hpending : Pending default (writeOfR7 false) 2 4 := by
    refine ⟨by decide +kernel, by decide, fun u _ _ ↦ exceptType_writeOfR7 false u, ?_⟩
    intro u hlo hhi
    obtain rfl : u = 3 := by omega
    rfl
  exact (pending_keeps hpending).2.2

/-- A reset of the core before the exception starts clears the registers. -/
theorem reset_clears :
    (spAssertionsViolated (stateAt default (writeOfR7 true) 2) (writeOfR7 true 2) =
        0x00010000#32 ∧
      ∀ u, (writeOfR7 true u).exceptType ≠ exceptIllegal) ∧
    (stateAt default (writeOfR7 true) 4).recovery.spAssertionsViolatedReg = 0 ∧
    (stateAt default (writeOfR7 true) 4).spReg7 = 0 :=
  ⟨⟨by decide +kernel, exceptType_writeOfR7 true⟩, by decide +kernel, by decide +kernel⟩

end Specs.Or1200.Diagnosis
