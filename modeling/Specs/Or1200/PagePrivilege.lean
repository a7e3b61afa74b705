import Specs.Fabric.Monitors
import Specs.Or1200.Immu

/-!
# The page of the instruction in EX

Checker 1 compares the mode with the permission bits of a page.  The mode is the
one of the instruction in EX, but the bits come straight from the instruction TLB
and belong to the last fetch.  When that fetch has moved on to a page with other
permissions, the verdict is about the wrong page.
-/

namespace Specs.Or1200.PagePrivilege

open Specs.Sync BakedInAssertions

/-! ## The fabric behind the TLB -/

/-- The inputs of a cycle.  The permission bits and `immu_en` among the ports of the
fabric are replaced by the wiring below, and so are `immu_en` and `supv` among the inputs
of the IMMU. -/
structure In where
  spExceptionGated : Bool
  insnClk : Bool
  exceptStarted : Bool
  ports : Ports
  immu : Immu.In
deriving Inhabited

structure State where
  fabric : BakedInAssertions.State
  immu : Immu.State
deriving Inhabited

def immuEn (i : In) : Bool := i.ports.sr.getLsbD srIme && !i.exceptStarted

def supv (i : In) : Bool := i.ports.sr.getLsbD srSm

def immuIn (i : In) : Immu.In := { i.immu with immuEn := immuEn i, supv := supv i }

def fabricIn (s : State) (i : In) : BakedInAssertions.In :=
  { i.ports with
    rst := i.spExceptionGated || i.immu.rst
    enable := i.insnClk
    immuSxe := Immu.itlbSxe s.immu
    immuUxe := Immu.itlbUxe s.immu
    immuEn := immuEn i }

def spAssertionsViolated (s : State) (i : In) : BitVec 32 := checkersFired s.fabric (fabricIn s i)

def next (s : State) (i : In) : State where
  fabric := BakedInAssertions.next s.fabric (fabricIn s i)
  immu := Immu.next s.immu (immuIn i)

def gate : Gate In := ⟨fun i ↦ i.spExceptionGated || i.immu.rst, In.insnClk⟩

def stateAt (s₀ : State) (tr : ℕ → In) (t : ℕ) : State := run next s₀ tr t

def fabricTrace (s₀ : State) (tr : ResetTrace gate) : ResetTrace BakedInAssertions.gate where
  cycle t := fabricIn (stateAt s₀ tr t) (tr t)
  reset_first := tr.reset_first

/-! ## Pages -/

/-- The entry at the index of `addr` is valid and translates it. -/
def Maps (tlb : ImmuTlb.State) (addr : BitVec 32) : Prop :=
  ImmuTlb.vpnOf (tlb.mrRam.mem (ImmuTlb.indx addr)) = ImmuTlb.tag addr ∧
    ImmuTlb.vOf (tlb.mrRam.mem (ImmuTlb.indx addr)) = true

instance (tlb : ImmuTlb.State) (addr : BitVec 32) : Decidable (Maps tlb addr) :=
  inferInstanceAs (Decidable (_ ∧ _))

/-- The entry at the index of `addr` lets the mode execute. -/
def permits (tlb : ImmuTlb.State) (addr : BitVec 32) (supv : Bool) : Bool :=
  if supv then ImmuTlb.sxeOf (tlb.trRam.mem (ImmuTlb.indx addr))
  else ImmuTlb.uxeOf (tlb.trRam.mem (ImmuTlb.indx addr))

def LooksUp (i : In) : Prop := Immu.itlbEn (immuIn i) = true

/-- The last address looked up before cycle `t` is the one of cycle `u`. -/
structure LastLookup (tr : ℕ → In) (u t : ℕ) : Prop where
  before : u < t
  looksUp : LooksUp (tr u)
  last : ∀ v, u < v → v < t → ¬LooksUp (tr v)

/-- The word at `addr` was fetched before cycle `t`, through an entry that maps it. -/
def Fetched (tlb : ImmuTlb.State) (tr : ℕ → In) (t : ℕ) (addr : BitVec 32) : Prop :=
  Maps tlb addr ∧ ∃ u < t, LooksUp (tr u) ∧
    (tr u).immu.icpuAdrI.extractLsb' 2 30 = addr.extractLsb' 2 30

theorem Fetched.exists_lastLookup {tlb : ImmuTlb.State} {tr : ℕ → In} {t : ℕ}
    {addr : BitVec 32} (h : Fetched tlb tr t addr) : ∃ u, LastLookup tr u t := by
  obtain ⟨-, u, hut, hlooks, -⟩ := h
  obtain ⟨w, hwt, hw, hlast⟩ := exists_latest (P := fun v ↦ LooksUp (tr v)) ⟨u, hut, hlooks⟩
  exact ⟨w, hwt, hw, hlast⟩

section

variable (s₀ : State) (tr : ResetTrace gate) (hfixed : ∀ u, (tr u).immu.sprCs = false)
include hfixed

/-- Without an SPR access the contents of the TLB are fixed. -/
theorem trRam_mem_stateAt (t : ℕ) :
    (stateAt s₀ tr t).immu.tlb.trRam.mem = s₀.immu.tlb.trRam.mem := by
  apply register_kept (f := fun u ↦ (stateAt s₀ tr u).immu.tlb.trRam.mem) (Nat.zero_le t)
  intro u _ _
  exact ImmuTlb.trRam_mem_next (Immu.tlbIn_sprCs (i := immuIn (tr u)) (hfixed u) _) _

theorem trRam_addrReg_of_lastLookup {u t : ℕ} (h : LastLookup tr u t) :
    (stateAt s₀ tr t).immu.tlb.trRam.addrReg = ImmuTlb.indx (tr u).immu.icpuAdrI := by
  have hstep : ∀ v, (stateAt s₀ tr (v + 1)).immu.tlb.trRam.addrReg =
      if Immu.itlbEn (immuIn (tr v)) then ImmuTlb.indx (tr v).immu.icpuAdrI
      else (stateAt s₀ tr v).immu.tlb.trRam.addrReg := by
    intro v
    exact ImmuTlb.trRam_addrReg_next (Immu.tlbIn_sprCs (i := immuIn (tr v)) (hfixed v) _) _
  have hload : (stateAt s₀ tr (u + 1)).immu.tlb.trRam.addrReg =
      ImmuTlb.indx (tr u).immu.icpuAdrI := by
    have hlooks : Immu.itlbEn (immuIn (tr u)) = true := h.looksUp
    rw [hstep, if_pos hlooks]
  rw [← hload]
  apply register_kept (f := fun v ↦ (stateAt s₀ tr v).immu.tlb.trRam.addrReg) h.before
  intro v huv hvt
  have hidle : ¬Immu.itlbEn (immuIn (tr v)) = true := h.last v huv hvt
  rw [hstep, if_neg hidle]

/-- Checker 1 judges the page of the last address looked up. -/
theorem violated_one_iff {u t : ℕ} (hstep : gate.IsStep (tr t)) (himmu : immuEn (tr t) = true)
    (h : LastLookup tr u t) :
    (spAssertionsViolated (stateAt s₀ tr t) (tr t)).getLsbD 1 = true ↔
      permits s₀.immu.tlb (tr u).immu.icpuAdrI (supv (tr t)) = false := by
  have htr : Spram.doq (stateAt s₀ tr t).immu.tlb.trRam =
      s₀.immu.tlb.trRam.mem (ImmuTlb.indx (tr u).immu.icpuAdrI) := by
    rw [Spram.doq, trRam_mem_stateAt s₀ tr hfixed, trRam_addrReg_of_lastLookup s₀ tr hfixed h]
  have hchecker := checker1_run (fabricTrace s₀ tr) t
  have hfabric : BakedInAssertions.gate.IsStep (fabricTrace s₀ tr t) := hstep
  rw [BakedInAssertions.gate.verdict_of_isStep hfabric] at hchecker
  rw [spAssertionsViolated, checkersFired_getLsbD]
  change checker1 (fabricTrace s₀ tr t) = true ↔ _
  rw [hchecker]
  change ((!supv (tr t) || (immuEn (tr t) && !ImmuTlb.sxeOf (Spram.doq _))) &&
    (supv (tr t) || (immuEn (tr t) && !ImmuTlb.uxeOf (Spram.doq _))) && immuEn (tr t)) = true ↔ _
  rw [htr, himmu, permits]
  cases supv (tr t) <;> simp

/-- Checker 1 judges the instruction in EX right exactly when the last page looked up
permits what its own page permits. -/
theorem pagePrivilege_iff {t : ℕ} (hstep : gate.IsStep (tr t)) (himmu : immuEn (tr t) = true)
    (hfetched : Fetched s₀.immu.tlb tr t (tr t).ports.exPc) :
    ((spAssertionsViolated (stateAt s₀ tr t) (tr t)).getLsbD 1 = true ↔
        permits s₀.immu.tlb (tr t).ports.exPc (supv (tr t)) = false) ↔
      ∀ u, LastLookup tr u t →
        permits s₀.immu.tlb (tr u).immu.icpuAdrI (supv (tr t)) =
          permits s₀.immu.tlb (tr t).ports.exPc (supv (tr t)) := by
  constructor
  · intro hright u hlast
    rw [violated_one_iff s₀ tr hfixed hstep himmu hlast] at hright
    rw [Bool.eq_iff_iff, ← Bool.not_eq_false, ← Bool.not_eq_false]
    exact not_congr hright
  · intro hsame
    obtain ⟨u, hlast⟩ := hfetched.exists_lastLookup
    rw [violated_one_iff s₀ tr hfixed hstep himmu hlast, hsame u hlast]

end

/-! ## A fetch from the next page -/

/-- Pages 1 and 2 are mapped.  Supervisor mode may execute the first one only. -/
def twoPages : State :=
  { (default : State) with
    immu := { (default : Immu.State) with
      tlb :=
        { mrRam := ⟨fun k ↦ if k = 1 ∨ k = 2 then 1 else 0, 0⟩
          trRam := ⟨fun k ↦ if k = 1 then 2 else 0, 0⟩ } } }

/-- A reset cycle, a fetch at 0x2000, and fetches at `adr` while the instruction at
0x2000 goes on to EX, which it leaves in cycle 4. -/
def fetchAhead (adr : BitVec 32) : ResetTrace gate where
  cycle t :=
    { (default : In) with
      insnClk := t == 4
      ports := { (default : Ports) with sr := 0x8041, exPc := 0x2000 }
      immu := { (default : Immu.In) with
        rst := t == 0
        icpuCycstbI := t != 0
        icpuAdrI := if t ≤ 1 then 0x2000 else adr } }
  reset_first := rfl

/-- Fetches from the same page leave the instruction unreported. -/
theorem fetchAhead_same_page :
    (spAssertionsViolated (stateAt twoPages (fetchAhead 0x2004) 4)
        (fetchAhead 0x2004 4)).getLsbD 1 = true ↔
      permits twoPages.immu.tlb 0x2000#32 true = false := by
  apply (pagePrivilege_iff twoPages (fetchAhead 0x2004) (fun _ ↦ rfl) (t := 4)
    ⟨rfl, rfl⟩ rfl ⟨by decide, 1, by decide, rfl, rfl⟩).mpr
  intro u _
  change permits twoPages.immu.tlb (if u ≤ 1 then 0x2000#32 else 0x2004#32) true = _
  split <;> decide

/-- A fetch from the next page has its permission judged instead. -/
theorem fetchAhead_next_page :
    ((∀ u, (fetchAhead 0x4000 u).immu.sprCs = false) ∧
      (∀ t, gate.IsStep (fetchAhead 0x4000 t) →
        Fetched twoPages.immu.tlb (fetchAhead 0x4000) t (fetchAhead 0x4000 t).ports.exPc) ∧
      gate.IsStep (fetchAhead 0x4000 4) ∧ immuEn (fetchAhead 0x4000 4) = true) ∧
    ¬((spAssertionsViolated (stateAt twoPages (fetchAhead 0x4000) 4)
          (fetchAhead 0x4000 4)).getLsbD 1 = true ↔
      permits twoPages.immu.tlb (fetchAhead 0x4000 4).ports.exPc
        (supv (fetchAhead 0x4000 4)) = false) := by
  have hfetched : ∀ t, gate.IsStep (fetchAhead 0x4000 t) →
      Fetched twoPages.immu.tlb (fetchAhead 0x4000) t (fetchAhead 0x4000 t).ports.exPc := by
    rintro t ⟨-, hclk⟩
    obtain rfl : t = 4 := beq_iff_eq.mp hclk
    exact ⟨by decide, 1, by decide, rfl, rfl⟩
  refine ⟨⟨fun _ ↦ rfl, hfetched, ⟨rfl, rfl⟩, rfl⟩, ?_⟩
  intro hright
  have hdenied : permits twoPages.immu.tlb 0x2000#32 true = false :=
    hright.mp (by decide +kernel)
  exact absurd hdenied (by decide)

end Specs.Or1200.PagePrivilege
