import Specs.Or1200.Defines

/-!
# Special-purpose registers

`or1200_sprs` decodes the SPR address, holds the supervision register SR and the
registers of the exception handler, and selects the data of `l.mfspr`.  The EPH
bit of SR has a register of its own; in the cycle after a reset it follows the
boot address select.

The reset of the processor is asynchronous in the source.  A cycle with the reset
active is modelled as one that ends with the reset values.
-/

namespace Specs.Or1200.Sprs

structure In where
  rst : Bool
  flagforw : Bool
  flagWe : Bool
  cyforw : Bool
  cyWe : Bool
  ovforw : Bool
  ovWe : Bool
  dsx : Bool
  addrbase : BitVec 32
  addrofs : BitVec 16
  datI : BitVec 32
  exSprRead : Bool
  exSprWrite : Bool
  branchOp : BitVec 3
  epcr : BitVec 32
  eear : BitVec 32
  esr : BitVec 17
  exceptStarted : Bool
  sprDatCfgr : BitVec 32
  sprDatRf : BitVec 32
  sprDatNpc : BitVec 32
  sprDatPpc : BitVec 32
  sprDatMac : BitVec 32
  bootAdrSelI : Bool
  fpcsr : BitVec 12
  sprDatFpu : BitVec 32
  sprDatPic : BitVec 32
  sprDatTt : BitVec 32
  sprDatPm : BitVec 32
  sprDatDmmu : BitVec 32
  sprDatImmu : BitVec 32
  sprDatDu : BitVec 32
  duAddr : BitVec 32
  duDatDu : BitVec 32
  duRead : Bool
  duWrite : Bool
  exPc : BitVec 32
  exVoid : Bool
  exceptIllegal : Bool
  spEpcrGhost : BitVec 32
  spEearGhost : BitVec 32
  spEsrGhost : BitVec 17
  spAssertionsViolated : BitVec 32
  spAssertionViolated : Bool
deriving Inhabited

structure State where
  srReg : BitVec 17
  srRegBitEph : Bool
  srRegBitEphSelect : Bool
  spReg0 : BitVec 32
  spReg1 : BitVec 32
  spReg2 : BitVec 32
  spReg3 : BitVec 32
  spReg4 : BitVec 32
  spReg6 : BitVec 32
  spReg7 : BitVec 32
deriving DecidableEq, Inhabited

/-! ## Address and selects -/

def duAccess (i : In) : Bool := i.duRead || i.duWrite

def sprAddr (i : In) : BitVec 32 :=
  if duAccess i then i.duAddr else i.addrbase ||| (0#16 ++ i.addrofs)

def sprDatO (i : In) : BitVec 32 := if i.duWrite then i.duDatDu else i.datI

def sprWe (i : In) : Bool := i.duWrite || (i.exSprWrite && !duAccess i)

def sprGroup (addr : BitVec 32) : BitVec 5 := addr.extractLsb' 11 5

def sprOfs (addr : BitVec 32) : BitVec 11 := addr.extractLsb' 0 11

def unqualifiedCs (i : In) : BitVec 32 := 1#32 <<< (sprGroup (sprAddr i)).toNat

def fill (b : Bool) : BitVec 32 := if b then BitVec.allOnes 32 else 0#32

def srRegBitEphMuxed (s : State) (i : In) : Bool :=
  if s.srRegBitEphSelect then i.bootAdrSelI else s.srRegBitEph

/-- A word of the width of SR with the EPH bit replaced. -/
def withEph (x : BitVec 17) (eph : Bool) : BitVec 17 :=
  x.extractLsb' 15 2 ++ BitVec.ofBool eph ++ x.extractLsb' 0 14

def sr (s : State) (i : In) : BitVec 17 := withEph s.srReg (srRegBitEphMuxed s i)

def sprCs (s : State) (i : In) : BitVec 32 :=
  unqualifiedCs i &&& fill (i.duRead || i.duWrite || i.exSprRead ||
    (i.exSprWrite && ((sr s i).getLsbD srSm || sprGroup (sprAddr i) == 7#5)))

/-- Select of the register at an offset of a group. -/
def ofsSel (group : ℕ) (ofs : BitVec 11) (s : State) (i : In) : Bool :=
  (sprCs s i).getLsbD group && sprOfs (sprAddr i) == ofs

def cfgrSel (s : State) (i : In) : Bool :=
  (sprCs s i).getLsbD sprGroupSys && (sprAddr i).extractLsb' 4 7 == sprCfgr

def rfSel (s : State) (i : In) : Bool :=
  (sprCs s i).getLsbD sprGroupSys && (sprAddr i).extractLsb' 5 6 == sprRf

def npcSel : State → In → Bool := ofsSel sprGroupSys sprNpc
def ppcSel : State → In → Bool := ofsSel sprGroupSys sprPpc
def srSel : State → In → Bool := ofsSel sprGroupSys sprSr
def epcrSel : State → In → Bool := ofsSel sprGroupSys sprEpcr
def spEpcrGhostSel : State → In → Bool := ofsSel sprGroupSys (sprEpcr + 1)
def eearSel : State → In → Bool := ofsSel sprGroupSys sprEear
def spEearGhostSel : State → In → Bool := ofsSel sprGroupSys (sprEear + 1)
def esrSel : State → In → Bool := ofsSel sprGroupSys sprEsr
def spEsrGhostSel : State → In → Bool := ofsSel sprGroupSys (sprEsr + 1)
def fpcsrSel : State → In → Bool := ofsSel sprGroupSys sprFpcsr
def spReg0Sel : State → In → Bool := ofsSel sprGroupPc pcPccr0
def spReg1Sel : State → In → Bool := ofsSel sprGroupPc pcPccr1
def spReg2Sel : State → In → Bool := ofsSel sprGroupPc pcPccr2
def spReg3Sel : State → In → Bool := ofsSel sprGroupPc pcPccr3
def spReg4Sel : State → In → Bool := ofsSel sprGroupPc pcPccr4
def spReg5Sel : State → In → Bool := ofsSel sprGroupPc pcPccr5
def spReg6Sel : State → In → Bool := ofsSel sprGroupPc pcPccr6
def spReg7Sel : State → In → Bool := ofsSel sprGroupPc pcPccr7

/-! ## Write enables -/

def srWe (s : State) (i : In) : Bool :=
  (sprWe i && srSel s i) ||
    (!i.exceptIllegal && !i.spAssertionViolated && !i.exVoid && i.branchOp == branchopRfe) ||
    i.flagWe || i.cyWe || i.ovWe

def pcWe (s : State) (i : In) : Bool := i.duWrite && (npcSel s i || ppcSel s i)
def epcrWe (s : State) (i : In) : Bool := sprWe i && epcrSel s i
def eearWe (s : State) (i : In) : Bool := sprWe i && eearSel s i
def esrWe (s : State) (i : In) : Bool := sprWe i && esrSel s i
def fpcsrWe (s : State) (i : In) : Bool := sprWe i && fpcsrSel s i
def spEpcrGhostWe (s : State) (i : In) : Bool := sprWe i && spEpcrGhostSel s i
def spEearGhostWe (s : State) (i : In) : Bool := sprWe i && spEearGhostSel s i
def spEsrGhostWe (s : State) (i : In) : Bool := sprWe i && spEsrGhostSel s i

/-! ## What is written into SR -/

/-- `SP_IIE_ADDR_COMPARE`: the instruction is one of the handler's region. -/
def spIieAddrCompare (exPc : BitVec 32) : Bool := exPc.extractLsb' 24 8 == 0x08#8

def restored (i : In) : BitVec 17 := if spIieAddrCompare i.exPc then i.spEsrGhost else i.esr

def isRfe (i : In) : Bool := i.branchOp == branchopRfe

/-- `to_sr[FO:OVE]`. -/
def toSrFoOve (s : State) (i : In) : BitVec 4 :=
  if i.exceptStarted then (sr s i).extractLsb' srEph 2 ++ BitVec.ofBool i.dsx ++ 0#1
  else if isRfe i then (restored i).extractLsb' srOve 4
  else if sprWe i && srSel s i then 1#1 ++ (sprDatO i).extractLsb' srOve 3
  else (sr s i).extractLsb' srOve 4

def toSrTed (s : State) (i : In) : Bool :=
  if i.exceptStarted then true
  else if isRfe i then (restored i).getLsbD srTed
  else if sprWe i && srSel s i then (sprDatO i).getLsbD srTed
  else (sr s i).getLsbD srTed

/-- `to_sr[OV]`, `to_sr[CY]` and `to_sr[F]`: the bit has a writer of its own. -/
def toSrFlag (bit : ℕ) (we forw : In → Bool) (s : State) (i : In) : Bool :=
  if i.exceptStarted then (sr s i).getLsbD bit
  else if isRfe i then (restored i).getLsbD bit
  else if we i then forw i
  else if sprWe i && srSel s i then (sprDatO i).getLsbD bit
  else (sr s i).getLsbD bit

def toSrOv : State → In → Bool := toSrFlag srOv In.ovWe In.ovforw
def toSrCy : State → In → Bool := toSrFlag srCy In.cyWe In.cyforw
def toSrF : State → In → Bool := toSrFlag srF In.flagWe In.flagforw

/-- `to_sr[CE:SM]`. -/
def toSrCeSm (s : State) (i : In) : BitVec 9 :=
  if i.exceptStarted then
    (sr s i).extractLsb' 7 2 ++ 0b00#2 ++ (sr s i).extractLsb' 3 2 ++ 0b001#3
  else if isRfe i then (restored i).extractLsb' srSm 9
  else if sprWe i && srSel s i then (sprDatO i).extractLsb' srSm 9
  else (sr s i).extractLsb' srSm 9

def toSr (s : State) (i : In) : BitVec 17 :=
  BitVec.ofBool (toSrTed s i) ++ toSrFoOve s i ++ BitVec.ofBool (toSrOv s i) ++
    BitVec.ofBool (toSrCy s i) ++ BitVec.ofBool (toSrF s i) ++ toSrCeSm s i

/-! ## Reads -/

def sysData (s : State) (i : In) : BitVec 32 :=
  (i.sprDatCfgr &&& fill (cfgrSel s i)) |||
    (i.spEsrGhost.setWidth 32 &&& fill (spEsrGhostSel s i)) |||
    (i.spEpcrGhost &&& fill (spEpcrGhostSel s i)) |||
    (i.spEearGhost &&& fill (spEearGhostSel s i)) |||
    (s.spReg0 &&& fill (spReg0Sel s i)) |||
    (s.spReg4 &&& fill (spReg4Sel s i)) |||
    (s.spReg1 &&& fill (spReg1Sel s i)) |||
    (s.spReg2 &&& fill (spReg2Sel s i)) |||
    (s.spReg3 &&& fill (spReg3Sel s i)) |||
    (i.spAssertionsViolated &&& fill (spReg5Sel s i)) |||
    (s.spReg6 &&& fill (spReg6Sel s i)) |||
    (s.spReg7 &&& fill (spReg7Sel s i)) |||
    (i.sprDatRf &&& fill (rfSel s i)) |||
    (i.sprDatNpc &&& fill (npcSel s i)) |||
    (i.sprDatPpc &&& fill (ppcSel s i)) |||
    ((sr s i).setWidth 32 &&& fill (srSel s i)) |||
    (i.epcr &&& fill (epcrSel s i)) |||
    (i.eear &&& fill (eearSel s i)) |||
    (i.fpcsr.setWidth 32 &&& fill (fpcsrSel s i)) |||
    (i.esr.setWidth 32 &&& fill (esrSel s i))

def toWbmux (s : State) (i : In) : BitVec 32 :=
  match (sprGroup (sprAddr i)).toNat with
  | 7 => sysData s i
  | 0 => sysData s i
  | 10 => i.sprDatTt
  | 9 => i.sprDatPic
  | 8 => i.sprDatPm
  | 1 => i.sprDatDmmu
  | 2 => i.sprDatImmu
  | 5 => i.sprDatMac
  | 11 => i.sprDatFpu
  | _ => i.sprDatDu

def duDatCpu (s : State) (i : In) : BitVec 32 :=
  if i.duRead then toWbmux s i else if i.duWrite then i.duDatDu else i.datI

/-! ## Clock edge -/

/-- A register of the handler: reset to `init`, written when selected. -/
def spReg (init : BitVec 32) (sel : State → In → Bool) (old : BitVec 32) (s : State)
    (i : In) : BitVec 32 :=
  if i.rst then init else if sprWe i && sel s i then sprDatO i else old

def next (s : State) (i : In) : State where
  srReg :=
    if i.rst then 0b01#2 ++ 0#1 ++ 0#13 ++ 1#1
    else if i.exceptStarted then toSr s i
    else if srWe s i then toSr s i
    else s.srReg
  srRegBitEph :=
    if i.rst then false
    else if s.srRegBitEphSelect then i.bootAdrSelI
    else if srWe s i then (toSr s i).getLsbD srEph
    else s.srRegBitEph
  srRegBitEphSelect :=
    if i.rst then true else false
  spReg0 := spReg 0 spReg0Sel s.spReg0 s i
  spReg1 := spReg 2000 spReg1Sel s.spReg1 s i
  spReg2 := spReg 0 spReg2Sel s.spReg2 s i
  spReg3 := spReg 0 spReg3Sel s.spReg3 s i
  spReg4 := spReg 0 spReg4Sel s.spReg4 s i
  spReg6 := spReg 0 spReg6Sel s.spReg6 s i
  spReg7 :=
    if i.rst then 0 else if i.spAssertionViolated then i.sprDatPpc else s.spReg7

/-! ## Decoding -/

theorem fill_getLsbD (b : Bool) {n : ℕ} (hn : n < 32) : (fill b).getLsbD n = b := by
  cases b with
  | false => simp [fill]
  | true => rw [fill, if_pos rfl, BitVec.getLsbD_allOnes, decide_eq_true hn]

@[simp] theorem and_fill_true (x : BitVec 32) : x &&& fill true = x := BitVec.and_allOnes

@[simp] theorem and_fill_false (x : BitVec 32) : x &&& fill false = 0#32 := BitVec.and_zero

/-- A unit is selected by its group, for a read, for a write in supervisor mode, and
by the debug unit. -/
theorem sprCs_getLsbD (s : State) (i : In) {n : ℕ} (hn : n < 32) :
    (sprCs s i).getLsbD n =
      (decide ((sprGroup (sprAddr i)).toNat = n) &&
        (i.duRead || i.duWrite || i.exSprRead ||
          (i.exSprWrite && ((sr s i).getLsbD srSm || sprGroup (sprAddr i) == 7#5)))) := by
  have hone : (1#32).getLsbD (n - (sprGroup (sprAddr i)).toNat) =
      decide (n - (sprGroup (sprAddr i)).toNat = 0) := by
    simp [BitVec.getLsbD_one]
  have hgroup : (unqualifiedCs i).getLsbD n =
      decide ((sprGroup (sprAddr i)).toNat = n) := by
    rw [unqualifiedCs, BitVec.getLsbD_shiftLeft, hone, Bool.eq_iff_iff]
    simp only [Bool.and_eq_true, decide_eq_true_eq, Bool.not_eq_true', decide_eq_false_iff_not]
    omega
  rw [sprCs, BitVec.getLsbD_and, hgroup, fill_getLsbD _ hn]

/-- A write without the debug unit selects a system register when its address is
the one of the register and the mode is the supervisor's. -/
theorem ofsSel_sys_iff {s : State} {i : In} (hdu : duAccess i = false)
    (hread : i.exSprRead = false) (hwrite : i.exSprWrite = true) (ofs : BitVec 11) :
    ofsSel sprGroupSys ofs s i = true ↔
      (sprGroup (sprAddr i) = 0#5 ∧ sprOfs (sprAddr i) = ofs) ∧
        (sr s i).getLsbD srSm = true := by
  rw [duAccess, Bool.or_eq_false_iff] at hdu
  obtain ⟨hduRead, hduWrite⟩ := hdu
  have hgroup : (sprGroup (sprAddr i)).toNat = sprGroupSys ↔ sprGroup (sprAddr i) = 0#5 := by
    rw [← BitVec.toNat_inj]
    rfl
  rw [ofsSel, sprCs_getLsbD s i (by decide), hduRead, hduWrite, hread, hwrite]
  simp only [Bool.false_or, Bool.true_and, Bool.and_eq_true, Bool.or_eq_true, decide_eq_true_eq,
    beq_iff_eq, hgroup]
  constructor
  · rintro ⟨⟨hg, hsm | hpc⟩, hofs⟩
    · exact ⟨⟨hg, hofs⟩, hsm⟩
    · rw [hg] at hpc
      exact absurd hpc (by decide)
  · rintro ⟨⟨hg, hofs⟩, hsm⟩
    exact ⟨⟨hg, Or.inl hsm⟩, hofs⟩

theorem toWbmux_eq_sysData {s : State} {i : In}
    (h : sprGroup (sprAddr i) = 0#5 ∨ sprGroup (sprAddr i) = 7#5) :
    toWbmux s i = sysData s i := by
  rcases h with hgroup | hgroup
  · rw [toWbmux, hgroup]
    rfl
  · rw [toWbmux, hgroup]
    rfl

/-- The sources of such a read, by the groups selected and the offset. -/
theorem sysData_eq {s : State} {i : In} {sys pc : Bool} {ofs : BitVec 11}
    (hsys : (sprCs s i).getLsbD sprGroupSys = sys) (hpc : (sprCs s i).getLsbD sprGroupPc = pc)
    (hofs : sprOfs (sprAddr i) = ofs) :
    sysData s i =
      (i.sprDatCfgr &&& fill (sys && ofs.extractLsb' 4 7 == sprCfgr)) |||
      (i.spEsrGhost.setWidth 32 &&& fill (sys && ofs == sprEsr + 1)) |||
      (i.spEpcrGhost &&& fill (sys && ofs == sprEpcr + 1)) |||
      (i.spEearGhost &&& fill (sys && ofs == sprEear + 1)) |||
      (s.spReg0 &&& fill (pc && ofs == pcPccr0)) |||
      (s.spReg4 &&& fill (pc && ofs == pcPccr4)) |||
      (s.spReg1 &&& fill (pc && ofs == pcPccr1)) |||
      (s.spReg2 &&& fill (pc && ofs == pcPccr2)) |||
      (s.spReg3 &&& fill (pc && ofs == pcPccr3)) |||
      (i.spAssertionsViolated &&& fill (pc && ofs == pcPccr5)) |||
      (s.spReg6 &&& fill (pc && ofs == pcPccr6)) |||
      (s.spReg7 &&& fill (pc && ofs == pcPccr7)) |||
      (i.sprDatRf &&& fill (sys && ofs.extractLsb' 5 6 == sprRf)) |||
      (i.sprDatNpc &&& fill (sys && ofs == sprNpc)) |||
      (i.sprDatPpc &&& fill (sys && ofs == sprPpc)) |||
      ((sr s i).setWidth 32 &&& fill (sys && ofs == sprSr)) |||
      (i.epcr &&& fill (sys && ofs == sprEpcr)) |||
      (i.eear &&& fill (sys && ofs == sprEear)) |||
      (i.fpcsr.setWidth 32 &&& fill (sys && ofs == sprFpcsr)) |||
      (i.esr.setWidth 32 &&& fill (sys && ofs == sprEsr)) := by
  have hcfgr : (sprAddr i).extractLsb' 4 7 = ofs.extractLsb' 4 7 := by
    rw [← hofs, sprOfs, BitVec.extractLsb'_extractLsb'_of_le (by decide)]
  have hrf : (sprAddr i).extractLsb' 5 6 = ofs.extractLsb' 5 6 := by
    rw [← hofs, sprOfs, BitVec.extractLsb'_extractLsb'_of_le (by decide)]
  simp only [sysData, cfgrSel, rfSel, spEsrGhostSel, spEpcrGhostSel, spEearGhostSel, spReg0Sel,
    spReg1Sel, spReg2Sel, spReg3Sel, spReg4Sel, spReg5Sel, spReg6Sel, spReg7Sel, npcSel, ppcSel,
    srSel, epcrSel, eearSel, fpcsrSel, esrSel, ofsSel, hsys, hpc, hofs, hcfgr, hrf]

/-! ## The new value of SR -/

/-- The writers of single bits, which go before `l.mtspr`. -/
def flagWriter (i : In) (n : ℕ) : Option Bool :=
  if n = srF then (if i.flagWe then some i.flagforw else none)
  else if n = srCy then (if i.cyWe then some i.cyforw else none)
  else if n = srOv then (if i.ovWe then some i.ovforw else none)
  else none

/-- A bit of what is written into SR when no exception starts. -/
def writtenBit (s : State) (i : In) (n : ℕ) : Bool :=
  if isRfe i then (restored i).getLsbD n
  else (flagWriter i n).getD
    (if sprWe i && srSel s i then n == srFo || (sprDatO i).getLsbD n
    else (sr s i).getLsbD n)

/-- The bits of `to_sr` by slices, in all cycles. -/
theorem toSr_getLsbD_slice (s : State) (i : In) {n : ℕ} (hn : n < 17) :
    (toSr s i).getLsbD n =
      if n < 9 then (toSrCeSm s i).getLsbD n
      else if n = 9 then toSrF s i
      else if n = 10 then toSrCy s i
      else if n = 11 then toSrOv s i
      else if n < 16 then (toSrFoOve s i).getLsbD (n - 12)
      else toSrTed s i := by
  have hwidth : 1 + 4 + 1 + 1 + 1 + 9 = 17 := rfl
  have hcast : toSr s i = BitVec.cast hwidth
      (BitVec.ofBool (toSrTed s i) ++ toSrFoOve s i ++ BitVec.ofBool (toSrOv s i) ++
        BitVec.ofBool (toSrCy s i) ++ BitVec.ofBool (toSrF s i) ++ toSrCeSm s i) := rfl
  rw [hcast, BitVec.getLsbD_cast]
  simp only [BitVec.getLsbD_append, BitVec.getLsbD_ofBool]
  by_cases h₉ : n < 9
  · rw [if_pos h₉, if_pos h₉]
  · obtain rfl | rfl | rfl | ⟨k, hk, rfl⟩ | rfl :
        n = 9 ∨ n = 10 ∨ n = 11 ∨ (∃ k, k < 4 ∧ n = 12 + k) ∨ n = 16 := by
      by_cases h₁₂ : n < 12
      · omega
      · by_cases h₁₆ : n < 16
        · exact Or.inr (Or.inr (Or.inr (Or.inl ⟨n - 12, by omega, by omega⟩)))
        · omega
    · simp
    · simp
    · simp
    · -- Past the nine low bits and three single ones, the offset in the field is `k`.
      have hskip₉ : ¬12 + k < 9 := by omega
      have hskip₁₀ : ¬12 + k - 9 < 1 := by omega
      have hskip₁₁ : ¬12 + k - 9 - 1 < 1 := by omega
      have hskip₁₂ : ¬12 + k - 9 - 1 - 1 < 1 := by omega
      have hofs : 12 + k - 9 - 1 - 1 - 1 = k := by omega
      have hne₉ : ¬12 + k = 9 := by omega
      have hne₁₀ : ¬12 + k = 10 := by omega
      have hne₁₁ : ¬12 + k = 11 := by omega
      have hlt : 12 + k < 16 := by omega
      simp [hskip₉, hskip₁₀, hskip₁₁, hskip₁₂, hofs, hk, hne₉, hne₁₀, hne₁₁, hlt]
    · simp

theorem flagWriter_of_ne (i : In) {n : ℕ} (hf : n ≠ srF) (hcy : n ≠ srCy) (hov : n ≠ srOv) :
    flagWriter i n = none := by
  simp [flagWriter, hf, hcy, hov]

section Bits

variable {s : State} {i : In} (hexc : i.exceptStarted = false)
include hexc

theorem toSrCeSm_getLsbD {k : ℕ} (hk : k < 9) : (toSrCeSm s i).getLsbD k = writtenBit s i k := by
  have hnone : flagWriter i k = none := by
    apply flagWriter_of_ne
    · exact (hk.trans_le (by decide : 9 ≤ srF)).ne
    · exact (hk.trans (by decide : 9 < srCy)).ne
    · exact (hk.trans (by decide : 9 < srOv)).ne
  have hfo : (k == srFo) = false := by
    apply beq_eq_false_iff_ne.mpr
    exact (hk.trans (by decide : 9 < srFo)).ne
  rw [toSrCeSm, writtenBit, hexc, hnone, hfo]
  cases isRfe i <;> cases sprWe i && srSel s i <;> simp [hk]

theorem toSrFlag_eq {bit : ℕ} {we forw : In → Bool} (hfo : bit ≠ srFo)
    (hwriter : flagWriter i bit = if we i then some (forw i) else none) :
    toSrFlag bit we forw s i = writtenBit s i bit := by
  rw [toSrFlag, writtenBit, hexc, hwriter, beq_eq_false_iff_ne.mpr hfo]
  cases isRfe i <;> cases we i <;> simp

theorem toSrFoOve_getLsbD {k : ℕ} (hk : k < 4) :
    (toSrFoOve s i).getLsbD k = writtenBit s i (12 + k) := by
  have hle : 12 ≤ 12 + k := Nat.le_add_right 12 k
  have hnone : flagWriter i (12 + k) = none := by
    apply flagWriter_of_ne
    · exact ((by decide : srF < 12).trans_le hle).ne'
    · exact ((by decide : srCy < 12).trans_le hle).ne'
    · exact ((by decide : srOv < 12).trans_le hle).ne'
  rw [toSrFoOve, writtenBit, hexc, hnone]
  cases isRfe i
  · cases sprWe i && srSel s i
    · simp [hk]
    · -- The top bit of the field is FO, which `l.mtspr` sets.
      simp only [Bool.false_eq_true, if_false, if_true, Option.getD_none, BitVec.getLsbD_append,
        BitVec.getLsbD_extractLsb']
      obtain hlt | rfl : k < 3 ∨ k = 3 := by omega
      · have hne : ¬12 + k = 15 := by omega
        simp [hlt, hne]
      · simp
  · simp [hk]

theorem toSrTed_eq : toSrTed s i = writtenBit s i srTed := by
  have hnone : flagWriter i srTed = none := rfl
  have hfo : (srTed == srFo) = false := rfl
  rw [toSrTed, writtenBit, hexc, hnone, hfo]
  cases isRfe i <;> simp

theorem toSr_getLsbD {n : ℕ} (hn : n < 17) : (toSr s i).getLsbD n = writtenBit s i n := by
  rw [toSr_getLsbD_slice s i hn]
  split
  · next h₉ => exact toSrCeSm_getLsbD hexc h₉
  · split
    · next h => exact h ▸ toSrFlag_eq hexc (by decide) rfl
    · split
      · next h => exact h ▸ toSrFlag_eq hexc (by decide) rfl
      · split
        · next h => exact h ▸ toSrFlag_eq hexc (by decide) rfl
        · split
          · next h₉ _ _ _ h₁₆ =>
              have hofs : 12 + (n - 12) = n := by omega
              have hlt : n - 12 < 4 := by omega
              rw [toSrFoOve_getLsbD hexc hlt, hofs]
          · obtain rfl : n = 16 := by omega
            exact toSrTed_eq hexc

end Bits

/-! ## SR after a clock edge -/

theorem withEph_getLsbD (x : BitVec 17) (eph : Bool) {n : ℕ} (hn : n < 17) :
    (withEph x eph).getLsbD n = if n = srEph then eph else x.getLsbD n := by
  have hcast : withEph x eph = BitVec.cast (rfl : 2 + 1 + 14 = 17)
      (x.extractLsb' 15 2 ++ BitVec.ofBool eph ++ x.extractLsb' 0 14) := rfl
  rw [hcast, BitVec.getLsbD_cast]
  simp only [BitVec.getLsbD_append, BitVec.getLsbD_ofBool, BitVec.getLsbD_extractLsb']
  obtain hlo | rfl | ⟨k, hk, rfl⟩ : n < 14 ∨ n = 14 ∨ ∃ k, k < 2 ∧ n = 15 + k := by
    by_cases h : n < 15
    · omega
    · exact Or.inr (Or.inr ⟨n - 15, by omega, by omega⟩)
  · have hne : n ≠ srEph := hlo.ne
    simp [hlo, hne]
  · simp
  · have hne : 15 + k ≠ srEph := (Nat.lt_add_right k (by decide : srEph < 15)).ne'
    have hskip₁₄ : ¬15 + k < 14 := by omega
    have hskip₁₅ : ¬15 + k - 14 < 1 := by omega
    have hofs : 15 + k - 14 - 1 = k := by omega
    simp [hne, hskip₁₄, hskip₁₅, hofs, hk]

section Edge

variable {s : State} {i : In} (hrst : i.rst = false) (hexc : i.exceptStarted = false)
include hrst hexc

theorem sr_next_of_not_srWe (hwe : srWe s i = false) (i' : In) : sr (next s i) i' = sr s i := by
  simp only [sr, srRegBitEphMuxed, next, hrst, hexc, hwe, Bool.false_eq_true, if_false]

/-- The EPH bit follows the boot address select in the cycle after a reset. -/
theorem sr_next_getLsbD_of_srWe (hwe : srWe s i = true) (i' : In) {n : ℕ} (hn : n < 17) :
    (sr (next s i) i').getLsbD n =
      if n = srEph then (if s.srRegBitEphSelect then i.bootAdrSelI else writtenBit s i srEph)
      else writtenBit s i n := by
  rw [sr, withEph_getLsbD _ _ hn]
  simp only [srRegBitEphMuxed, next, hrst, hexc, hwe, Bool.false_eq_true, if_false, if_true]
  rw [toSr_getLsbD hexc hn, toSr_getLsbD hexc (by decide : srEph < 17)]

/-- A write keeps SR exactly when every bit written is the bit of SR.  The EPH bit
does not take part in the cycle after a reset. -/
theorem sr_next_eq_iff_of_srWe (hwe : srWe s i = true) (i' : In) :
    sr (next s i) i' = sr s i ↔
      ∀ n < 17, (n = srEph → s.srRegBitEphSelect = false) →
        writtenBit s i n = (sr s i).getLsbD n := by
  have hbit : ∀ n < 17, (sr (next s i) i').getLsbD n =
      if n = srEph then (if s.srRegBitEphSelect then i.bootAdrSelI else writtenBit s i srEph)
      else writtenBit s i n := by
    intro n hn
    exact sr_next_getLsbD_of_srWe hrst hexc hwe i' hn
  have heph : s.srRegBitEphSelect = true → (sr s i).getLsbD srEph = i.bootAdrSelI := by
    intro hselect
    rw [sr, withEph_getLsbD _ _ (by decide), if_pos rfl, srRegBitEphMuxed, if_pos hselect]
  constructor
  · intro hsame n hn hsel
    rw [← hsame, hbit n hn]
    by_cases hn' : n = srEph
    · rw [if_pos hn', hsel hn', if_neg Bool.false_ne_true, hn']
    · rw [if_neg hn']
  · intro hall
    apply BitVec.eq_of_getLsbD_eq
    intro n hn
    rw [hbit n hn]
    by_cases hn' : n = srEph
    · rw [if_pos hn', hn']
      cases hselect : s.srRegBitEphSelect with
      | true => exact (heph hselect).symm
      | false => exact hall srEph (by decide) fun _ ↦ hselect
    · rw [if_neg hn']
      apply hall n hn
      intro h
      exact absurd h hn'

/-- `l.rfe` restores all of SR, once the cycle after a reset is over. -/
theorem sr_next_of_rfe (hwe : srWe s i = true) (hop : i.branchOp = branchopRfe)
    (hselect : s.srRegBitEphSelect = false) (i' : In) : sr (next s i) i' = restored i := by
  have hrfe : isRfe i = true := beq_iff_eq.mpr hop
  apply BitVec.eq_of_getLsbD_eq
  intro n hn
  rw [sr_next_getLsbD_of_srWe hrst hexc hwe i' hn, hselect, writtenBit, writtenBit, hrfe]
  by_cases hn' : n = srEph
  · rw [if_pos hn', hn']
    rfl
  · rw [if_neg hn']
    rfl

end Edge

theorem sr_getLsbD_sm (s : State) (i : In) : (sr s i).getLsbD srSm = s.srReg.getLsbD srSm := by
  rw [sr, withEph_getLsbD _ _ (by decide), if_neg (by decide)]

theorem toSr_getLsbD_sm (s : State) (i : In) :
    (toSr s i).getLsbD srSm =
      if i.exceptStarted then true
      else if isRfe i then (restored i).getLsbD srSm
      else if sprWe i && srSel s i then (sprDatO i).getLsbD srSm
      else (sr s i).getLsbD srSm := by
  rw [toSr_getLsbD_slice s i (by decide)]
  change (toSrCeSm s i).getLsbD srSm = _
  rw [toSrCeSm]
  split
  · simp only [BitVec.getLsbD_append]
    simp
  · split
    · simp
    · split <;> simp

/-- Supervisor mode begins with an exception and lasts until `l.rfe` or a write of SR. -/
theorem supervisor_next {s : State} {i : In} (hrst : i.rst = false)
    (h : i.exceptStarted = true ∨
      ((sr s i).getLsbD srSm = true ∧ isRfe i = false ∧ (sprWe i && srSel s i) = false))
    (i' : In) : (sr (next s i) i').getLsbD srSm = true := by
  have hto : (toSr s i).getLsbD srSm = true := by
    rw [toSr_getLsbD_sm]
    rcases h with hexc | ⟨hsm, hrfe, hsel⟩
    · rw [hexc]
      rfl
    · rw [hrfe, hsel, hsm]
      split <;> rfl
  rw [sr_getLsbD_sm, next]
  simp only [hrst, Bool.false_eq_true, if_false]
  split
  · exact hto
  · next hnot =>
      split
      · exact hto
      · rcases h with hexc | ⟨hsm, -, -⟩
        · exact absurd hexc hnot
        · rwa [sr_getLsbD_sm] at hsm

end Specs.Or1200.Sprs
