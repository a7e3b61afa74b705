import Specs.Or1200.Datapath
import Specs.Or1200.Evaluate
import Specs.Or1200.Forwarding
import Specs.Or1200.Machine
import Specs.Sync.Simulation

/-!
# The pipeline and the sequential machine

Seen through the instructions that leave EX, the pipeline executes them one after the
other: the general registers, the carry and the flag are those of the sequential machine.
The flag runs ahead while a comparison waits in EX.
-/

namespace Specs.Or1200

/-! ## Decoding -/

namespace Isa

open Operands

/-- What the pipeline expects of an instruction word: no reserved bit, an operation of the
architecture where the ALU has to give the result, and another target than `r0`. -/
structure Suitable (insn : BitVec 32) : Prop where
  reserved : Execute.Reserved insn
  known : opcode insn ∈ aluOpcodes → (operation insn).isSome = true
  target : (decodeRfwbOp (opcode insn)).getLsbD 0 = true → decodeRfAddrw insn ≠ 0#5

instance (insn : BitVec 32) : Decidable (Suitable insn) :=
  decidable_of_iff (Execute.Reserved insn ∧
      (opcode insn ∈ aluOpcodes → (operation insn).isSome = true) ∧
      ((decodeRfwbOp (opcode insn)).getLsbD 0 = true → decodeRfAddrw insn ≠ 0#5))
    ⟨fun h ↦ ⟨h.1, h.2.1, h.2.2⟩, fun h ↦ ⟨h.1, h.2, h.3⟩⟩

theorem Suitable.not_mem_of_none {insn : BitVec 32} (h : Suitable insn)
    (hop : operation insn = none) : opcode insn ∉ aluOpcodes := by
  intro halu
  have hknown := h.known halu
  rw [hop] at hknown
  exact absurd hknown Bool.false_ne_true

theorem suitable_voidInsn : Suitable Ctrl.voidInsn := by decide

theorem operation_voidInsn : operation Ctrl.voidInsn = none := by decide

theorem opcode_of_operation {insn : BitVec 32} {op : Operation} (h : operation insn = some op) :
    opcode insn ∈ aluOpcodes := by
  by_contra hnot
  simp only [aluOpcodes, List.mem_cons, List.not_mem_nil, or_false, not_or] at hnot
  obtain ⟨hmovhi, haddi, haddic, handi, hori, hxori, hmuli, hshroti, halu⟩ := hnot
  rw [operation, if_neg haddi, if_neg haddic, if_neg handi, if_neg hori, if_neg hxori,
    if_neg hmuli, if_neg hmovhi, if_neg hshroti, if_neg halu] at h
  cases h

theorem getLsbD_opcode (insn : BitVec 32) {k : ℕ} (hk : k < 6) :
    (opcode insn).getLsbD k = insn.getLsbD (26 + k) := by
  rw [opcode, BitVec.getLsbD_extractLsb', decide_eq_true hk, Bool.true_and]

theorem readsA_of_opcode {insn : BitVec 32} (h : (opcode insn).getLsbD 5 = true) :
    readsA insn = true := by
  rw [getLsbD_opcode insn (by decide)] at h
  rw [readsA, h, Bool.true_or]

theorem readsB_of_opcode {insn : BitVec 32} (h : (opcode insn).getLsbD 4 = true) :
    readsB insn = true := by
  rwa [getLsbD_opcode insn (by decide)] at h

/-- Of the instructions with a result from the ALU, only `l.movhi` does without operand A. -/
theorem readsA_of_operation {insn : BitVec 32} {op : Operation}
    (h : operation insn = some op) (hop : op ≠ .movhi) : readsA insn = true := by
  apply readsA_of_opcode
  have hmem := opcode_of_operation h
  have hne : opcode insn ≠ or32Movhi := by
    intro hmovhi
    rw [operation, hmovhi] at h
    revert h
    simp only [show or32Movhi ≠ or32Addi by decide, show or32Movhi ≠ or32Addic by decide,
      show or32Movhi ≠ or32Andi by decide, show or32Movhi ≠ or32Ori by decide,
      show or32Movhi ≠ or32Xori by decide, show or32Movhi ≠ or32Muli by decide, if_false, if_true]
    split
    · intro h
      cases h
    · intro h
      exact hop (Option.some.inj h).symm
  have hall : ∀ code ∈ aluOpcodes, code ≠ or32Movhi → code.getLsbD 5 = true := by decide
  exact hall _ hmem hne

/-- Operand B is a register only for an instruction that reads one. -/
theorem readsB_of_operation {insn : BitVec 32} {op : Operation}
    (h : operation insn = some op) (hregister : opcode insn ∈ registerOpcodes) :
    readsB insn = true := by
  apply readsB_of_opcode
  have hall : ∀ code ∈ aluOpcodes, code ∈ registerOpcodes → code.getLsbD 4 = true := by decide
  exact hall _ (opcode_of_operation h) hregister

/-- An instruction with an operation is not a comparison. -/
theorem setsFlag_of_operation {insn : BitVec 32} {op : Operation}
    (h : operation insn = some op) : setsFlag insn = false := by
  have hmem := opcode_of_operation h
  rw [setsFlag, Bool.or_eq_false_iff, beq_eq_false_iff_ne, beq_eq_false_iff_ne]
  constructor
  · intro hsf
    rw [hsf] at hmem
    exact absurd hmem (by decide)
  · intro hsf
    rw [hsf] at hmem
    exact absurd hmem (by decide)

/-- Both kinds of comparisons read what they compare. -/
theorem reads_of_setsFlag {insn : BitVec 32} (h : setsFlag insn = true) :
    readsA insn = true ∧ (opcode insn ∈ registerOpcodes → readsB insn = true) := by
  rw [setsFlag, Bool.or_eq_true, beq_iff_eq, beq_iff_eq] at h
  rcases h with hop | hop
  · refine ⟨readsA_of_opcode (by rw [hop]; decide), fun _ ↦ readsB_of_opcode ?_⟩
    rw [hop]
    decide
  · refine ⟨readsA_of_opcode (by rw [hop]; decide), fun hregister ↦ ?_⟩
    rw [hop] at hregister
    exact absurd hregister (by decide)

theorem setsFlag_iff (insn : BitVec 32) :
    setsFlag insn = true ↔ Execute.decodeAluOp insn = aluopComp := by
  rw [setsFlag, Bool.or_eq_true, beq_iff_eq, beq_iff_eq]
  constructor
  · rintro (hop | hop)
    · rw [Execute.decodeAluOp, hop]
      rfl
    · rw [Execute.decodeAluOp, hop]
      rfl
  · intro h
    by_contra hnot
    obtain ⟨hsf, hsfi⟩ := not_or.mp hnot
    have hfield : ∀ field : BitVec 4, 0#1 ++ field ≠ aluopComp := by decide
    by_cases halu : opcode insn = or32Alu
    · rw [Execute.decodeAluOp, halu] at h
      exact hfield _ h
    · rw [Execute.decodeAluOp, if_neg hsf, if_neg hsfi, if_neg halu] at h
      repeat' split at h
      all_goals exact absurd h (by decide)

theorem decodeAluOp_of_not_mem {insn : BitVec 32} (h : opcode insn ∉ aluOpcodes) :
    Execute.decodeAluOp insn = aluopComp ∨ Execute.decodeAluOp insn = aluopNop := by
  simp only [aluOpcodes, List.mem_cons, List.not_mem_nil, or_false, not_or] at h
  obtain ⟨hmovhi, haddi, haddic, handi, hori, hxori, hmuli, hshroti, halu⟩ := h
  rw [Execute.decodeAluOp, if_neg hmovhi, if_neg haddi, if_neg haddic, if_neg handi, if_neg hori,
    if_neg hxori, if_neg hmuli, if_neg hshroti, if_neg halu]
  split
  · exact Or.inl rfl
  · split
    · exact Or.inl rfl
    · exact Or.inr rfl

theorem Machine.execute_of_nop {r : Retired} (h : opcode r.insn = or32Nop) (m : Machine) :
    m.execute r = m := by
  have hnone : operation r.insn = none := by
    rw [operation, h]
    rfl
  have hvalue : value m r = none := by
    rw [value, hnone, h]
    rfl
  have hsets : setsFlag r.insn = false := by
    rw [setsFlag, h]
    rfl
  rw [Machine.execute, hvalue, hnone, hsets]
  rfl

end Isa

/-! ## Flags -/

namespace Alu

theorem below_eq_true_iff (i : In) (v w : BitVec 32) :
    Isa.below (i.compOp.getLsbD 3) v w = true ↔ Below i v w := by
  rw [Isa.below, Below]
  split <;> exact decide_eq_true_iff

theorem compOp_cases (op : BitVec 3) : op = 0b000#3 ∨ op = 0b001#3 ∨ op = 0b010#3 ∨
    op = 0b011#3 ∨ op = 0b100#3 ∨ op = 0b101#3 ∨ op = 0b110#3 ∨ op = 0b111#3 := by
  revert op
  decide

section

variable {i : In} {insn : BitVec 32} (hcomp : i.compOp = insn.extractLsb' 21 4)
include hcomp

theorem compOp_three : insn.getLsbD 24 = i.compOp.getLsbD 3 := by
  rw [hcomp, BitVec.getLsbD_extractLsb']
  rfl

theorem flagforw_eq_condition : flagforw i = Isa.condition insn i.a i.b := by
  have hfield : insn.extractLsb' 21 3 = i.compOp.extractLsb' 0 3 := by
    rw [hcomp]
    apply BitVec.eq_of_getLsbD_eq
    intro k hk
    have hk' : k < 4 := hk.trans (by decide)
    simp only [BitVec.getLsbD_extractLsb', hk, hk', decide_true, Bool.true_and, Nat.zero_add]
  have hbelow : ∀ v w, Isa.below (insn.getLsbD 24) v w = true ↔ Below i v w := by
    intro v w
    rw [compOp_three hcomp]
    exact below_eq_true_iff i v w
  have hnot : ∀ v w, ¬Below i v w ↔ (!Isa.below (insn.getLsbD 24) v w) = true := by
    intro v w
    rw [← hbelow, Bool.not_eq_true, Bool.not_eq_true']
  rw [Bool.eq_iff_iff, flagforw_eq_true_iff, Holds, Isa.condition, hfield]
  rcases compOp_cases (i.compOp.extractLsb' 0 3) with
    hop | hop | hop | hop | hop | hop | hop | hop
  · rw [hop]
    exact beq_iff_eq.symm
  · rw [hop]
    exact bne_iff_ne.symm
  · rw [hop]
    exact (hbelow i.b i.a).symm
  · rw [hop]
    exact hnot i.a i.b
  · rw [hop]
    exact (hbelow i.a i.b).symm
  · rw [hop]
    exact hnot i.b i.a
  · rw [hop]
    exact iff_of_false id Bool.false_ne_true
  · rw [hop]
    exact iff_of_false id Bool.false_ne_true

/-- The carry that an operation leaves. -/
theorem carry_eq_carryOf {op : Isa.Operation} (haluOp : i.aluOp = op.aluOp) :
    (if cyWe i then cyforw i else i.carry) = Isa.carryOf insn i.a i.b i.carry op := by
  cases op with
  | add =>
      have hwe : cyWe i = true := by rw [cyWe, haluOp]; rfl
      have hcarry : carryVal i = 0 := by rw [carryVal, haluOp]; rfl
      rw [if_pos hwe, Bool.eq_iff_iff, cyforw_of_add (Or.inl haluOp), hcarry]
      exact decide_eq_true_iff.symm
  | addc =>
      have hwe : cyWe i = true := by rw [cyWe, haluOp]; rfl
      have hcarry : carryVal i = i.carry.toNat := by rw [carryVal, haluOp]; rfl
      rw [if_pos hwe, Bool.eq_iff_iff, cyforw_of_add (Or.inr haluOp), hcarry]
      exact decide_eq_true_iff.symm
  | sub =>
      have hwe : cyWe i = true := by rw [cyWe, haluOp]; rfl
      rw [if_pos hwe, Bool.eq_iff_iff, cyforw_of_sub haluOp, Isa.carryOf, compOp_three hcomp,
        below_eq_true_iff]
  | _ =>
      have hwe : cyWe i = false := by rw [cyWe, haluOp]; rfl
      rw [hwe]
      rfl

end

end Alu

/-! ## SR -/

namespace Sprs

section

variable {s : State} {i : In}

theorem sr_getLsbD {n : ℕ} (hn : n < 17) (heph : n ≠ srEph) :
    (sr s i).getLsbD n = s.srReg.getLsbD n := by
  rw [sr, withEph_getLsbD _ _ hn, if_neg heph]

/-- A bit with a writer of its own, in a cycle without other writers. -/
theorem srReg_next_of_flagWriter (hrst : i.rst = false) (hexc : i.exceptStarted = false)
    (hrfe : i.branchOp ≠ branchopRfe) (hkeeps : (sprWe i && srSel s i) = false) {n : ℕ}
    (hn : n < 17) (heph : n ≠ srEph) (hwriter : (flagWriter i n).isSome = true → srWe s i = true) :
    (next s i).srReg.getLsbD n = (flagWriter i n).getD (s.srReg.getLsbD n) := by
  rw [← sr_getLsbD (s := next s i) (i := i) hn heph]
  cases hwe : srWe s i with
  | false =>
      have hnone : flagWriter i n = none := by
        rw [← Option.not_isSome_iff_eq_none]
        intro hsome
        exact absurd (hwe.symm.trans (hwriter hsome)) Bool.false_ne_true
      rw [sr_next_of_not_srWe hrst hexc hwe, hnone, sr_getLsbD hn heph]
      rfl
  | true =>
      have hnot : isRfe i = false := beq_eq_false_iff_ne.mpr hrfe
      rw [sr_next_getLsbD_of_srWe hrst hexc hwe i hn, if_neg heph, writtenBit, hnot, hkeeps,
        if_neg Bool.false_ne_true, if_neg Bool.false_ne_true, sr_getLsbD hn heph]

theorem srReg_next_flag (hrst : i.rst = false) (hexc : i.exceptStarted = false)
    (hrfe : i.branchOp ≠ branchopRfe) (hkeeps : (sprWe i && srSel s i) = false) :
    (next s i).srReg.getLsbD srF = if i.flagWe then i.flagforw else s.srReg.getLsbD srF := by
  have hwriter : flagWriter i srF = if i.flagWe then some i.flagforw else none := rfl
  rw [srReg_next_of_flagWriter hrst hexc hrfe hkeeps (by decide) (by decide), hwriter]
  · cases i.flagWe <;> rfl
  · rw [hwriter, srWe]
    cases i.flagWe <;> simp

theorem srReg_next_carry (hrst : i.rst = false) (hexc : i.exceptStarted = false)
    (hrfe : i.branchOp ≠ branchopRfe) (hkeeps : (sprWe i && srSel s i) = false) :
    (next s i).srReg.getLsbD srCy = if i.cyWe then i.cyforw else s.srReg.getLsbD srCy := by
  have hwriter : flagWriter i srCy = if i.cyWe then some i.cyforw else none := rfl
  rw [srReg_next_of_flagWriter hrst hexc hrfe hkeeps (by decide) (by decide), hwriter]
  · cases i.cyWe <;> rfl
  · rw [hwriter, srWe]
    cases i.cyWe <;> simp

end

end Sprs

theorem Rf.copies_next {s : State} (h : s.rfA.mem = s.rfB.mem) (i : In) :
    (next s i).rfA.mem = (next s i).rfB.mem := by
  simp only [next, mem_next_port, h]

namespace Datapath

open Specs.Sync

/-! ## The instruction in EX -/

/-- The registers of EX belong to the instruction in EX, whatever happens to it. -/
structure Consistent (s : State) : Prop where
  timed : Execute.Timed s.execute
  decoded : Execute.Decoded s.execute
  compOp : exInsn s ≠ Ctrl.voidInsn → s.execute.compOp = (exInsn s).extractLsb' 21 4
  rfwbOp : s.execute.operands.rfwbOp = Operands.decodeRfwbOp (opcode (exInsn s))
  rfAddrw : s.execute.operands.rfwbOp.getLsbD 0 = true →
    s.execute.operands.rfAddrw = Operands.decodeRfAddrw (exInsn s)
  current : Operands.Current (fun _ ↦ True) s.execute.operands
  idSuitable : Isa.Suitable (ctrl s).idInsn
  exSuitable : Isa.Suitable (exInsn s)

/-- What is assumed of a cycle: no reset, no exception, no access to SR or to the general
registers over the SPR bus, and no division of the kind that goes wrong.  A comparison is
not flushed once it has set the flag. -/
structure Plain (s : State) (i : In) : Prop where
  running : i.execute.rst = false
  suitable : Isa.Suitable i.execute.ifInsn
  undisturbed : Operands.Undisturbed (operandsIn s i)
  notStarted : i.sprs.exceptStarted = false
  notRfe : i.sprs.branchOp ≠ branchopRfe
  keepsSr : (Sprs.sprWe (sprsIn s i) && Sprs.srSel s.sprs (sprsIn s i)) = false
  keepsFlag : i.execute.flushpipe = true → exFreeze s i = true → Isa.setsFlag (exInsn s) = false
  divisible : exFreeze s i = false → Isa.operation (exInsn s) = some .divu →
    Execute.Divisible (operandA s) (operandB s) .divu

section

variable {s : State} {i : In}

instance (s : State) (i : In) : Decidable (Plain s i) :=
  decidable_of_iff
    ((i.execute.rst = false ∧ Isa.Suitable i.execute.ifInsn ∧
        Operands.Undisturbed (operandsIn s i)) ∧
      (i.sprs.exceptStarted = false ∧ i.sprs.branchOp ≠ branchopRfe ∧
        (Sprs.sprWe (sprsIn s i) && Sprs.srSel s.sprs (sprsIn s i)) = false) ∧
      (i.execute.flushpipe = true → exFreeze s i = true → Isa.setsFlag (exInsn s) = false) ∧
      (exFreeze s i = false → Isa.operation (exInsn s) = some .divu →
        Execute.Divisible (operandA s) (operandB s) .divu))
    ⟨fun h ↦ ⟨h.1.1, h.1.2.1, h.1.2.2, h.2.1.1, h.2.1.2.1, h.2.1.2.2, h.2.2.1, h.2.2.2⟩,
      fun h ↦ ⟨⟨h.1, h.2, h.3⟩, ⟨h.4, h.5, h.6⟩, h.7, h.8⟩⟩

theorem exInsn_next (s : State) (i : In) :
    exInsn (next s i) =
      Execute.latch Ctrl.voidInsn id s.execute (executeIn s i) (exInsn s) := rfl

theorem exInsn_next_cases (hrst : i.execute.rst = false) :
    exInsn (next s i) = Ctrl.voidInsn ∨
      (exFreeze s i = false ∧ exInsn (next s i) = (ctrl s).idInsn) ∨
        (exFreeze s i = true ∧ exInsn (next s i) = exInsn s) := by
  rcases Operands.exInsn_next_cases s.execute.operands (i := operandsIn s i) hrst with
    hvoid | ⟨henters, hinsn⟩ | ⟨hfrozen, hinsn⟩
  · exact Or.inl hvoid
  · exact Or.inr (Or.inl ⟨henters.2.1, hinsn⟩)
  · exact Or.inr (Or.inr ⟨hfrozen, hinsn⟩)

theorem consistent_next_of_rst (hrst : i.execute.rst = true)
    (hquiet : Operands.Undisturbed (operandsIn s i)) : Consistent (next s i) := by
  have hex : exInsn (next s i) = Ctrl.voidInsn := if_pos hrst
  have hid : (ctrl (next s i)).idInsn = Ctrl.voidInsn := if_pos hrst
  have hop : (next s i).execute.operands.rfwbOp = rfwbopNop := if_pos hrst
  constructor
  case timed => exact Execute.timed_next_of_rst s.execute hrst
  case decoded => exact Execute.decoded_next_of_rst s.execute hrst
  case compOp => exact fun hne ↦ absurd hex hne
  case rfwbOp =>
    rw [hex, hop]
    rfl
  case rfAddrw =>
    intro hwe
    rw [hop] at hwe
    exact absurd hwe (by decide)
  case current => exact Operands.current_next_of_rst hquiet hrst
  case idSuitable =>
    rw [hid]
    exact Isa.suitable_voidInsn
  case exSuitable =>
    rw [hex]
    exact Isa.suitable_voidInsn

theorem Consistent.notZero (h : Consistent s) (i : Operands.In) :
    ¬(Operands.exResult s.execute.operands i).IsForZero := by
  rintro ⟨hwe, haddr⟩
  have hwe' : s.execute.operands.rfwbOp.getLsbD 0 = true := hwe
  apply h.exSuitable.target
  · rw [← h.rfwbOp]
    exact hwe'
  · rw [← h.rfAddrw hwe']
    exact haddr

theorem Consistent.next (h : Consistent s) (hplain : Plain s i) : Consistent (next s i) := by
  have hcases := exInsn_next_cases (s := s) hplain.running
  have hop : (Datapath.next s i).execute.operands.rfwbOp =
      Operands.decodeRfwbOp (opcode (exInsn (Datapath.next s i))) :=
    @Execute.latch_decode _ _ _ (Operands.decodeRfwbOp ∘ opcode) _ _ rfl h.rfwbOp
  constructor
  case timed => exact h.timed.next h.idSuitable.reserved (executeIn s i)
  case decoded => exact h.decoded.next (executeIn s i)
  case compOp =>
    intro hne
    have hflush : i.execute.flushpipe = false := by
      rw [← Bool.not_eq_true]
      intro hflush
      exact hne ((exInsn_next s i).trans (Execute.latch_of_flushpipe hflush))
    rcases hcases with hvoid | ⟨hmoves, hinsn⟩ | ⟨hfrozen, hinsn⟩
    · exact absurd hvoid hne
    · rw [hinsn]
      exact Execute.latch_of_moves (i := executeIn s i) hplain.running hflush hmoves
    · rw [hinsn] at hne ⊢
      exact (Execute.latch_of_exFreeze (i := executeIn s i) hplain.running hflush hfrozen).trans
        (h.compOp hne)
  case rfwbOp => exact hop
  case rfAddrw =>
    intro hwe
    have haddr : (Datapath.next s i).execute.operands.rfAddrw =
        if !exFreeze s i && Operands.idFreeze (operandsIn s i) then 0#5
        else if !exFreeze s i then Operands.decodeRfAddrw (ctrl s).idInsn
        else s.execute.operands.rfAddrw :=
      if_neg (ne_true_of_eq_false hplain.running)
    rw [hop] at hwe
    rcases hcases with hvoid | ⟨hmoves, hinsn⟩ | ⟨hfrozen, hinsn⟩
    · rw [hvoid] at hwe
      exact absurd hwe (by decide)
    · have hid : Operands.idFreeze (operandsIn s i) = false := by
        rw [← Bool.not_eq_true]
        intro hid
        exact absurd ((Operands.exFreeze_of_idFreeze hid).symm.trans hmoves) (by decide)
      rw [haddr, hinsn, hmoves, hid]
      rfl
    · rw [haddr, hinsn, hfrozen]
      rw [hinsn, ← h.rfwbOp] at hwe
      exact h.rfAddrw hwe
  case current =>
    exact h.current.next hplain.undisturbed rfl fun _ ↦ h.notZero (operandsIn s i)
  case idSuitable =>
    have hinsn : (ctrl (Datapath.next s i)).idInsn = _ :=
      Operands.idInsn_next s.execute.operands (operandsIn s i)
    rw [hinsn]
    split
    · exact Isa.suitable_voidInsn
    · split
      · exact Isa.suitable_voidInsn
      · split
        · exact hplain.suitable
        · exact h.idSuitable
  case exSuitable =>
    rcases hcases with hvoid | ⟨-, hinsn⟩ | ⟨-, hinsn⟩
    · rw [hvoid]
      exact Isa.suitable_voidInsn
    · rw [hinsn]
      exact h.idSuitable
    · rw [hinsn]
      exact h.exSuitable

/-! ## Agreement -/

/-- The registers are those of the sequential machine.  A comparison in EX may have set the
flag already. -/
structure Agrees (s : State) (m : Isa.Machine) : Prop where
  regsA : s.execute.operands.rf.rfA.mem = m.regs
  regsB : s.execute.operands.rf.rfB.mem = m.regs
  carry : s.sprs.srReg.getLsbD srCy = m.carry
  flag : s.sprs.srReg.getLsbD srF = m.flag ∨
    (Isa.setsFlag (exInsn s) = true ∧
      s.sprs.srReg.getLsbD srF = Isa.condition (exInsn s) (operandA s) (operandB s))

/-- The instruction that leaves EX. -/
def leaving (s : State) (i : In) : Isa.Retired where
  insn := exInsn s
  pc := i.execute.exPc
  loaded := i.execute.lsuDataout
  special := Sprs.toWbmux s.sprs (sprsIn s i)

/-- The instructions that leave EX in a cycle, void ones apart. -/
def retired (s : State) (i : In) : List Isa.Retired :=
  if exFreeze s i || Ctrl.exVoid (ctrl s) then [] else [leaving s i]

variable {m : Isa.Machine}

theorem Agrees.sourceA (ha : Agrees s m) (h : Consistent s)
    (hreads : Operands.readsA (exInsn s) = true) : operandA s = Isa.sourceA m (exInsn s) := by
  rw [Isa.sourceA, ← ha.regsA]
  exact h.current.operandA hreads trivial

theorem Agrees.sourceB (ha : Agrees s m) (h : Consistent s)
    (hreads : opcode (exInsn s) ∈ Operands.registerOpcodes →
      Operands.readsB (exInsn s) = true) : operandB s = Isa.sourceB m (exInsn s) := by
  rw [Isa.sourceB, ← ha.regsB]
  split
  · next hregister => exact h.current.operandB (hreads hregister) hregister trivial
  · next himm => exact h.current.immediate himm

/-- `l.movhi` has no operand A. -/
theorem Agrees.sourceA_or (ha : Agrees s m) (h : Consistent s) {op : Isa.Operation}
    (hop : Isa.operation (exInsn s) = some op) :
    op = .movhi ∨ operandA s = Isa.sourceA m (exInsn s) := by
  by_cases hmovhi : op = .movhi
  · exact Or.inl hmovhi
  · exact Or.inr (ha.sourceA h (Isa.readsA_of_operation hop hmovhi))

theorem Agrees.flag_eq (ha : Agrees s m) (hnot : Isa.setsFlag (exInsn s) = false) :
    s.sprs.srReg.getLsbD srF = m.flag := by
  rcases ha.flag with hflag | ⟨hsets, -⟩
  · exact hflag
  · exact absurd (hnot.symm.trans hsets) Bool.false_ne_true

theorem Consistent.flagWe (h : Consistent s) (i : In) :
    Alu.flagWe (aluIn s i) = Isa.setsFlag (exInsn s) := by
  have haluOp : (aluIn s i).aluOp = Execute.decodeAluOp (exInsn s) := h.decoded.aluOp
  rw [Bool.eq_iff_iff, Isa.setsFlag_iff, Alu.flagWe, haluOp, beq_iff_eq]

theorem Consistent.flagforw (h : Consistent s) (i : In)
    (hsets : Isa.setsFlag (exInsn s) = true) :
    Alu.flagforw (aluIn s i) = Isa.condition (exInsn s) (operandA s) (operandB s) := by
  apply Alu.flagforw_eq_condition
  apply h.compOp
  intro hvoid
  rw [hvoid] at hsets
  exact absurd hsets (by decide)

theorem Consistent.mem_next (h : Consistent s) (hplain : Plain s i) (c : Dpram.State 5 32)
    (en : Bool) (addr : BitVec 5) :
    (Dpram.next c (Rf.port en addr s.execute.operands.rf
      (Operands.rfIn s.execute.operands (operandsIn s i)))).mem =
      if exFreeze s i then c.mem
      else Operands.commit (Operands.exResult s.execute.operands (operandsIn s i)) c.mem :=
  hplain.undisturbed.mem_next h.current.allowed c en addr

theorem Consistent.flag_next (h : Consistent s) (hplain : Plain s i) :
    (Datapath.next s i).sprs.srReg.getLsbD srF =
      if Isa.setsFlag (exInsn s) && !abortMvspr s i then
        Isa.condition (exInsn s) (operandA s) (operandB s)
      else s.sprs.srReg.getLsbD srF := by
  have hnext := Sprs.srReg_next_flag (s := s.sprs) (i := sprsIn s i) hplain.running
    hplain.notStarted hplain.notRfe hplain.keepsSr
  have hwe : (sprsIn s i).flagWe = (Isa.setsFlag (exInsn s) && !abortMvspr s i) := by
    rw [← h.flagWe i]
    rfl
  have hforw : (sprsIn s i).flagforw =
      (Isa.setsFlag (exInsn s) && Alu.flagforw (aluIn s i)) := by
    rw [← h.flagWe i]
    rfl
  refine hnext.trans ?_
  rw [hwe, hforw]
  cases hsets : Isa.setsFlag (exInsn s) with
  | false => rfl
  | true =>
      rw [h.flagforw i hsets, Bool.true_and, Bool.true_and]

/-- While EX is frozen, the sequential machine stands still. -/
theorem Agrees.next_of_frozen (ha : Agrees s m) (h : Consistent s) (hplain : Plain s i)
    (hfrozen : exFreeze s i = true) : Agrees (next s i) m where
  regsA := by
    have hmem : (next s i).execute.operands.rf.rfA.mem = _ := h.mem_next hplain _ _ _
    rw [hmem, if_pos hfrozen, ha.regsA]
  regsB := by
    have hmem : (next s i).execute.operands.rf.rfB.mem = _ := h.mem_next hplain _ _ _
    rw [hmem, if_pos hfrozen, ha.regsB]
  carry := by
    have hnext := Sprs.srReg_next_carry (s := s.sprs) (i := sprsIn s i) hplain.running
      hplain.notStarted hplain.notRfe hplain.keepsSr
    have hwe : (sprsIn s i).cyWe = false := by
      have hfreeze : (Operands.rfIn s.execute.operands
          (Execute.operandsIn s.execute (aluPorts s i))).wbFreeze = true := hfrozen
      change Rf.cyWeO _ _ = false
      rw [Rf.cyWeO, hfreeze, Bool.not_true, Bool.and_false, Bool.false_and]
    rw [hwe] at hnext
    exact hnext.trans ha.carry
  flag := by
    rw [h.flag_next hplain]
    cases hsets : Isa.setsFlag (exInsn s) with
    | false => exact Or.inl (ha.flag_eq hsets)
    | true =>
        -- The comparison stays, with its operands.
        have hflush : i.execute.flushpipe = false := by
          rw [← Bool.not_eq_true]
          intro hflush
          exact absurd (hsets.symm.trans (hplain.keepsFlag hflush hfrozen)) (by decide)
        have hinsn : exInsn (next s i) = exInsn s :=
          (exInsn_next s i).trans (Execute.latch_of_exFreeze hplain.running hflush hfrozen)
        obtain ⟨hopA, hopB⟩ := Execute.operands_next_of_exFreeze (i := executeIn s i)
          (s := s.execute) hplain.running hfrozen
        have hopA' : operandA (next s i) = operandA s := hopA
        have hopB' : operandB (next s i) = operandB s := hopB
        rw [hinsn, hopA', hopB', hsets, Bool.true_and]
        cases abortMvspr s i with
        | false => exact Or.inr ⟨rfl, rfl⟩
        | true =>
            rw [Bool.not_true, if_neg Bool.false_ne_true]
            rcases ha.flag with hflag | ⟨-, hflag⟩
            · exact Or.inl hflag
            · exact Or.inr ⟨rfl, hflag⟩

/-! ### An instruction leaves EX -/

theorem commit_eq_write {r : Operands.Result} {target : BitVec 5} {v : BitVec 32}
    (hwe : r.we = true) (haddr : r.addr = target) (hdata : r.data = v) (hne : target ≠ 0#5)
    (regs : BitVec 5 → BitVec 32) :
    Operands.commit r regs = Isa.write regs target (some v) := by
  have hne' : r.addr ≠ 0#5 := haddr ▸ hne
  rw [Operands.commit, if_pos hwe, if_neg hne', Isa.write, if_neg hne, haddr, hdata]

theorem rfwbOp_fields (field : BitVec 3) :
    (field ++ 1#1).getLsbD 0 = true ∧ (field ++ 1#1).extractLsb' 1 3 = field := by
  revert field
  decide

/-- What the write-back multiplexer selects. -/
def selected (s : State) (i : In) (field : BitVec 3) : BitVec 32 :=
  if field = rfwbopAlu then Execute.aluDataout s.execute (executeIn s i)
  else if field = rfwbopLsu then i.execute.lsuDataout
  else if field = rfwbopSprs then Sprs.toWbmux s.sprs (sprsIn s i)
  else if field = rfwbopLr then i.execute.exPc + 8
  else 0

theorem rfDataw_eq_selected {field : BitVec 3} (h : s.execute.operands.rfwbOp = field ++ 1#1) :
    Operands.rfDataw s.execute.operands (operandsIn s i) = selected s i field := by
  have hfield : (Operands.wbmuxIn s.execute.operands (operandsIn s i)).rfwbOp.extractLsb' 1 3 =
      field := by
    change s.execute.operands.rfwbOp.extractLsb' 1 3 = field
    rw [h, (rfwbOp_fields field).2]
  rw [Operands.rfDataw, Wbmux.muxout, hfield]
  rfl

/-- What the instruction that leaves EX writes is its value in the sequential machine. -/
theorem Agrees.commit (ha : Agrees s m) (h : Consistent s) (hplain : Plain s i)
    (hmoves : exFreeze s i = false) :
    Operands.commit (Operands.exResult s.execute.operands (operandsIn s i)) m.regs =
      Isa.write m.regs (Operands.decodeRfAddrw (exInsn s)) (Isa.value m (leaving s i)) := by
  have hwrite : ∀ (field : BitVec 3) (v : BitVec 32),
      Operands.decodeRfwbOp (opcode (exInsn s)) = field ++ 1#1 →
      selected s i field = v →
      Operands.commit (Operands.exResult s.execute.operands (operandsIn s i)) m.regs =
        Isa.write m.regs (Operands.decodeRfAddrw (exInsn s)) (some v) := by
    intro field v hdecode hdata
    have hop := h.rfwbOp.trans hdecode
    have hbit := (rfwbOp_fields field).1
    have hwe : s.execute.operands.rfwbOp.getLsbD 0 = true := by rw [hop, hbit]
    have hne := h.exSuitable.target (by rw [hdecode, hbit])
    exact commit_eq_write hwe (h.rfAddrw hwe) ((rfDataw_eq_selected hop).trans hdata) hne m.regs
  have hinsn : (leaving s i).insn = exInsn s := rfl
  rw [Isa.value, hinsn]
  by_cases hlr : opcode (exInsn s) = or32Jal ∨ opcode (exInsn s) = or32Jalr
  · rw [if_pos hlr]
    apply hwrite rfwbopLr
    · rw [Operands.decodeRfwbOp, if_pos hlr]
    · rfl
  rw [if_neg hlr]
  by_cases hspr : opcode (exInsn s) = or32Mfspr
  · rw [if_pos hspr]
    apply hwrite rfwbopSprs
    · rw [Operands.decodeRfwbOp, if_neg hlr, if_pos hspr]
    · rfl
  rw [if_neg hspr]
  by_cases hload : opcode (exInsn s) ∈ Operands.loadOpcodes
  · rw [if_pos hload]
    apply hwrite rfwbopLsu
    · rw [Operands.decodeRfwbOp, if_neg hlr, if_neg hspr, if_pos hload]
    · rfl
  rw [if_neg hload]
  cases hop : Isa.operation (exInsn s) with
  | some op =>
      have halu := Isa.opcode_of_operation hop
      apply hwrite rfwbopAlu
      · rw [Operands.decodeRfwbOp, if_neg hlr, if_neg hspr, if_neg hload, if_pos halu]
      · have hflag := Isa.setsFlag_of_operation hop
        have hdivisible : Execute.Divisible (operandA s) (operandB s) op := by
          rintro rfl
          exact hplain.divisible hmoves hop rfl
        have heval := h.timed.aluDataout_eq_evaluate h.decoded (i := executeIn s i) hmoves hop
          hdivisible
        have hcarry : (executeIn s i).carry = m.carry :=
          (Sprs.sr_getLsbD (by decide) (by decide)).trans ha.carry
        have hflag' : (executeIn s i).flag = m.flag :=
          (Sprs.sr_getLsbD (by decide) (by decide)).trans (ha.flag_eq hflag)
        change Execute.aluDataout s.execute (executeIn s i) = _
        rw [heval, hcarry, hflag']
        change Isa.evaluate (operandA s) (operandB s) _ _ _ = _
        rw [ha.sourceB h (Isa.readsB_of_operation hop)]
        rcases ha.sourceA_or h hop with rfl | hsource
        · rfl
        · rw [hsource]
  | none =>
      have hnot := h.exSuitable.not_mem_of_none hop
      have hwe : (Operands.exResult s.execute.operands (operandsIn s i)).we = false := by
        change s.execute.operands.rfwbOp.getLsbD 0 = false
        rw [h.rfwbOp, Operands.decodeRfwbOp, if_neg hlr, if_neg hspr, if_neg hload, if_neg hnot]
        rfl
      rw [Operands.commit, hwe]
      rfl

theorem Consistent.carry_next (h : Consistent s) (hplain : Plain s i)
    (hmoves : exFreeze s i = false) :
    (Datapath.next s i).sprs.srReg.getLsbD srCy =
      match Isa.operation (exInsn s) with
      | some op => Isa.carryOf (exInsn s) (operandA s) (operandB s)
          (s.sprs.srReg.getLsbD srCy) op
      | none => s.sprs.srReg.getLsbD srCy := by
  have hnext := Sprs.srReg_next_carry (s := s.sprs) (i := sprsIn s i) hplain.running
    hplain.notStarted hplain.notRfe hplain.keepsSr
  have hwe : (sprsIn s i).cyWe = (Alu.cyWe (aluIn s i) && s.execute.operands.rf.rfWeAllow) := by
    have hfreeze : (Operands.rfIn s.execute.operands
        (Execute.operandsIn s.execute (aluPorts s i))).wbFreeze = false := hmoves
    change Rf.cyWeO _ _ = _
    rw [Rf.cyWeO, hfreeze, Bool.not_false, Bool.and_true]
    rfl
  have hforw : (sprsIn s i).cyforw = Alu.cyforw (aluIn s i) := rfl
  have hcarry : (aluIn s i).carry = s.sprs.srReg.getLsbD srCy :=
    Sprs.sr_getLsbD (by decide) (by decide)
  have haluOp : (aluIn s i).aluOp = Execute.decodeAluOp (exInsn s) := h.decoded.aluOp
  refine hnext.trans ?_
  rw [hwe, hforw]
  cases hop : Isa.operation (exInsn s) with
  | some op =>
      have hne : exInsn s ≠ Ctrl.voidInsn := by
        intro hvoid
        rw [hvoid, Isa.operation_voidInsn] at hop
        cases hop
      have hallowed : s.execute.operands.rf.rfWeAllow = true := by
        apply h.current.allowed
        have hall : ∀ code ∈ Operands.aluOpcodes,
            (Operands.decodeRfwbOp code).getLsbD 0 = true := by decide
        rw [h.rfwbOp]
        exact hall _ (Isa.opcode_of_operation hop)
      have hleft := Alu.carry_eq_carryOf (i := aluIn s i) (h.compOp hne)
        (haluOp.trans (Isa.presents_of_operation hop).aluOp)
      rw [hallowed, Bool.and_true, ← hcarry]
      exact hleft
  | none =>
      have hnot := h.exSuitable.not_mem_of_none hop
      have hcyWe : Alu.cyWe (aluIn s i) = false := by
        rw [Alu.cyWe, haluOp]
        rcases Isa.decodeAluOp_of_not_mem hnot with hcomp | hnop
        · rw [hcomp]
          rfl
        · rw [hnop]
          rfl
      rw [hcyWe, Bool.false_and, if_neg Bool.false_ne_true]

/-- When EX moves on, the sequential machine executes the instruction that leaves. -/
theorem Agrees.next_of_moves (ha : Agrees s m) (h : Consistent s) (hplain : Plain s i)
    (hmoves : exFreeze s i = false) : Agrees (next s i) (m.execute (leaving s i)) where
  regsA := by
    have hmem : (next s i).execute.operands.rf.rfA.mem = _ := h.mem_next hplain _ _ _
    rw [hmem, hmoves, if_neg Bool.false_ne_true, ha.regsA]
    exact ha.commit h hplain hmoves
  regsB := by
    have hmem : (next s i).execute.operands.rf.rfB.mem = _ := h.mem_next hplain _ _ _
    rw [hmem, hmoves, if_neg Bool.false_ne_true, ha.regsB]
    exact ha.commit h hplain hmoves
  carry := by
    have hinsn : (leaving s i).insn = exInsn s := rfl
    rw [h.carry_next hplain hmoves, Isa.Machine.execute, hinsn, ha.carry]
    cases hop : Isa.operation (exInsn s) with
    | none => rfl
    | some op =>
        rw [ha.sourceB h (Isa.readsB_of_operation hop)]
        rcases ha.sourceA_or h hop with rfl | hsource
        · rfl
        · rw [hsource]
  flag := by
    have hinsn : (leaving s i).insn = exInsn s := rfl
    apply Or.inl
    rw [h.flag_next hplain, abortMvspr_of_exFreeze hmoves, Bool.not_false, Bool.and_true,
      Isa.Machine.execute, hinsn]
    cases hsets : Isa.setsFlag (exInsn s) with
    | false => exact ha.flag_eq hsets
    | true =>
        obtain ⟨hreadsA, hreadsB⟩ := Isa.reads_of_setsFlag hsets
        rw [ha.sourceA h hreadsA, ha.sourceB h hreadsB]
        rfl

theorem opcode_of_exVoid (hvoid : Ctrl.exVoid (ctrl s) = true) : opcode (exInsn s) = or32Nop := by
  rw [Ctrl.exVoid, Bool.and_eq_true, beq_iff_eq] at hvoid
  exact hvoid.1

/-- One cycle, seen by the sequential machine. -/
theorem Agrees.next (ha : Agrees s m) (h : Consistent s) (hplain : Plain s i) :
    Agrees (Datapath.next s i) ((retired s i).foldl Isa.Machine.execute m) := by
  rw [retired]
  cases hfreeze : exFreeze s i with
  | true => exact ha.next_of_frozen h hplain hfreeze
  | false =>
      have hnext := ha.next_of_moves h hplain hfreeze
      cases hvoid : Ctrl.exVoid (ctrl s) with
      | true =>
          have hop : opcode (leaving s i).insn = or32Nop := opcode_of_exVoid hvoid
          rw [Isa.Machine.execute_of_nop hop] at hnext
          exact hnext
      | false => exact hnext

theorem agrees_next_of_rst (hrst : i.execute.rst = true)
    (hcopies : s.execute.operands.rf.rfA.mem = s.execute.operands.rf.rfB.mem) :
    Agrees (next s i)
      { regs := (next s i).execute.operands.rf.rfA.mem, flag := false, carry := false } := by
  have hreg : (next s i).sprs.srReg = 0b01#2 ++ 0#1 ++ 0#13 ++ 1#1 := if_pos hrst
  constructor
  case regsA => rfl
  case regsB => exact (Rf.copies_next hcopies _).symm
  case carry =>
    rw [hreg]
    rfl
  case flag =>
    rw [hreg]
    exact Or.inl rfl

end

/-! ## Runs -/

section

variable (s₀ : State) (tr : ResetTrace gate)

/-- The instructions that leave EX in the `n` cycles after the reset. -/
def program (n : ℕ) : List Isa.Retired := observed retired next s₀ tr 1 n

/-- The registers after the reset. -/
def initial : Isa.Machine where
  regs := (stateAt s₀ tr 1).execute.operands.rf.rfA.mem
  flag := false
  carry := false

/-- The two copies of the register file start with the same contents. -/
def SameCopies : Prop := s₀.execute.operands.rf.rfA.mem = s₀.execute.operands.rf.rfB.mem

theorem agrees_initial (hcopies : SameCopies s₀) : Agrees (stateAt s₀ tr 1) (initial s₀ tr) :=
  agrees_next_of_rst tr.reset_first hcopies

section

variable (hquiet : Operands.Undisturbed (operandsIn s₀ (tr 0)))
include hquiet

theorem consistent_stateAt {n : ℕ}
    (hplain : ∀ k < n, Plain (stateAt s₀ tr (1 + k)) (tr (1 + k))) :
    Consistent (stateAt s₀ tr (1 + n)) := by
  induction n with
  | zero => exact consistent_next_of_rst tr.reset_first hquiet
  | succ n ih =>
      have hbefore := ih fun k hk ↦ hplain k (hk.trans (Nat.lt_succ_self n))
      exact hbefore.next (hplain n (Nat.lt_succ_self n))

end

end

/-- The execution stage is fed with a program, and everything else is quiet. -/
def fed (insns : List (BitVec 32)) : ResetTrace gate where
  cycle t := { (default : In) with execute := Execute.program insns t }
  reset_first := rfl

/-- `l.addi r3,r0,5`, `l.mul r4,r3,r3`, `l.add r5,r4,r3`, `l.sfgtu r5,r3`, which is fetched
again while the multiplication is in EX, and `l.cmov r6,r5,r3`. -/
def mulThenCmov : List (BitVec 32) :=
  [or32Addi ++ 3#5 ++ 0#5 ++ 5#16,
    or32Alu ++ 4#5 ++ 3#5 ++ 3#5 ++ 0#1 ++ 3#2 ++ 0#4 ++ 6#4,
    or32Alu ++ 5#5 ++ 4#5 ++ 3#5 ++ 0#11] ++
  List.replicate 5 (or32Sfxx ++ 2#5 ++ 5#5 ++ 3#5 ++ 0#11) ++
  [or32Alu ++ 6#5 ++ 5#5 ++ 3#5 ++ 0#7 ++ 14#4]

end Datapath

end Specs.Or1200
