import Specs.Or1200.Division
import Specs.Or1200.Isa
import Specs.Or1200.Product

/-!
# Results of the execution stage

An arithmetic instruction that leaves EX leaves with the value that the architecture
gives to its operation on its operands, unsigned divisions by great numbers apart.
-/

namespace Specs.Or1200

namespace Alu

/-! ## Single operations -/

theorem firstSet_eq_zero {a : BitVec 32} {ks : List ℕ} (h : ∀ k ∈ ks, a.getLsbD k = false) :
    firstSet a ks = 0#32 := by
  induction ks with
  | nil => rfl
  | cons k ks ih =>
      have hk : a.getLsbD k = false := h k List.mem_cons_self
      have htail : firstSet a ks = 0#32 := ih fun j hj ↦ h j (List.mem_cons_of_mem k hj)
      rw [firstSet, List.foldr_cons, hk, if_neg Bool.false_ne_true]
      exact htail

/-- The chain stops at the set bit that comes first in the list. -/
theorem exists_firstSet {a : BitVec 32} {ks : List ℕ} {R : ℕ → ℕ → Prop} (hks : ks.Pairwise R)
    {j : ℕ} (hj : j ∈ ks) (hset : a.getLsbD j = true) :
    ∃ k ∈ ks, a.getLsbD k = true ∧ firstSet a ks = BitVec.ofNat 32 (k + 1) ∧
      ∀ l ∈ ks, a.getLsbD l = true → l = k ∨ R k l := by
  induction ks with
  | nil => exact absurd hj List.not_mem_nil
  | cons k ks ih =>
      obtain ⟨hhead, htail⟩ := List.pairwise_cons.mp hks
      cases hk : a.getLsbD k with
      | true =>
          refine ⟨k, List.mem_cons_self, hk, ?_, ?_⟩
          · rw [firstSet, List.foldr_cons, hk, if_pos rfl]
          · intro l hl _
            rcases List.mem_cons.mp hl with heq | hmem
            · exact Or.inl heq
            · exact Or.inr (hhead l hmem)
      | false =>
          have hjks : j ∈ ks := by
            rcases List.mem_cons.mp hj with rfl | hmem
            · exact absurd (hk.symm.trans hset) Bool.false_ne_true
            · exact hmem
          obtain ⟨m, hm, hmset, hvalue, hfirst⟩ := ih htail hjks
          refine ⟨m, List.mem_cons_of_mem k hm, hmset, ?_, ?_⟩
          · rw [firstSet, List.foldr_cons, hk, if_neg Bool.false_ne_true]
            exact hvalue
          · intro l hl hlset
            rcases List.mem_cons.mp hl with rfl | hmem
            · exact absurd (hk.symm.trans hlset) Bool.false_ne_true
            · exact hfirst l hmem hlset

theorem exists_set_of_ne_zero {a : BitVec 32} (h : a ≠ 0#32) :
    ∃ j < 32, a.getLsbD j = true := by
  by_contra hnone
  apply h
  apply BitVec.eq_of_getLsbD_eq
  intro k hk
  rw [BitVec.getLsbD_zero, ← Bool.not_eq_true]
  intro hset
  exact hnone ⟨k, hk, hset⟩

theorem firstSet_range (a : BitVec 32) :
    firstSet a (List.range 32) = if a = 0 then 0 else a.ctz + 1 := by
  split
  · next hzero =>
      apply firstSet_eq_zero
      intro k _
      rw [hzero]
      exact BitVec.getLsbD_zero
  · next hne =>
      obtain ⟨j, hj, hset⟩ := exists_set_of_ne_zero hne
      obtain ⟨k, hk, hkset, hvalue, hfirst⟩ :=
        exists_firstSet List.pairwise_lt_range (List.mem_range.mpr hj) hset
      have hctz : a.ctz.toNat = k := by
        apply Isa.ctz_eq hkset
        intro l hl
        rw [← Bool.not_eq_true]
        intro hlset
        have hl32 : l ∈ List.range 32 := List.mem_range.mpr (hl.trans (List.mem_range.mp hk))
        rcases hfirst l hl32 hlset with heq | hgt
        · exact absurd heq hl.ne
        · exact absurd hgt (Nat.lt_asymm hl)
      have hk32 : k < 32 := List.mem_range.mp hk
      rw [hvalue]
      apply BitVec.eq_of_toNat_eq
      rw [BitVec.toNat_add, hctz, BitVec.toNat_ofNat]
      rfl

theorem firstSet_reverse_range (a : BitVec 32) :
    firstSet a (List.range 32).reverse = 32 - a.clz := by
  by_cases hzero : a = 0#32
  · have hclz : a.clz = 32#32 := by
      rw [hzero]
      decide
    rw [hclz]
    apply firstSet_eq_zero
    intro k _
    rw [hzero]
    exact BitVec.getLsbD_zero
  · obtain ⟨j, hj, hset⟩ := exists_set_of_ne_zero hzero
    have hpairwise : (List.range 32).reverse.Pairwise (fun k l ↦ l < k) :=
      List.pairwise_reverse.mpr List.pairwise_lt_range
    obtain ⟨k, hk, hkset, hvalue, hfirst⟩ :=
      exists_firstSet hpairwise (List.mem_reverse.mpr (List.mem_range.mpr hj)) hset
    have hk32 : k < 32 := List.mem_range.mp (List.mem_reverse.mp hk)
    have hclz : 32 - a.clz.toNat = k + 1 := by
      apply Isa.clz_eq hkset
      intro l hl hgt
      rw [← Bool.not_eq_true]
      intro hlset
      rcases hfirst l (List.mem_reverse.mpr (List.mem_range.mpr hl)) hlset with heq | hlt
      · exact absurd heq hgt.ne'
      · exact absurd hlt (Nat.lt_asymm hgt)
    rw [hvalue]
    apply BitVec.eq_of_toNat_eq
    rw [BitVec.toNat_sub, BitVec.toNat_ofNat]
    change (k + 1) % 2 ^ 32 = (2 ^ 32 - a.clz.toNat + 32) % 2 ^ 32
    omega

/-- The shift in of copies of the sign. -/
theorem shiftedRotated_of_sra {i : In} (hsll : i.aluOp2 ≠ shrotopSll)
    (hsrl : i.aluOp2 ≠ shrotopSrl) :
    shiftedRotated i = i.a.sshiftRight (shiftAmount i) := by
  have hamount : shiftAmount i < 32 := (i.b.extractLsb' 0 5).isLt
  rw [shiftedRotated, if_neg hsll, if_neg hsrl]
  apply BitVec.eq_of_getLsbD_eq
  intro k hk
  rw [BitVec.getLsbD_or, BitVec.getLsbD_ushiftRight, BitVec.getLsbD_shiftLeft,
    BitVec.getLsbD_sshiftRight]
  by_cases hin : shiftAmount i + k < 32
  · have hlow : k < 32 - shiftAmount i := by omega
    simp [hk, hin, hlow]
  · have hhigh : ¬k < 32 - shiftAmount i := by omega
    have hofs : k - (32 - shiftAmount i) < 32 := by omega
    have hout : i.a.getLsbD (shiftAmount i + k) = false :=
      BitVec.getLsbD_of_ge _ _ (Nat.not_lt.mp hin)
    have hfill : (bif i.a.msb then BitVec.allOnes 32 else 0#32).getLsbD
        (k - (32 - shiftAmount i)) = i.a.msb := by
      cases i.a.msb
      · exact BitVec.getLsbD_zero
      · rw [cond_true, BitVec.getLsbD_allOnes, decide_eq_true hofs]
    rw [hfill, hout, decide_eq_true hk, decide_eq_false hhigh,
      decide_eq_false (Nat.not_le.mpr hk), if_neg hin, Bool.or_false]
    rfl

theorem shiftAmount_eq (i : In) : shiftAmount i = i.b.toNat % 32 := by
  rw [shiftAmount, BitVec.extractLsb'_toNat, Nat.shiftRight_zero]

theorem resultSum_of_ne_sub {i : In} (h : i.aluOp ≠ aluopSub) :
    resultSum i = i.a + i.b + BitVec.ofNat 32 (carryVal i) := by
  apply BitVec.eq_of_toNat_eq
  rw [toNat_resultSum, bMux_of_ne_sub h, BitVec.toNat_add, BitVec.toNat_add, BitVec.toNat_ofNat]
  omega

theorem resultSum_of_sub {i : In} (h : i.aluOp = aluopSub) : resultSum i = i.a - i.b := by
  have hcarry : carryVal i = 0 := by
    rw [carryVal, h]
    rfl
  have ha := i.a.isLt
  have hb := i.b.isLt
  apply BitVec.eq_of_toNat_eq
  rw [toNat_resultSum, toNat_bMux_of_sub h, BitVec.toNat_sub, hcarry]
  omega

end Alu

/-! ## The operation of an instruction -/

namespace Isa

/-- The operation of the ALU that an operation of the architecture uses. -/
def Operation.aluOp : Operation → BitVec 5
  | .add => aluopAdd
  | .addc => aluopAddc
  | .sub => aluopSub
  | .and => aluopAnd
  | .or => aluopOr
  | .xor => aluopXor
  | .mul => aluopMul
  | .mulu => aluopMulu
  | .div => aluopDiv
  | .divu => aluopDivu
  | .sll | .srl | .sra => aluopShrot
  | .exths | .extbs | .exthz | .extbz => aluopExthb
  | .extw => aluopExtw
  | .cmov => aluopCmov
  | .ff1 | .fl1 => aluopFfl1
  | .movhi => aluopMovhi

/-- The second field that tells operations of the ALU apart. -/
def Operation.Selects (aluOp2 : BitVec 4) : Operation → Prop
  | .sll => aluOp2 = shrotopSll
  | .srl => aluOp2 = shrotopSrl
  | .sra => aluOp2 = shrotopSra
  | .exths => aluOp2 = exthbopHs
  | .extbs => aluOp2 = exthbopBs
  | .exthz => aluOp2 = exthbopHz
  | .extbz => aluOp2 = exthbopBz
  | .ff1 => aluOp2 = 0x0#4
  | .fl1 => aluOp2 = 0x4#4
  | _ => True

/-- How the decoder presents an operation to the ALU. -/
structure Presents (insn : BitVec 32) (op : Operation) : Prop where
  aluOp : Execute.decodeAluOp insn = op.aluOp
  selects : op.Selects (insn.extractLsb' 6 4)
  notMacrc : Execute.idMacrcOp insn = false

/-- The operation of the ALU for the opcodes that have only one. -/
def aluOpOfOpcode (code : BitVec 6) : BitVec 5 := Execute.decodeAluOp (code ++ 0#26)

theorem opcode_append (code : BitVec 6) (rest : BitVec 26) : opcode (code ++ rest) = code :=
  BitVec.extractLsb'_append_eq_left

theorem presents_of_opcode {insn : BitVec 32} {op : Operation} {code : BitVec 6}
    (hop : opcode insn = code) (hconst : code ≠ or32Macrc ∧ code ≠ or32Alu)
    (haluOp : aluOpOfOpcode code = op.aluOp) (hselects : op.Selects (insn.extractLsb' 6 4)) :
    Presents insn op where
  aluOp := by
    rw [← haluOp, aluOpOfOpcode, Execute.decodeAluOp, Execute.decodeAluOp, opcode_append, hop]
    simp only [if_neg hconst.2]
  selects := hselects
  notMacrc := by
    rw [Execute.idMacrcOp, hop, beq_eq_false_iff_ne.mpr hconst.1, Bool.false_and]

theorem presents_of_shift {insn : BitVec 32} {op : Operation} (h : shift insn = some op)
    (haluOp : Execute.decodeAluOp insn = aluopShrot)
    (hmacrc : Execute.idMacrcOp insn = false) : Presents insn op := by
  rw [shift] at h
  split at h
  · next hop2 => cases h; exact ⟨haluOp, hop2, hmacrc⟩
  · next hop2 => cases h; exact ⟨haluOp, hop2, hmacrc⟩
  · next hop2 => cases h; exact ⟨haluOp, hop2, hmacrc⟩
  · cases h

theorem presents_of_register {insn : BitVec 32} {op : Operation} (h : register insn = some op)
    (halu : opcode insn = or32Alu) : Presents insn op := by
  have hmacrc : Execute.idMacrcOp insn = false := by
    rw [Execute.idMacrcOp, halu]
    rfl
  have haluOp : Execute.decodeAluOp insn = 0#1 ++ insn.extractLsb' 0 4 := by
    rw [Execute.decodeAluOp, halu]
    rfl
  rw [register] at h
  split at h
  case h_8 hfield => exact presents_of_shift h (by rw [haluOp, hfield]; rfl) hmacrc
  case h_12 hfield =>
    split at h
    · next hop2 => cases h; exact ⟨by rw [haluOp, hfield]; rfl, hop2, hmacrc⟩
    · next hop2 => cases h; exact ⟨by rw [haluOp, hfield]; rfl, hop2, hmacrc⟩
    · next hop2 => cases h; exact ⟨by rw [haluOp, hfield]; rfl, hop2, hmacrc⟩
    · next hop2 => cases h; exact ⟨by rw [haluOp, hfield]; rfl, hop2, hmacrc⟩
    · cases h
  case h_15 hfield =>
    split at h
    · next hop2 => cases h; exact ⟨by rw [haluOp, hfield]; rfl, hop2, hmacrc⟩
    · next hop2 => cases h; exact ⟨by rw [haluOp, hfield]; rfl, hop2, hmacrc⟩
    · cases h
  case h_16 => cases h
  all_goals
    next hfield => cases h; exact ⟨by rw [haluOp, hfield]; rfl, trivial, hmacrc⟩

theorem presents_of_operation {insn : BitVec 32} {op : Operation}
    (h : operation insn = some op) : Presents insn op := by
  rw [operation] at h
  split at h
  · next hop => cases h; exact presents_of_opcode hop (by decide) rfl trivial
  split at h
  · next hop => cases h; exact presents_of_opcode hop (by decide) rfl trivial
  split at h
  · next hop => cases h; exact presents_of_opcode hop (by decide) rfl trivial
  split at h
  · next hop => cases h; exact presents_of_opcode hop (by decide) rfl trivial
  split at h
  · next hop => cases h; exact presents_of_opcode hop (by decide) rfl trivial
  split at h
  · next hop => cases h; exact presents_of_opcode hop (by decide) rfl trivial
  split at h
  · next hop =>
      split at h
      · cases h
      · next hbit =>
          cases h
          have hmacrc : Execute.idMacrcOp insn = false := by
            rw [Execute.idMacrcOp, Bool.eq_false_iff.mpr hbit, Bool.and_false]
          exact ⟨by rw [Execute.decodeAluOp, hop]; rfl, trivial, hmacrc⟩
  split at h
  · next hop =>
      have hmacrc : Execute.idMacrcOp insn = false := by
        rw [Execute.idMacrcOp, hop]
        rfl
      exact presents_of_shift h (by rw [Execute.decodeAluOp, hop]; rfl) hmacrc
  split at h
  · next hop => exact presents_of_register h hop
  · cases h

/-- The operations that are left to `or1200_mult_mac`. -/
def Operation.UsesUnit : Operation → Prop
  | .mul | .mulu | .div | .divu => True
  | _ => False

end Isa

namespace Alu

theorem extended_eq {i : In} :
    (i.aluOp2 = exthbopHs → extended i = (i.a.setWidth 16).signExtend 32) ∧
      (i.aluOp2 = exthbopBs → extended i = (i.a.setWidth 8).signExtend 32) ∧
      (i.aluOp2 = exthbopHz → extended i = BitVec.ofNat 32 (i.a.toNat % 2 ^ 16)) ∧
      (i.aluOp2 = exthbopBz → extended i = BitVec.ofNat 32 (i.a.toNat % 2 ^ 8)) := by
  refine ⟨?_, ?_, ?_, ?_⟩
  · intro h
    have hlow : i.a.setWidth 16 = i.a.extractLsb' 0 16 :=
      BitVec.setWidth_eq_extractLsb' (by decide)
    rw [extended, h, hlow]
    rfl
  · intro h
    have hlow : i.a.setWidth 8 = i.a.extractLsb' 0 8 :=
      BitVec.setWidth_eq_extractLsb' (by decide)
    rw [extended, h, hlow]
    rfl
  · intro h
    rw [extended, h]
    apply BitVec.eq_of_toNat_eq
    change ((i.a.extractLsb' 0 16).setWidth 32).toNat = _
    rw [BitVec.toNat_setWidth, BitVec.extractLsb'_toNat, Nat.shiftRight_zero, BitVec.toNat_ofNat]
  · intro h
    rw [extended, h]
    apply BitVec.eq_of_toNat_eq
    change ((i.a.extractLsb' 0 8).setWidth 32).toNat = _
    rw [BitVec.toNat_setWidth, BitVec.extractLsb'_toNat, Nat.shiftRight_zero, BitVec.toNat_ofNat]

/-- The ALU computes what the architecture asks for, if the other unit does. -/
theorem result_eq_evaluate {i : In} {op : Isa.Operation} (haluOp : i.aluOp = op.aluOp)
    (hselects : op.Selects i.aluOp2) (hmacrc : i.macrcOp = false)
    (hunit : op.UsesUnit → i.multMacResult = Isa.evaluate i.a i.b i.carry i.flag op) :
    result i = Isa.evaluate i.a i.b i.carry i.flag op := by
  cases op with
  | add =>
      have hsum : result i = resultSum i := by rw [result, haluOp]; rfl
      have hcarry : carryVal i = 0 := by rw [carryVal, haluOp]; rfl
      have hne : i.aluOp ≠ aluopSub := by rw [haluOp]; decide
      rw [hsum, resultSum_of_ne_sub hne, hcarry]
      exact BitVec.add_zero _
  | addc =>
      have hsum : result i = resultSum i := by rw [result, haluOp]; rfl
      have hcarry : carryVal i = i.carry.toNat := by rw [carryVal, haluOp]; rfl
      have hne : i.aluOp ≠ aluopSub := by rw [haluOp]; decide
      rw [hsum, resultSum_of_ne_sub hne, hcarry]
      rfl
  | sub =>
      have hsum : result i = resultSum i := by rw [result, haluOp]; rfl
      rw [hsum]
      exact resultSum_of_sub haluOp
  | and => rw [result, haluOp]; rfl
  | or => rw [result, haluOp]; rfl
  | xor => rw [result, haluOp]; rfl
  | mul => exact (result_of_multMac (Or.inr (Or.inl haluOp))).trans (hunit trivial)
  | mulu => exact (result_of_multMac (Or.inr (Or.inr haluOp))).trans (hunit trivial)
  | div => exact (result_of_multMac (Or.inl (Or.inl haluOp))).trans (hunit trivial)
  | divu => exact (result_of_multMac (Or.inl (Or.inr haluOp))).trans (hunit trivial)
  | sll =>
      have hshift : result i = shiftedRotated i := by rw [result, haluOp]; rfl
      have hop2 : i.aluOp2 = shrotopSll := hselects
      rw [hshift, shiftedRotated, if_pos hop2, shiftAmount_eq]
      rfl
  | srl =>
      have hshift : result i = shiftedRotated i := by rw [result, haluOp]; rfl
      have hop2 : i.aluOp2 = shrotopSrl := hselects
      rw [hshift, shiftedRotated, hop2, shiftAmount_eq]
      rfl
  | sra =>
      have hshift : result i = shiftedRotated i := by rw [result, haluOp]; rfl
      have hop2 : i.aluOp2 = shrotopSra := hselects
      have hsll : i.aluOp2 ≠ shrotopSll := by rw [hop2]; decide
      have hsrl : i.aluOp2 ≠ shrotopSrl := by rw [hop2]; decide
      rw [hshift, shiftedRotated_of_sra hsll hsrl, shiftAmount_eq]
      rfl
  | exths =>
      have hext : result i = extended i := by rw [result, haluOp]; rfl
      exact hext.trans (extended_eq.1 hselects)
  | extbs =>
      have hext : result i = extended i := by rw [result, haluOp]; rfl
      exact hext.trans (extended_eq.2.1 hselects)
  | exthz =>
      have hext : result i = extended i := by rw [result, haluOp]; rfl
      exact hext.trans (extended_eq.2.2.1 hselects)
  | extbz =>
      have hext : result i = extended i := by rw [result, haluOp]; rfl
      exact hext.trans (extended_eq.2.2.2 hselects)
  | extw => rw [result, haluOp]; rfl
  | cmov => rw [result, haluOp]; rfl
  | ff1 =>
      have hfirst : result i = ffl1 i := by rw [result, haluOp]; rfl
      have hop2 : i.aluOp2 = 0 := hselects
      rw [hfirst, ffl1, if_pos hop2]
      exact firstSet_range i.a
  | fl1 =>
      have hfirst : result i = ffl1 i := by rw [result, haluOp]; rfl
      have hop2 : ¬i.aluOp2 = 0 := by
        rw [show i.aluOp2 = 0x4#4 from hselects]
        decide
      rw [hfirst, ffl1, if_neg hop2]
      exact firstSet_reverse_range i.a
  | movhi => rw [result, haluOp, hmacrc]; rfl

end Alu

namespace Execute

open Specs.Sync

/-- The divisors for which an operation is computed as the architecture says. -/
def Divisible (a b : BitVec 32) (op : Isa.Operation) : Prop :=
  op = .divu → b.toNat ≤ 2 ^ 31 ∨ (b.toNat = 2 ^ 31 + 1 ∧ 2 ^ 31 ≤ a.toNat)

instance (a b : BitVec 32) (op : Isa.Operation) : Decidable (Divisible a b op) :=
  inferInstanceAs (Decidable (_ → _))

theorem Timed.aluDataout_eq_evaluate {s : State} {i : In} (h : Timed s) (hdecoded : Decoded s)
    (hmoves : exFreeze s i = false) {op : Isa.Operation}
    (hop : Isa.operation (exInsn s) = some op) (hdivisible : Divisible (operandA s) (operandB s) op) :
    aluDataout s i = Isa.evaluate (operandA s) (operandB s) i.carry i.flag op := by
  have hpresents := Isa.presents_of_operation hop
  have haluOp : s.aluOp = op.aluOp := hdecoded.aluOp.trans hpresents.aluOp
  apply Alu.result_eq_evaluate (i := aluIn s i) haluOp
  · change op.Selects s.aluOp2
    rw [hdecoded.aluOp2]
    exact hpresents.selects
  · exact hdecoded.exMacrcOp.trans hpresents.notMacrc
  · intro hunit
    change multMacResult s i = _
    cases op with
    | mul =>
        rw [← aluDataout_of_aluOp (Or.inr (Or.inl haluOp))]
        apply (h.productResult hdecoded hmoves).product
        rw [← hdecoded.aluOp]
        exact Or.inl haluOp
    | mulu =>
        rw [← aluDataout_of_aluOp (Or.inr (Or.inr haluOp))]
        apply (h.productResult hdecoded hmoves).product
        rw [← hdecoded.aluOp]
        exact Or.inr haluOp
    | div =>
        rw [← aluDataout_of_aluOp (Or.inl (Or.inl haluOp))]
        exact h.aluDataout_of_sdiv hmoves haluOp
    | divu =>
        rw [← aluDataout_of_aluOp (Or.inl (Or.inr haluOp)), h.aluDataout_of_udiv hmoves haluOp]
        split
        · next hb =>
            change 0#32 = operandA s / operandB s
            rw [hb]
            exact BitVec.udiv_zero.symm
        · next hb => exact (MultMac.quotient_eq_iff hb).mpr (hdivisible rfl)
    | _ => exact hunit.elim

/-- `l.addi r3,r0,-8`, `l.addi r4,r0,2`, and `l.sra r5,r3,r4`. -/
def shiftProgram : List (BitVec 32) :=
  [or32Addi ++ 3#5 ++ 0#5 ++ 0xfff8#16, or32Addi ++ 4#5 ++ 0#5 ++ 2#16,
    or32Alu ++ 5#5 ++ 3#5 ++ 4#5 ++ 0#1 ++ 2#4 ++ 0#2 ++ 8#4]

end Execute

end Specs.Or1200
