import Specs.Or1200.Computer
import Specs.Or1200.Lsu

/-!
# Byte lanes

The accesses of the architecture as the load/store unit presents them on a bus of words:
the address, which accesses are refused, and what the lanes of the others carry.
-/

namespace Specs.Or1200

open Specs.Bits

namespace Isa

/-- The code of an access in the pipeline. -/
def Access.lsuOp : Access → BitVec 4
  | .load .byte false => lsuopLbz
  | .load .byte true => lsuopLbs
  | .load .half false => lsuopLhz
  | .load .half true => lsuopLhs
  | .load .word false => lsuopLwz
  | .load .word true => lsuopLws
  | .store .byte => lsuopSb
  | .store .half => lsuopSh
  | .store .word => lsuopSw

end Isa

namespace Lsu

open Isa

theorem idLsuOp_eq (insn : BitVec 32) :
    idLsuOp insn = ((access insn).map Access.lsuOp).getD lsuopNop := by
  unfold idLsuOp access
  repeat' split
  all_goals rfl

theorem lsuOp_ne_nop (acc : Access) : acc.lsuOp ≠ lsuopNop := by
  rcases acc with ⟨_ | _ | _, _ | _⟩ | ⟨_ | _ | _⟩ <;> decide

theorem lsuOp_load (size : Size) (signed : Bool) :
    (Access.load size signed).lsuOp.getLsbD 3 = false := by
  cases size <;> cases signed <;> rfl

theorem lsuOp_store (size : Size) : (Access.store size).lsuOp.getLsbD 3 = true := by
  cases size <;> rfl

/-! ## Addresses -/

/-- Only an address that the size does not divide is refused. -/
theorem misaligned_iff (acc : Access) (sum : BitVec 3) :
    misaligned acc.lsuOp sum = true ↔ ¬acc.size.bytes ∣ sum.toNat := by
  revert sum
  rcases acc with ⟨_ | _ | _, _ | _⟩ | ⟨_ | _ | _⟩ <;> decide

theorem dvd_congr {size : Size} {x y : ℕ} (h : x % 4 = y % 4) :
    size.bytes ∣ x ↔ size.bytes ∣ y := by
  cases size <;> simp only [Size.bytes] <;> omega

/-- The two parts of the sum fit together. -/
theorem dcpuAdrO_eq {s : State} {i : In}
    (h : s.dcpuAdrR = precalcSum i.exAddrbase i.exAddrofs) :
    dcpuAdrO s i = i.exAddrbase + i.exAddrofs := by
  have hsum : s.dcpuAdrR.toNat = i.exAddrbase.toNat % 4 + i.exAddrofs.toNat % 4 := by
    rw [h, precalcSum, BitVec.toNat_add, BitVec.toNat_setWidth, BitVec.toNat_setWidth,
      BitVec.extractLsb'_toNat, BitVec.extractLsb'_toNat, Nat.shiftRight_zero, Nat.shiftRight_zero]
    omega
  apply BitVec.eq_of_toNat_eq
  rw [dcpuAdrO, Bits.toNat_append_eq, BitVec.toNat_add, BitVec.toNat_add, BitVec.toNat_add,
    BitVec.toNat_setWidth, BitVec.extractLsb'_toNat, BitVec.extractLsb'_toNat,
    BitVec.extractLsb'_toNat, BitVec.extractLsb'_toNat, hsum]
  simp only [Nat.shiftRight_eq_div_pow, Nat.pow_zero, Nat.div_one]
  have ha := i.exAddrbase.isLt
  have hb := i.exAddrofs.isLt
  omega

theorem toNat_precalcSum (addrbase addrofs : BitVec 32) :
    (precalcSum addrbase addrofs).toNat % 4 = (addrbase + addrofs).toNat % 4 := by
  rw [precalcSum, BitVec.toNat_add, BitVec.toNat_add, BitVec.toNat_setWidth, BitVec.toNat_setWidth,
    BitVec.extractLsb'_toNat, BitVec.extractLsb'_toNat, Nat.shiftRight_zero, Nat.shiftRight_zero]
  omega

/-! ## Lanes -/

/-- The bytes of an aligned access are in one word. -/
theorem position_of_dvd {size : Size} {lo : BitVec 2} (haligned : size.bytes ∣ lo.toNat) :
    4 = lo.toNat + (size.bytes + (4 - lo.toNat - size.bytes)) := by
  revert lo
  cases size <;> decide

theorem lanes_eq {acc : Access} {lo : BitVec 2} (haligned : acc.size.bytes ∣ lo.toNat) :
    lanes acc.lsuOp lo = fieldMask 4 (4 - lo.toNat - acc.size.bytes) acc.size.bytes := by
  revert lo
  rcases acc with ⟨_ | _ | _, _ | _⟩ | ⟨_ | _ | _⟩ <;> decide

theorem append_zero_add (hi : BitVec 30) (lo : BitVec 2) :
    hi ++ 0#2 + BitVec.ofNat 32 lo.toNat = hi ++ lo := by
  apply BitVec.eq_of_toNat_eq
  have hhi := hi.isLt
  have hlo := lo.isLt
  rw [BitVec.toNat_add, toNat_append_eq, toNat_append_eq, BitVec.toNat_ofNat, BitVec.toNat_ofNat]
  omega

theorem aligned_eq (lo : BitVec 2) (x : BitVec 32) :
    Mem2reg.aligned lo x = x <<< (8 * lo.toNat) := by
  have hcases : lo = 0b00#2 ∨ lo = 0b01#2 ∨ lo = 0b10#2 ∨ lo = 0b11#2 := by
    revert lo
    decide
  have hshift : ∀ k, k ≤ 32 → (x.extractLsb' 0 (32 - k) ++ 0#k).toNat = x.toNat * 2 ^ k % 2 ^ 32 := by
    intro k hk
    have hpow : 2 ^ 32 = 2 ^ (32 - k) * 2 ^ k := by rw [← Nat.pow_add, Nat.sub_add_cancel hk]
    rw [toNat_append_eq, BitVec.extractLsb'_toNat, Nat.shiftRight_zero, hpow, Nat.mul_mod_mul_right]
    rfl
  apply BitVec.eq_of_toNat_eq
  rw [BitVec.toNat_shiftLeft, Nat.shiftLeft_eq]
  rcases hcases with rfl | rfl | rfl | rfl
  · rw [Mem2reg.aligned, if_pos rfl]
    exact ((congrArg (· % 2 ^ 32) (Nat.mul_one x.toNat)).trans (Nat.mod_eq_of_lt x.isLt)).symm
  · exact hshift 8 (by decide)
  · exact hshift 16 (by decide)
  · exact hshift 24 (by decide)

theorem zero_append_eq (p : ℕ) {n : ℕ} (y : BitVec n) :
    0#p ++ y = y.setWidth (p + n) := by
  apply BitVec.eq_of_toNat_eq
  have hlt : y.toNat < 2 ^ (p + n) :=
    y.isLt.trans_le (Nat.pow_le_pow_right (by decide) (Nat.le_add_left n p))
  rw [toNat_append_eq, BitVec.toNat_setWidth, Nat.mod_eq_of_lt hlt, BitVec.toNat_ofNat,
    Nat.zero_mod, Nat.zero_mul, Nat.zero_add]

theorem fill_append_eq (p : ℕ) {n : ℕ} (y : BitVec n) :
    (if y.msb then BitVec.allOnes p else 0#p) ++ y = y.signExtend (p + n) := by
  apply BitVec.eq_of_getLsbD_eq
  intro k hk
  rw [BitVec.getLsbD_append, BitVec.getLsbD_signExtend, decide_eq_true hk, Bool.true_and]
  split
  · rfl
  · next hlow =>
      have hk' : k - n < p := by omega
      cases y.msb <;> simp [hk']

/-- A load takes the top of the word that has been moved there. -/
theorem regdata_eq (size : Size) (signed : Bool) (lo : BitVec 2) (x : BitVec 32) :
    Mem2reg.regdata lo (Access.load size signed).lsuOp x =
      extend signed ((Mem2reg.aligned lo x).extractLsb' (32 - 8 * size.bytes) (8 * size.bytes)) := by
  have hmsb : ∀ (y : BitVec 32) p n, p + n = 31 →
      (y.extractLsb' p (n + 1)).msb = y.getLsbD 31 := by
    intro y p n hpn
    rw [BitVec.msb_eq_getLsbD_last, BitVec.getLsbD_extractLsb', Nat.add_sub_cancel, hpn]
    simp
  have hword : ∀ y : BitVec 32, y.extractLsb' 0 32 = y := fun y ↦ BitVec.extractLsb'_eq_self
  cases size <;> cases signed
  · exact zero_append_eq 24 _
  · have hfill := fill_append_eq 24 ((Mem2reg.aligned lo x).extractLsb' 24 8)
    rw [hmsb _ 24 7 rfl] at hfill
    exact hfill
  · exact zero_append_eq 16 _
  · have hfill := fill_append_eq 16 ((Mem2reg.aligned lo x).extractLsb' 16 16)
    rw [hmsb _ 16 15 rfl] at hfill
    exact hfill
  · change Mem2reg.aligned lo x = ((Mem2reg.aligned lo x).extractLsb' 0 32).setWidth 32
    rw [hword, BitVec.setWidth_eq]
  · change Mem2reg.aligned lo x = ((Mem2reg.aligned lo x).extractLsb' 0 32).signExtend 32
    rw [hword, BitVec.signExtend_eq]

/-- A load from the word around an aligned address. -/
theorem regdata_read {size : Size} {signed : Bool} {lo : BitVec 2}
    (haligned : size.bytes ∣ lo.toNat) (m : Memory 32) (hi : BitVec 30) :
    Mem2reg.regdata lo (Access.load size signed).lsuOp (m.read (hi ++ 0#2) 4) =
      extend signed (m.read (hi ++ lo) size.bytes) := by
  have hposition := position_of_dvd haligned
  have hplace := m.read_place (hi ++ 0#2) hposition
  rw [append_zero_add] at hplace
  rw [regdata_eq, aligned_eq, ← hplace]
  congr 1
  apply BitVec.eq_of_getLsbD_eq
  intro k hk
  have hfit : 32 - 8 * size.bytes + k < 32 := by omega
  have hlow : ¬32 - 8 * size.bytes + k < 8 * lo.toNat := by omega
  have hsame : 32 - 8 * size.bytes + k - 8 * lo.toNat = 8 * (4 - lo.toNat - size.bytes) + k := by
    omega
  simp only [BitVec.getLsbD_extractLsb', BitVec.getLsbD_shiftLeft, hk, hfit, hlow, hsame,
    decide_true, decide_false, Bool.true_and, Bool.not_false]

/-- The bytes and the half words of a word that has been put together. -/
theorem extractLsb'_lanes (hh hl lh ll : BitVec 8) :
    (hh ++ hl ++ lh ++ ll).extractLsb' 24 8 = hh ∧ (hh ++ hl ++ lh ++ ll).extractLsb' 16 8 = hl ∧
      (hh ++ hl ++ lh ++ ll).extractLsb' 8 8 = lh ∧ (hh ++ hl ++ lh ++ ll).extractLsb' 0 8 = ll ∧
      (hh ++ hl ++ lh ++ ll).extractLsb' 16 16 = hh ++ hl ∧
      (hh ++ hl ++ lh ++ ll).extractLsb' 0 16 = lh ++ ll := by
  have hparts : ∀ {len : ℕ} (lo : ℕ) (v : BitVec len),
      (((hh.toNat * 2 ^ 8 + hl.toNat) * 2 ^ 8 + lh.toNat) * 2 ^ 8 + ll.toNat) / 2 ^ lo % 2 ^ len =
        v.toNat → (hh ++ hl ++ lh ++ ll).extractLsb' lo len = v := by
    intro len lo v h
    apply BitVec.eq_of_toNat_eq
    rw [BitVec.extractLsb'_toNat, Nat.shiftRight_eq_div_pow, toNat_append_eq, toNat_append_eq,
      toNat_append_eq]
    exact h
  have hhh := hh.isLt
  have hhl := hl.isLt
  have hlh := lh.isLt
  have hll := ll.isLt
  refine ⟨?_, ?_, ?_, ?_, ?_, ?_⟩
  · exact hparts 24 hh (by omega)
  · exact hparts 16 hl (by omega)
  · exact hparts 8 lh (by omega)
  · exact hparts 0 ll (by omega)
  · exact hparts 16 (hh ++ hl) (by rw [toNat_append_eq]; omega)
  · exact hparts 0 (lh ++ ll) (by rw [toNat_append_eq]; omega)

/-- A store carries the low bytes of the operand on its lanes. -/
theorem memdata_lanes {size : Size} {lo : BitVec 2} (haligned : size.bytes ∣ lo.toNat)
    (v : BitVec 32) :
    (Reg2mem.memdata lo (Access.store size).lsuOp v).extractLsb'
        (8 * (4 - lo.toNat - size.bytes)) (8 * size.bytes) = v.setWidth (8 * size.bytes) := by
  have hcases : (size = .byte ∧ (lo = 0b00#2 ∨ lo = 0b01#2 ∨ lo = 0b10#2 ∨ lo = 0b11#2)) ∨
      (size = .half ∧ (lo = 0b00#2 ∨ lo = 0b10#2)) ∨ (size = .word ∧ lo = 0b00#2) := by
    revert lo
    cases size <;> decide
  have hbyte : v.extractLsb' 0 8 = v.setWidth 8 :=
    (BitVec.setWidth_eq_extractLsb' (by decide)).symm
  have hhalf : v.extractLsb' 8 8 ++ v.extractLsb' 0 8 = v.setWidth 16 :=
    (BitVec.extractLsb'_append_extractLsb'_eq_extractLsb' rfl).trans
      (BitVec.setWidth_eq_extractLsb' (by decide)).symm
  have hword : v.extractLsb' 24 8 ++ v.extractLsb' 16 8 ++ v.extractLsb' 8 8 ++ v.extractLsb' 0 8 =
      v := by
    rw [BitVec.extractLsb'_append_extractLsb'_eq_extractLsb' (by rfl),
      BitVec.extractLsb'_append_extractLsb'_eq_extractLsb' (by rfl),
      BitVec.extractLsb'_append_extractLsb'_eq_extractLsb' (by rfl)]
    exact BitVec.extractLsb'_eq_self
  obtain ⟨h3, h2, h1, h0, hhigh, hlow⟩ := extractLsb'_lanes
    (Reg2mem.memdataHh lo (Access.store size).lsuOp v)
    (Reg2mem.memdataHl lo (Access.store size).lsuOp v)
    (Reg2mem.memdataLh lo (Access.store size).lsuOp v) (Reg2mem.memdataLl v)
  rcases hcases with ⟨rfl, rfl | rfl | rfl | rfl⟩ | ⟨rfl, rfl | rfl⟩ | ⟨rfl, rfl⟩
  · exact h3.trans hbyte
  · exact h2.trans hbyte
  · exact h1.trans hbyte
  · exact h0.trans hbyte
  · exact hhigh.trans hhalf
  · exact hlow.trans hhalf
  · change (v.extractLsb' 24 8 ++ v.extractLsb' 16 8 ++ v.extractLsb' 8 8 ++
      v.extractLsb' 0 8).extractLsb' 0 32 = v.setWidth 32
    rw [hword, BitVec.setWidth_eq]
    exact BitVec.extractLsb'_eq_self

/-- A store to the word around an aligned address. -/
theorem writeLanes_store {size : Size} {lo : BitVec 2} (haligned : size.bytes ∣ lo.toNat)
    (m : Memory 32) (hi : BitVec 30) (v : BitVec 32) :
    m.writeLanes (hi ++ 0#2) 4 (lanes (Access.store size).lsuOp lo)
        (Reg2mem.memdata lo (Access.store size).lsuOp v) =
      m.write (hi ++ lo) size.bytes (v.setWidth (8 * size.bytes)) := by
  have hplace := m.writeLanes_place (hi ++ 0#2) (position_of_dvd haligned)
    (Reg2mem.memdata lo (Access.store size).lsuOp v)
  rw [append_zero_add, memdata_lanes haligned] at hplace
  rw [@lanes_eq (.store size) lo haligned]
  exact hplace

end Lsu

end Specs.Or1200
