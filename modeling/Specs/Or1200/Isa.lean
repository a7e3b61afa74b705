import Specs.Bits.Field
import Specs.Or1200.Defines

/-!
# Arithmetic instructions

What the arithmetic instructions of the architecture compute, without regard to how
`or1200_alu` and `or1200_mult_mac` do it.
-/

namespace Specs.Or1200.Isa

inductive Operation
  | add
  | addc
  | sub
  | and
  | or
  | xor
  | mul
  | mulu
  | div
  | divu
  | sll
  | srl
  | sra
  | exths
  | extbs
  | exthz
  | extbz
  | extw
  | cmov
  | ff1
  | fl1
  | movhi
deriving DecidableEq

/-- The value of an operation on the operands `a` and `b`. -/
def evaluate (a b : BitVec 32) (carry flag : Bool) : Operation → BitVec 32
  | .add => a + b
  | .addc => a + b + BitVec.ofNat 32 carry.toNat
  | .sub => a - b
  | .and => a &&& b
  | .or => a ||| b
  | .xor => a ^^^ b
  | .mul => a * b
  | .mulu => a * b
  | .div => a.sdiv b
  | .divu => a / b
  | .sll => a <<< (b.toNat % 32)
  | .srl => a >>> (b.toNat % 32)
  | .sra => a.sshiftRight (b.toNat % 32)
  | .exths => (a.setWidth 16).signExtend 32
  | .extbs => (a.setWidth 8).signExtend 32
  | .exthz => BitVec.ofNat 32 (a.toNat % 2 ^ 16)
  | .extbz => BitVec.ofNat 32 (a.toNat % 2 ^ 8)
  | .extw => a
  | .cmov => if flag then a else b
  | .ff1 => if a = 0 then 0 else a.ctz + 1
  | .fl1 => 32 - a.clz
  | .movhi => b <<< 16

/-- The shifts, by `insn[9:6]`.  Rotation is optional and is not among them. -/
def shift (insn : BitVec 32) : Option Operation :=
  match insn.extractLsb' 6 4 with
  | 0x0#4 => some .sll
  | 0x1#4 => some .srl
  | 0x2#4 => some .sra
  | _ => none

/-- The operations between registers, by `insn[3:0]`. -/
def register (insn : BitVec 32) : Option Operation :=
  match insn.extractLsb' 0 4 with
  | 0x0#4 => some .add
  | 0x1#4 => some .addc
  | 0x2#4 => some .sub
  | 0x3#4 => some .and
  | 0x4#4 => some .or
  | 0x5#4 => some .xor
  | 0x6#4 => some .mul
  | 0x8#4 => shift insn
  | 0x9#4 => some .div
  | 0xa#4 => some .divu
  | 0xb#4 => some .mulu
  | 0xc#4 =>
      match insn.extractLsb' 6 4 with
      | 0x0#4 => some .exths
      | 0x1#4 => some .extbs
      | 0x2#4 => some .exthz
      | 0x3#4 => some .extbz
      | _ => none
  | 0xd#4 => some .extw
  | 0xe#4 => some .cmov
  | 0xf#4 =>
      match insn.extractLsb' 6 4 with
      | 0x0#4 => some .ff1
      | 0x4#4 => some .fl1
      | _ => none
  | _ => none

/-- The operation of an arithmetic instruction. -/
def operation (insn : BitVec 32) : Option Operation :=
  if opcode insn = or32Addi then some .add
  else if opcode insn = or32Addic then some .addc
  else if opcode insn = or32Andi then some .and
  else if opcode insn = or32Ori then some .or
  else if opcode insn = or32Xori then some .xor
  else if opcode insn = or32Muli then some .mul
  else if opcode insn = or32Movhi then if insn.getLsbD 16 then none else some .movhi
  else if opcode insn = or32ShRoti then shift insn
  else if opcode insn = or32Alu then register insn
  else none

/-! ## The first and the last set bit -/

theorem ne_zero_of_getLsbD {a : BitVec 32} {k : ℕ} (hk : a.getLsbD k = true) : a ≠ 0#32 := by
  rintro rfl
  exact absurd hk (by simp)

theorem ctz_eq {a : BitVec 32} {k : ℕ} (hk : a.getLsbD k = true)
    (hbelow : ∀ j < k, a.getLsbD j = false) : a.ctz.toNat = k := by
  rcases Nat.lt_trichotomy a.ctz.toNat k with hlt | heq | hgt
  · have htrue : a.getLsbD a.ctz.toNat = true :=
      BitVec.getLsbD_true_ctz_of_ne_zero (ne_zero_of_getLsbD hk)
    exact absurd (htrue.symm.trans (hbelow _ hlt)) (by decide)
  · exact heq
  · have hfalse : a.getLsbD k = false := BitVec.getLsbD_false_of_lt_ctz hgt
    exact absurd (hk.symm.trans hfalse) (by decide)

theorem clz_eq {a : BitVec 32} {k : ℕ} (hk : a.getLsbD k = true)
    (habove : ∀ j < 32, k < j → a.getLsbD j = false) : 32 - a.clz.toNat = k + 1 := by
  have hne := ne_zero_of_getLsbD hk
  have hbound : a.toNat < 2 ^ (32 - a.clz.toNat) := BitVec.toNat_lt_two_pow_sub_clz
  have htop : a.getLsbD (32 - 1 - a.clz.toNat) = true :=
    BitVec.getLsbD_true_clz_of_ne_zero (by decide) hne
  have hlt : a.clz.toNat < 32 := BitVec.clz_lt_iff_ne_zero.mpr hne
  have hle : 32 - 1 - a.clz.toNat ≤ k := by
    by_contra hgt
    exact absurd (htop.symm.trans (habove _ (by omega) (Nat.not_le.mp hgt))) (by decide)
  have hge : k < 32 - a.clz.toNat := by
    have hpow : 2 ^ k < 2 ^ (32 - a.clz.toNat) := (Nat.ge_two_pow_of_testBit hk).trans_lt hbound
    exact (Nat.pow_lt_pow_iff_right Nat.one_lt_two).mp hpow
  omega

end Specs.Or1200.Isa
