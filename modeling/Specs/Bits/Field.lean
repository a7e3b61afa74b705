import Mathlib.Data.BitVec

/-!
# Fields of a word

A field is a range of bits.  Instructions are decoded in two ways: a part select
gives the field as a short word, and a mask keeps the bits of one or more fields
in place.  A masked word equals the pattern made of placed values exactly when
each field has its value.
-/

namespace Specs.Bits

variable {w lo len lo' len' : ℕ}

/-- Two adjacent fields read as one are the two values put together. -/
theorem extractLsb'_eq_append_iff (x : BitVec w) (lo : ℕ) (a : BitVec len) (b : BitVec len') :
    x.extractLsb' lo (len + len') = a ++ b ↔
      x.extractLsb' (lo + len') len = a ∧ x.extractLsb' lo len' = b := by
  have hsplit : x.extractLsb' lo (len + len') =
      x.extractLsb' (lo + len') len ++ x.extractLsb' lo len' := by
    apply BitVec.eq_of_getLsbD_eq
    intro i hi
    rw [BitVec.getLsbD_append, BitVec.getLsbD_extractLsb', BitVec.getLsbD_extractLsb',
      BitVec.getLsbD_extractLsb']
    by_cases hlow : i < len'
    · simp [hlow, hi]
    · have hlen : i - len' < len := by omega
      have hadd : lo + len' + (i - len') = lo + i := by omega
      simp [hlow, hi, hlen, hadd]
  rw [hsplit]
  constructor
  · intro h
    have hhigh := congrArg (fun y ↦ y.extractLsb' len' len) h
    have hlow := congrArg (fun y ↦ y.extractLsb' 0 len') h
    simp only [BitVec.extractLsb'_append_eq_left, BitVec.extractLsb'_append_eq_right]
      at hhigh hlow
    exact ⟨hhigh, hlow⟩
  · rintro ⟨rfl, rfl⟩
    rfl

/-- The number of two values put together. -/
theorem toNat_append_eq (x : BitVec w) (y : BitVec len) :
    (x ++ y).toNat = x.toNat * 2 ^ len + y.toNat := by
  rw [BitVec.toNat_append, ← Nat.shiftLeft_add_eq_or_of_lt y.isLt, Nat.shiftLeft_eq]

/-- The mask of the `len` bits from bit `lo` on. -/
def fieldMask (w lo len : ℕ) : BitVec w := (BitVec.allOnes len).setWidth w <<< lo

/-- The value `a` placed in the field from bit `lo` on. -/
def place (w lo : ℕ) {len : ℕ} (a : BitVec len) : BitVec w := a.setWidth w <<< lo

theorem getLsbD_fieldMask (i : ℕ) :
    (fieldMask w lo len).getLsbD i = (decide (i < w) && decide (lo ≤ i ∧ i < lo + len)) := by
  rw [fieldMask, BitVec.getLsbD_shiftLeft, BitVec.getLsbD_setWidth, BitVec.getLsbD_allOnes,
    Bool.eq_iff_iff]
  simp only [Bool.and_eq_true, decide_eq_true_eq, Bool.not_eq_true', decide_eq_false_iff_not]
  omega

theorem getLsbD_place (a : BitVec len) (i : ℕ) :
    (place w lo a).getLsbD i = (decide (i < w) && decide (lo ≤ i) && a.getLsbD (i - lo)) := by
  rw [place, BitVec.getLsbD_shiftLeft, BitVec.getLsbD_setWidth]
  by_cases hw : i < w
  · by_cases hlo : i < lo
    · simp [hw, hlo]
    · have hofs : i - lo < w := (Nat.sub_le i lo).trans_lt hw
      have hle : lo ≤ i := Nat.not_lt.mp hlo
      simp [hw, hlo, hofs, hle]
  · simp [hw]

theorem getLsbD_place_add (a : BitVec len) {i : ℕ} (h : lo + i < w) :
    (place w lo a).getLsbD (lo + i) = a.getLsbD i := by
  rw [getLsbD_place]
  simp [h]

theorem getLsbD_place_of_lt (a : BitVec len) {i : ℕ} (h : i < lo) :
    (place w lo a).getLsbD i = false := by
  simp [getLsbD_place, Nat.not_le.mpr h]

theorem getLsbD_place_of_le (a : BitVec len) {i : ℕ} (h : lo + len ≤ i) :
    (place w lo a).getLsbD i = false := by
  have hlen : len ≤ i - lo := Nat.le_sub_of_add_le' h
  rw [getLsbD_place, BitVec.getLsbD_of_ge a (i - lo) hlen, Bool.and_false]

/-- The bits of a field, read through its mask and as a part select. -/
theorem and_fieldMask (x : BitVec w) :
    x &&& fieldMask w lo len = place w lo (x.extractLsb' lo len) := by
  apply BitVec.eq_of_getLsbD_eq
  intro i hi
  rw [BitVec.getLsbD_and, getLsbD_fieldMask, getLsbD_place, BitVec.getLsbD_extractLsb']
  by_cases hlo : lo ≤ i
  · have hadd : lo + (i - lo) = i := by omega
    have hlen : i < lo + len ↔ i - lo < len := by omega
    simp [hi, hlo, hadd, hlen, Bool.and_comm]
  · simp [hlo]

theorem place_or_place_inj (h : lo + len ≤ lo') (h' : lo' + len' ≤ w)
    {a b : BitVec len} {a' b' : BitVec len'} :
    place w lo' a' ||| place w lo a = place w lo' b' ||| place w lo b ↔ a' = b' ∧ a = b := by
  constructor
  · intro hab
    have hbit : ∀ i, ((place w lo' a').getLsbD i || (place w lo a).getLsbD i) =
        ((place w lo' b').getLsbD i || (place w lo b).getLsbD i) := by
      intro i
      rw [← BitVec.getLsbD_or, hab, BitVec.getLsbD_or]
    constructor
    · apply BitVec.eq_of_getLsbD_eq
      intro i hi
      have hin : lo' + i < w := by omega
      have habove : lo + len ≤ lo' + i := by omega
      have hi' := hbit (lo' + i)
      rwa [getLsbD_place_add a' hin, getLsbD_place_of_le a habove, Bool.or_false,
        getLsbD_place_add b' hin, getLsbD_place_of_le b habove, Bool.or_false] at hi'
    · apply BitVec.eq_of_getLsbD_eq
      intro i hi
      have hin : lo + i < w := by omega
      have hbelow : lo + i < lo' := by omega
      have hi' := hbit (lo + i)
      rwa [getLsbD_place_of_lt a' hbelow, getLsbD_place_add a hin, Bool.false_or,
        getLsbD_place_of_lt b' hbelow, getLsbD_place_add b hin, Bool.false_or] at hi'
  · rintro ⟨rfl, rfl⟩
    rfl

theorem place_inj (h : lo + len ≤ w) {a b : BitVec len} :
    place w lo a = place w lo b ↔ a = b := by
  constructor
  · intro hab
    apply BitVec.eq_of_getLsbD_eq
    intro i hi
    have hin : lo + i < w := by omega
    rw [← getLsbD_place_add a hin, hab, getLsbD_place_add b hin]
  · rintro rfl
    rfl

theorem and_fieldMask_eq_place_iff (h : lo + len ≤ w) (x : BitVec w) (a : BitVec len) :
    x &&& fieldMask w lo len = place w lo a ↔ x.extractLsb' lo len = a := by
  rw [and_fieldMask, place_inj h]

theorem and_fieldMasks_eq_places_iff (h : lo + len ≤ lo') (h' : lo' + len' ≤ w)
    (x : BitVec w) (a : BitVec len) (a' : BitVec len') :
    x &&& (fieldMask w lo' len' ||| fieldMask w lo len) = place w lo' a' ||| place w lo a ↔
      x.extractLsb' lo' len' = a' ∧ x.extractLsb' lo len = a := by
  rw [BitVec.and_or_distrib_left, and_fieldMask, and_fieldMask, place_or_place_inj h h']

end Specs.Bits
