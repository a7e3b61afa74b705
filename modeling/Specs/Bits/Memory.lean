import Specs.Bits.Field

/-!
# Memories of bytes

A memory has a byte at each address.  Words are kept with the high byte first.  On a bus
with byte lanes a write changes the bytes whose lanes are selected; when the selected
lanes are adjacent, this is the write of a shorter word at the address of the first one.
-/

namespace Specs.Bits

/-- The bytes at the addresses of `w` bits. -/
abbrev Memory (w : ℕ) := BitVec w → BitVec 8

namespace Memory

variable {w : ℕ}

/-- The word of `n` bytes at an address. -/
def read (m : Memory w) (a : BitVec w) : (n : ℕ) → BitVec (8 * n)
  | 0 => 0#0
  | n + 1 => read m a n ++ m (a + BitVec.ofNat w n)

/-- The memory with a word of `n` bytes at an address. -/
def write (m : Memory w) (a : BitVec w) : (n : ℕ) → BitVec (8 * n) → Memory w
  | 0, _ => m
  | n + 1, v =>
      Function.update (write m a n (v.extractLsb' 8 (8 * n))) (a + BitVec.ofNat w n)
        (v.extractLsb' 0 8)

/-- The memory after a word of `n` bytes has been written over the lanes in `sel`. -/
def writeLanes (m : Memory w) (a : BitVec w) : (n : ℕ) → BitVec n → BitVec (8 * n) → Memory w
  | 0, _, _ => m
  | n + 1, sel, dat =>
      if sel.getLsbD 0 then
        Function.update (writeLanes m a n (sel.extractLsb' 1 n) (dat.extractLsb' 8 (8 * n)))
          (a + BitVec.ofNat w n) (dat.extractLsb' 0 8)
      else writeLanes m a n (sel.extractLsb' 1 n) (dat.extractLsb' 8 (8 * n))

variable (m : Memory w) (a : BitVec w)

theorem writeLanes_succ (n : ℕ) (sel : BitVec (n + 1)) (dat : BitVec (8 * (n + 1))) :
    writeLanes m a (n + 1) sel dat =
      if sel.getLsbD 0 then
        Function.update (writeLanes m a n (sel.extractLsb' 1 n) (dat.extractLsb' 8 (8 * n)))
          (a + BitVec.ofNat w n) (dat.extractLsb' 0 8)
      else writeLanes m a n (sel.extractLsb' 1 n) (dat.extractLsb' 8 (8 * n)) := rfl

theorem offset_add (p q : ℕ) :
    a + BitVec.ofNat w p + BitVec.ofNat w q = a + BitVec.ofNat w (p + q) := by
  rw [BitVec.add_assoc, BitVec.ofNat_add]

/-! ## Parts of a word -/

theorem read_high (p q : ℕ) :
    (read m a (p + q)).extractLsb' (8 * q) (8 * p) = read m a p := by
  induction q with
  | zero =>
      apply BitVec.eq_of_getLsbD_eq
      intro k hk
      simp [hk]
  | succ q ih =>
      rw [← ih]
      apply BitVec.eq_of_getLsbD_eq
      intro k hk
      have hstep : read m a (p + (q + 1)) =
        read m a (p + q) ++ m (a + BitVec.ofNat w (p + q)) := rfl
      rw [hstep]
      simp only [BitVec.getLsbD_extractLsb', hk, decide_true, Bool.true_and]
      rw [BitVec.getLsbD_append, if_neg (by omega)]
      congr 1
      omega

theorem read_low (p q : ℕ) :
    (read m a (p + q)).extractLsb' 0 (8 * q) = read m (a + BitVec.ofNat w p) q := by
  induction q with
  | zero => exact BitVec.eq_of_getLsbD_eq fun k hk ↦ absurd hk (Nat.not_lt_zero k)
  | succ q ih =>
      rw [read, ← ih, offset_add]
      apply BitVec.eq_of_getLsbD_eq
      intro k hk
      have hstep : read m a (p + (q + 1)) =
        read m a (p + q) ++ m (a + BitVec.ofNat w (p + q)) := rfl
      rw [hstep]
      simp only [BitVec.getLsbD_extractLsb', BitVec.getLsbD_append, hk, decide_true, Bool.true_and,
        Nat.zero_add]
      split
      · rfl
      · next hlow =>
          have hk' : k - 8 < 8 * q := by omega
          simp [hk']

/-- A word inside of a longer one, with `k` bytes before and `j` bytes after it. -/
theorem read_place {N k n j : ℕ} (h : N = k + (n + j)) :
    (read m a N).extractLsb' (8 * j) (8 * n) = read m (a + BitVec.ofNat w k) n := by
  subst h
  rw [← read_high m (a + BitVec.ofNat w k) n j, ← read_low m a k (n + j)]
  apply BitVec.eq_of_getLsbD_eq
  intro i hi
  have hi' : 8 * j + i < 8 * (n + j) := by omega
  simp [hi, hi']

/-! ## Lanes -/

theorem writeLanes_append (p q : ℕ) (high : BitVec p) (low : BitVec q)
    (dat : BitVec (8 * (p + q))) :
    writeLanes m a (p + q) (high ++ low) dat =
      writeLanes (writeLanes m a p high (dat.extractLsb' (8 * q) (8 * p)))
        (a + BitVec.ofNat w p) q low (dat.extractLsb' 0 (8 * q)) := by
  induction q with
  | zero =>
      have hhigh : high ++ low = high := by
        apply BitVec.eq_of_getLsbD_eq
        intro k hk
        rw [BitVec.getLsbD_append, if_neg (Nat.not_lt_zero k)]
        rfl
      have hdat : dat.extractLsb' (8 * 0) (8 * p) = dat := by
        apply BitVec.eq_of_getLsbD_eq
        intro k hk
        simp [hk]
      rw [hhigh, hdat]
      rfl
  | succ q ih =>
      have hsel : (high ++ low).extractLsb' 1 (p + q) = high ++ low.extractLsb' 1 q := by
        apply BitVec.eq_of_getLsbD_eq
        intro k hk
        simp only [BitVec.getLsbD_extractLsb', BitVec.getLsbD_append, hk, decide_true,
          Bool.true_and]
        by_cases hkq : k < q
        · simp [hkq, show 1 + k < q + 1 by omega]
        · simp [hkq, show ¬1 + k < q + 1 by omega, show 1 + k - (q + 1) = k - q by omega]
      have hbit : (high ++ low).getLsbD 0 = low.getLsbD 0 := by
        rw [BitVec.getLsbD_append, if_pos (Nat.succ_pos q)]
      have hhigh : (dat.extractLsb' 8 (8 * (p + q))).extractLsb' (8 * q) (8 * p) =
          dat.extractLsb' (8 * (q + 1)) (8 * p) := by
        apply BitVec.eq_of_getLsbD_eq
        intro k hk
        have hadd : 8 + (8 * q + k) = 8 * (q + 1) + k := by omega
        simp [hk, show 8 * q + k < 8 * (p + q) by omega, hadd]
      have hlow : (dat.extractLsb' 8 (8 * (p + q))).extractLsb' 0 (8 * q) =
          (dat.extractLsb' 0 (8 * (q + 1))).extractLsb' 8 (8 * q) := by
        apply BitVec.eq_of_getLsbD_eq
        intro k hk
        simp [hk, show k < 8 * (p + q) by omega, show 8 + k < 8 * (q + 1) by omega]
      have hlast : (dat.extractLsb' 0 (8 * (q + 1))).extractLsb' 0 8 = dat.extractLsb' 0 8 := by
        apply BitVec.eq_of_getLsbD_eq
        intro k hk
        simp [hk, show k < 8 * (q + 1) by omega]
      have hrest := ih (low.extractLsb' 1 q) (dat.extractLsb' 8 (8 * (p + q)))
      rw [hhigh, hlow] at hrest
      have hstep := writeLanes_succ m a (p + q) (high ++ low) dat
      rw [hbit, hsel, hrest] at hstep
      rw [writeLanes_succ, hlast, offset_add]
      exact hstep

theorem writeLanes_zero (n : ℕ) (dat : BitVec (8 * n)) : writeLanes m a n 0#n dat = m := by
  induction n with
  | zero => rfl
  | succ n ih =>
      have hsel : (0#(n + 1)).extractLsb' 1 n = 0#n := by simp
      rw [writeLanes, if_neg (by simp), hsel, ih]

theorem writeLanes_allOnes (n : ℕ) (dat : BitVec (8 * n)) :
    writeLanes m a n (BitVec.allOnes n) dat = write m a n dat := by
  induction n with
  | zero => rfl
  | succ n ih =>
      have hsel : (BitVec.allOnes (n + 1)).extractLsb' 1 n = BitVec.allOnes n := by
        apply BitVec.eq_of_getLsbD_eq
        intro k hk
        simp [hk, show 1 + k < n + 1 by omega]
      rw [writeLanes, if_pos (by simp), hsel, ih, write]

theorem fieldMask_eq_append (k n j : ℕ) :
    fieldMask (k + (n + j)) j n = 0#k ++ (BitVec.allOnes n ++ 0#j) := by
  apply BitVec.eq_of_getLsbD_eq
  intro i hi
  rw [getLsbD_fieldMask, BitVec.getLsbD_append, BitVec.getLsbD_append, Bool.eq_iff_iff]
  simp only [hi, decide_true, Bool.true_and, decide_eq_true_eq, BitVec.getLsbD_zero,
    BitVec.getLsbD_allOnes]
  split
  · split
    · simp only [Bool.false_eq_true, iff_false]
      omega
    · rw [decide_eq_true_eq]
      omega
  · simp only [Bool.false_eq_true, iff_false]
    omega

/-- Adjacent lanes, with `k` before and `j` after them, write a shorter word. -/
theorem writeLanes_place {N k n j : ℕ} (h : N = k + (n + j)) (dat : BitVec (8 * N)) :
    writeLanes m a N (fieldMask N j n) dat =
      write m (a + BitVec.ofNat w k) n (dat.extractLsb' (8 * j) (8 * n)) := by
  subst h
  have hpart : (dat.extractLsb' 0 (8 * (n + j))).extractLsb' (8 * j) (8 * n) =
      dat.extractLsb' (8 * j) (8 * n) := by
    apply BitVec.eq_of_getLsbD_eq
    intro i hi
    simp [hi, show 8 * j + i < 8 * (n + j) by omega]
  rw [fieldMask_eq_append, writeLanes_append, writeLanes_zero, writeLanes_append, writeLanes_zero,
    writeLanes_allOnes, hpart]

end Memory

end Specs.Bits
