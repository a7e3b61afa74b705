import Specs.Or1200.Product

/-!
# The accumulator

A product reaches the accumulator three cycles after its instruction has entered EX.
Seen with the products that are still on their way, the register follows the
instructions without a delay, and `l.macrc` waits until nothing is on its way.
-/

namespace Specs.Or1200

namespace MultMac

/-- What an operation does to the accumulator. -/
def land (op : BitVec 3) (prod acc : BitVec 64) : BitVec 64 :=
  if op = macopMac then acc + prod else if op = macopMsb then acc - prod else acc

/-- The accumulator once all products have arrived. -/
def settled (s : State) : BitVec 64 :=
  land s.macOpR1 s.multp2.p0 (land s.macOpR2 s.multp2.p1 (land s.macOpR3 s.mulProdR s.macR))

/-- The operation that enters the pipeline. -/
def issued (s : State) (i : In) : BitVec 3 := if s.exFreezeR then macopNop else i.macOp

/-- Nothing is on its way. -/
def Quiet (s : State) : Prop :=
  s.macOpR1 = macopNop ∧ s.macOpR2 = macopNop ∧ s.macOpR3 = macopNop

instance (s : State) : Decidable (Quiet s) := inferInstanceAs (Decidable (_ ∧ _))

theorem land_nop (prod acc : BitVec 64) : land macopNop prod acc = acc := rfl

theorem Quiet.settled_eq {s : State} (h : Quiet s) : settled s = s.macR := by
  obtain ⟨h1, h2, h3⟩ := h
  rw [settled, h1, h2, h3, land_nop, land_nop, land_nop]

theorem settled_next {s : State} {i : In} (hrst : i.rst = false) :
    settled (next s i) = land (issued s i) (Gmultp2.product (x i) (y i))
      (land s.macOpR1 s.multp2.p0 (land s.macOpR2 s.multp2.p1 (nextMacR s i))) := by
  have hissued : (next s i).macOpR1 = issued s i := by
    cases hfresh : s.exFreezeR <;> simp [next, issued, hrst, hfresh]
  rw [settled, hissued]
  simp [next, Gmultp2.next, hrst]

/-- The write of a cycle, if there is one. -/
def sprWrite (i : In) (acc : BitVec 64) : BitVec 64 :=
  if sprMacloWe i then acc.extractLsb' 32 32 ++ i.sprDatI
  else if sprMachiWe i then i.sprDatI ++ acc.extractLsb' 0 32
  else acc

def writes (i : In) : Bool := sprMacloWe i || sprMachiWe i

/-- `l.macrc` leaves EX. -/
def clears (i : In) : Bool := i.macrcOp && !i.exFreeze

/-- What a cycle does to the accumulator besides issuing. -/
def retire (i : In) (acc : BitVec 64) : BitVec 64 :=
  if writes i then sprWrite i acc else if clears i then 0 else acc

theorem nextMacR_of_quiet {s : State} {i : In} (h : Quiet s) :
    nextMacR s i = retire i s.macR := by
  obtain ⟨-, -, h3⟩ := h
  rw [nextMacR, h3, retire, writes, sprWrite, clears]
  cases sprMacloWe i <;> cases sprMachiWe i <;> rfl

theorem nextMacR_of_idle {s : State} {i : In} (hwrites : writes i = false)
    (hclears : clears i = false) : nextMacR s i = land s.macOpR3 s.mulProdR s.macR := by
  obtain ⟨hlo, hhi⟩ := Bool.or_eq_false_iff.mp hwrites
  have hclears' : (i.macrcOp && !i.exFreeze) = false := hclears
  simp [nextMacR, land, hlo, hhi, hclears']

/-- Unless a write or a clearing meets products on their way, the settled accumulator
follows the instructions. -/
theorem settled_next_eq {s : State} {i : In} (hrst : i.rst = false)
    (h : writes i = true ∨ clears i = true → Quiet s) :
    settled (next s i) =
      land (issued s i) (Gmultp2.product (x i) (y i)) (retire i (settled s)) := by
  rw [settled_next hrst]
  by_cases hbusy : writes i = true ∨ clears i = true
  · have hquiet := h hbusy
    rw [nextMacR_of_quiet hquiet, hquiet.settled_eq, hquiet.1, hquiet.2.1, land_nop, land_nop]
  · obtain ⟨hwrites, hclears⟩ := not_or.mp hbusy
    have hwrites' : writes i = false := by simpa using hwrites
    have hclears' : clears i = false := by simpa using hclears
    have hretire : retire i (settled s) = settled s := by
      rw [retire, hwrites', hclears']
      rfl
    rw [nextMacR_of_idle hwrites' hclears', hretire, settled]

/-- A product that lands is the product of the operands. -/
theorem land_issued {s : State} {i : In} (h : i.macOp ≠ macopNop → i.aluOp = aluopNop)
    (acc : BitVec 64) :
    land (issued s i) (Gmultp2.product (x i) (y i)) acc =
      land (issued s i) (Gmultp2.product i.a i.b) acc := by
  by_cases hop : i.macOp = macopNop
  · have hissued : issued s i = macopNop := by
      rw [issued, hop, ite_self]
    rw [hissued, land_nop, land_nop]
  · have hoperand : ∀ v, operand v i = v := by
      intro v
      have haluOp := h hop
      have hmac : (i.macOp != macopNop) = true := bne_iff_ne.mpr hop
      have hsigned : (aluOpSdiv i || aluOpSmul i) = false := by
        rw [aluOpSdiv, aluOpSmul, haluOp]
        rfl
      rw [operand, hsigned, Bool.false_and, if_neg Bool.false_ne_true, hmac, Bool.or_true,
        if_pos rfl]
    rw [x, y, hoperand, hoperand]

/-! ## The instructions that use the accumulator -/

inductive Event
  | clear
  | mac (a b : BitVec 32)
  | msb (a b : BitVec 32)
  | maclo (data : BitVec 32)
  | machi (data : BitVec 32)
deriving DecidableEq

/-- The accumulator as the instructions see it. -/
def accumulate (acc : BitVec 64) : Event → BitVec 64
  | .clear => 0
  | .mac a b => acc + BitVec.ofInt 64 (a.toInt * b.toInt)
  | .msb a b => acc - BitVec.ofInt 64 (a.toInt * b.toInt)
  | .maclo data => acc.extractLsb' 32 32 ++ data
  | .machi data => data ++ acc.extractLsb' 0 32

def retireEvents (i : In) : List Event :=
  if sprMacloWe i then [.maclo i.sprDatI]
  else if sprMachiWe i then [.machi i.sprDatI]
  else if clears i then [.clear]
  else []

def issueEvents (s : State) (i : In) : List Event :=
  if issued s i = macopMac then [.mac i.a i.b]
  else if issued s i = macopMsb then [.msb i.a i.b]
  else []

/-- What a cycle means for the accumulator. -/
def events (s : State) (i : In) : List Event :=
  if i.rst then [.clear] else retireEvents i ++ issueEvents s i

theorem foldl_retireEvents (i : In) (acc : BitVec 64) :
    (retireEvents i).foldl accumulate acc = retire i acc := by
  rw [retireEvents, retire, writes, sprWrite]
  cases sprMacloWe i <;> cases sprMachiWe i <;> cases clears i <;> rfl

theorem foldl_issueEvents (s : State) (i : In) (acc : BitVec 64) :
    (issueEvents s i).foldl accumulate acc =
      land (issued s i) (Gmultp2.product i.a i.b) acc := by
  have hprod : Gmultp2.product i.a i.b = BitVec.ofInt 64 (i.a.toInt * i.b.toInt) := by
    rw [← Gmultp2.toInt_product, BitVec.ofInt_toInt]
  rw [issueEvents, land, hprod]
  split
  · rfl
  · split <;> rfl

theorem foldl_events {s : State} {i : In} (hbusy : writes i = true ∨ clears i = true → Quiet s)
    (haluOp : i.macOp ≠ macopNop → i.aluOp = aluopNop) :
    (events s i).foldl accumulate (settled s) = settled (next s i) := by
  cases hrst : i.rst with
  | true =>
      have hquiet : Quiet (next s i) := by simp [Quiet, next, hrst]
      have hzero : (next s i).macR = 0#64 := if_pos hrst
      rw [events, if_pos hrst, hquiet.settled_eq, hzero]
      rfl
  | false =>
      rw [settled_next_eq hrst hbusy, land_issued haluOp, events, hrst,
        if_neg Bool.false_ne_true, List.foldl_append, foldl_retireEvents, foldl_issueEvents]

end MultMac

namespace Execute

open Specs.Sync

/-! ## `l.macrc` in EX -/

theorem idMacOp_of_macrc {insn : BitVec 32} (h : idMacrcOp insn = true) :
    idMacOp insn = macopNop ∧ waitOn insn = waitOnMultmac ∧ decodeAluOp insn = aluopMovhi := by
  rw [idMacrcOp, Bool.and_eq_true, beq_iff_eq] at h
  obtain ⟨hop, hbit⟩ := h
  refine ⟨?_, ?_, ?_⟩
  · rw [idMacOp, hop]
    rfl
  · rw [waitOn, hop, hbit]
    rfl
  · rw [decodeAluOp, hop]
    rfl

/-- A multiply-accumulate instruction has no operation for the ALU. -/
theorem decodeAluOp_of_mac {insn : BitVec 32} (h : idMacOp insn ≠ macopNop) :
    decodeAluOp insn = aluopNop := by
  rw [idMacOp] at h
  split at h
  · next hop =>
      rw [decodeAluOp, hop]
      rfl
  · split at h
    · next hop =>
        rw [decodeAluOp, hop]
        rfl
    · exact absurd rfl h

/-- While `l.macrc` is in EX, it waits for as long as products may be on their way. -/
structure Drains (s : State) : Prop where
  drained : s.exMacrcOp = true → s.multMac.macStallR = false → MultMac.Quiet s.multMac
  stalled : s.exMacrcOp = true → s.multMac.macStallR = true → s.waitingOn = waitOnMultmac

theorem drains_of_not_macrc {s : State} (h : s.exMacrcOp = false) : Drains s where
  drained hmacrc := absurd (h.symm.trans hmacrc) Bool.false_ne_true
  stalled hmacrc := absurd (h.symm.trans hmacrc) Bool.false_ne_true

section step

variable {s : State} {i : In}

/-- Without a stall the next operations are those that have been issued by then. -/
theorem quiet_next (hrst : i.rst = false) (hid : idMacrcOp (idInsn s) || s.multMac.macStallR)
    (hstall : (next s i).multMac.macStallR = false) : MultMac.Quiet (next s i).multMac := by
  have hops : macOp s i = macopNop ∧ s.multMac.macOpR1 = macopNop ∧
      s.multMac.macOpR2 = macopNop := by
    have hnext : (next s i).multMac.macStallR =
        ((macOp s i != macopNop || s.multMac.macOpR1 != macopNop ||
          s.multMac.macOpR2 != macopNop) &&
            (idMacrcOp (idInsn s) || s.multMac.macStallR)) := by
      simp [next, MultMac.next, multMacIn, hrst]
    rw [hnext, hid, Bool.and_true, Bool.or_eq_false_iff, Bool.or_eq_false_iff,
      bne_eq_false_iff_eq, bne_eq_false_iff_eq, bne_eq_false_iff_eq] at hstall
    exact ⟨hstall.1.1, hstall.1.2, hstall.2⟩
  obtain ⟨h0, h1, h2⟩ := hops
  refine ⟨?_, ?_, ?_⟩
  · simp [next, MultMac.next, multMacIn, h0]
  · simp [next, MultMac.next, h1]
  · simp [next, MultMac.next, h2]

theorem Drains.next_of_moves (hrst : i.rst = false) (hmoves : exFreeze s i = false)
    (hmacrc : idMacrcOp (idInsn s) = true) :
    Drains (next s i) where
  drained _ hstall := quiet_next hrst (by rw [hmacrc, Bool.true_or]) hstall
  stalled _ _ := by
    obtain ⟨hwaiting, -⟩ := waitingOn_of_exFreeze hmoves
    rw [waitingOn_next_of_moves hrst hmoves]
    exact (idMacOp_of_macrc hmacrc).2.1

theorem Drains.next_of_frozen (h : Drains s) (hmacOp : s.exMacOp = macopNop)
    (hrst : i.rst = false) (hfrozen : exFreeze s i = true) (hmacrc : s.exMacrcOp = true) :
    Drains (next s i) := by
  have hop : macOp s i = macopNop := by rw [macOp, hmacOp, ite_self]
  cases hstall : s.multMac.macStallR with
  | true =>
      constructor
      · intro _ hstall'
        exact quiet_next hrst (by rw [hstall, Bool.or_true]) hstall'
      · intro _ _
        have hunit : macStall s i = true := by
          rw [macStall, MultMac.multMacStall, hstall]
          rfl
        exact waitingOn_next_of_stall hrst hfrozen (h.stalled hmacrc hstall) hunit
  | false =>
      obtain ⟨h1, h2, -⟩ := h.drained hmacrc hstall
      have hstall' : (next s i).multMac.macStallR = false := by
        simp [next, MultMac.next, multMacIn, hop, h1, h2]
      constructor
      · intro _ _
        refine ⟨?_, ?_, ?_⟩
        · simp [next, MultMac.next, multMacIn, hop]
        · simp [next, MultMac.next, h1]
        · simp [next, MultMac.next, h2]
      · intro _ hstalled
        exact absurd (hstall'.symm.trans hstalled) Bool.false_ne_true

theorem Drains.next (h : Drains s) (hdecoded : Decoded s) (i : In) : Drains (next s i) := by
  cases hrst : i.rst with
  | true => exact drains_of_not_macrc (latch_of_rst hrst)
  | false =>
      cases hflush : i.flushpipe with
      | true => exact drains_of_not_macrc (latch_of_flushpipe hflush)
      | false =>
          cases hfreeze : exFreeze s i with
          | false =>
              have hmacrc' : (Execute.next s i).exMacrcOp = idMacrcOp (idInsn s) :=
                latch_of_moves hrst hflush hfreeze
              cases hmacrc : idMacrcOp (idInsn s) with
              | false => exact drains_of_not_macrc (hmacrc'.trans hmacrc)
              | true => exact Drains.next_of_moves hrst hfreeze hmacrc
          | true =>
              have hmacrc' : (Execute.next s i).exMacrcOp = s.exMacrcOp :=
                latch_of_exFreeze hrst hflush hfreeze
              cases hmacrc : s.exMacrcOp with
              | false => exact drains_of_not_macrc (hmacrc'.trans hmacrc)
              | true =>
                  have hmacOp : s.exMacOp = macopNop := by
                    rw [hdecoded.exMacOp]
                    rw [hdecoded.exMacrcOp] at hmacrc
                    exact (idMacOp_of_macrc hmacrc).1
                  exact h.next_of_frozen hmacOp hrst hfreeze hmacrc

/-- Nothing is on its way when `l.macrc` leaves. -/
theorem Drains.quiet_of_clears (h : Drains s)
    (hclears : MultMac.clears (multMacIn s i) = true) : MultMac.Quiet s.multMac := by
  have hboth : s.exMacrcOp = true ∧ exFreeze s i = false := by
    simpa [MultMac.clears, multMacIn] using hclears
  obtain ⟨hmacrc, hmoves⟩ := hboth
  apply h.drained hmacrc
  rw [← Bool.not_eq_true]
  intro hstall
  have hwaiting := h.stalled hmacrc hstall
  rw [(waitingOn_of_exFreeze hmoves).1] at hwaiting
  exact absurd hwaiting (by decide)

theorem Decoded.aluOp_of_macOp (h : Decoded s) (i : In)
    (hop : (multMacIn s i).macOp ≠ macopNop) : (multMacIn s i).aluOp = aluopNop := by
  have hex : s.exMacOp ≠ macopNop := by
    intro hnop
    apply hop
    change (if i.abortMvspr then macopNop else s.exMacOp) = macopNop
    rw [hnop, ite_self]
  rw [h.exMacOp] at hex
  exact h.aluOp.trans (decodeAluOp_of_mac hex)

end step

/-! ## Runs -/

section

variable (s₀ : State) (tr : ResetTrace gate)

/-- What the cycles before `t` mean for the accumulator. -/
def history (t : ℕ) : List MultMac.Event :=
  (List.range t).flatMap fun u ↦
    MultMac.events (stateAt s₀ tr u).multMac (multMacIn (stateAt s₀ tr u) (tr u))

theorem history_succ (t : ℕ) :
    history s₀ tr (t + 1) = history s₀ tr t ++
      MultMac.events (stateAt s₀ tr t).multMac (multMacIn (stateAt s₀ tr t) (tr t)) := by
  rw [history, List.range_succ, List.flatMap_append, List.flatMap_singleton]
  rfl

theorem drains_stateAt (t : ℕ) : Drains (stateAt s₀ tr (t + 1)) := by
  induction t with
  | zero => exact drains_of_not_macrc (latch_of_rst tr.reset_first)
  | succ t ih => exact ih.next (decoded_stateAt s₀ tr t) (tr (t + 1))

/-- MACLO and MACHI are not written while products are on their way. -/
def WritesQuietly : Prop :=
  ∀ t, MultMac.writes (multMacIn (stateAt s₀ tr t) (tr t)) = true →
    MultMac.Quiet (stateAt s₀ tr t).multMac

/-- The settled accumulator is what the instructions so far make of it. -/
theorem settled_stateAt (hquiet : WritesQuietly s₀ tr) (t : ℕ) :
    MultMac.settled (stateAt s₀ tr (t + 1)).multMac =
      (history s₀ tr (t + 1)).foldl MultMac.accumulate 0 := by
  induction t with
  | zero =>
      have hrst : (tr 0).rst = true := tr.reset_first
      have hevents : MultMac.events (stateAt s₀ tr 0).multMac
          (multMacIn (stateAt s₀ tr 0) (tr 0)) = [.clear] := if_pos hrst
      have hsettled : MultMac.Quiet (stateAt s₀ tr 1).multMac := by
        simp [MultMac.Quiet, stateAt_succ, next, MultMac.next, multMacIn, hrst]
      have hzero : (stateAt s₀ tr 1).multMac.macR = 0#64 := if_pos hrst
      rw [history_succ, hevents, hsettled.settled_eq, hzero]
      rfl
  | succ t ih =>
      rw [history_succ, List.foldl_append, ← ih, stateAt_succ]
      apply (MultMac.foldl_events _ _).symm
      · rintro (hwrites | hclears)
        · exact hquiet (t + 1) hwrites
        · exact (drains_stateAt s₀ tr t).quiet_of_clears hclears
      · exact (decoded_stateAt s₀ tr t).aluOp_of_macOp (tr (t + 1))

end

/-- `l.addi r3,r0,3`, `l.addi r4,r0,-5`, `l.mac r3,r4`, `l.msb r3,r3`, and `l.macrc r5`,
which is fetched again because ID is frozen for a cycle. -/
def macProgram : List (BitVec 32) :=
  [or32Addi ++ 3#5 ++ 0#5 ++ 3#16, or32Addi ++ 4#5 ++ 0#5 ++ 0xfffb#16,
    or32Macmsb ++ 0#5 ++ 3#5 ++ 4#5 ++ 0#8 ++ 1#3, or32Macmsb ++ 0#5 ++ 3#5 ++ 3#5 ++ 0#8 ++ 2#3,
    or32Macrc ++ 5#5 ++ 0x10000#21, or32Macrc ++ 5#5 ++ 0x10000#21]

end Execute

end Specs.Or1200
