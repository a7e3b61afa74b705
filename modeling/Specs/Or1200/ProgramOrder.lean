import Specs.Or1200.Fetching
import Specs.Or1200.Processor

/-!
# Program order

The pipeline fetches ahead of EX: one instruction may be in ID, one may be saved while ID is
frozen, and one may be on the bus.  As long as no branch redirects the fetch, these are the
instructions that come next.  A taken branch whose delay slot is already in ID redirects it,
and whatever the bus still brings for the old address is dropped with the branch in EX.  So
the pipeline executes the program in its instruction memory, with the delay slots of its
branches, whatever the bus and the data port make it wait for.
-/

namespace Specs.Or1200.System

open Specs.Sync

section

variable {rom : BitVec 30 → BitVec 32} {s : State} {i : In}

/-! ## Branches -/

/-- Where the instruction in EX branches to, if there is one and it does. -/
def branch (rom : BitVec 30 → BitVec 32) (s : State) (p : Isa.Processor) : Option (BitVec 30) :=
  if exVoid s then none else Isa.target p.computer.machine (rom p.pc) p.pc

/-- The registers and the memory are those of the machine, and EX has its next instruction. -/
structure Agrees (rom : BitVec 30 → BitVec 32) (s : State) (p : Isa.Processor) : Prop where
  computer : LoadStore.Agrees s.core p.computer
  insn : exVoid s = false → exInsn s = rom p.pc
  pc : exVoid s = false → s.except.exPc = p.pc ++ 0#2

variable {p : Isa.Processor}

theorem Plain.select_eq (h : Plain rom s i) :
    Genpc.select s.genpc (branchPorts s i) =
      if s.exBranchOp = branchopNop then (Genpc.sequential s.genpc, false)
      else if s.exBranchOp = branchopJ then (s.exBranchAddrtarget ++ 0#2, true)
      else if s.exBranchOp = branchopJr then (Datapath.operandB s.core.datapath, true)
      else if s.exBranchOp = branchopBf then
        if (sr s i).getLsbD srF then (s.exBranchAddrtarget ++ 0#2, true)
        else (Genpc.sequential s.genpc, false)
      else if s.exBranchOp = branchopBnf then
        if (sr s i).getLsbD srF then (Genpc.sequential s.genpc, false)
        else (s.exBranchAddrtarget ++ 0#2, true)
      else if s.exBranchOp = branchopRfe then
        (if Sprs.spIieAddrCompare s.except.exPc then s.except.spEpcrGhost else s.except.epcr, true)
      else (Sprs.sprDatO (sprsIn s i), false) := by
  have hpc : ¬(branchPorts s i).sprPcWe = true := ne_true_of_eq_false h.notExcepted.2.1
  have hexc : ¬(branchPorts s i).exceptStart = true := ne_true_of_eq_false h.exceptStart
  rw [Genpc.select, if_neg hpc, if_neg hexc]
  rfl

theorem Agrees.operandB (ha : Agrees rom s p) (hc : LoadStore.Consistent s.core)
    (hvoid : exVoid s = false) (hreads : Operands.readsB (rom p.pc) = true) :
    Datapath.operandB s.core.datapath = Isa.sourceB p.computer.machine (rom p.pc) := by
  rw [← ha.insn hvoid] at hreads ⊢
  exact ha.computer.machine.sourceB hc.datapath fun _ ↦ hreads

theorem Agrees.flag (ha : Agrees rom s p) (hvoid : exVoid s = false) (i : In)
    (hnot : Isa.setsFlag (rom p.pc) = false) :
    (sr s i).getLsbD srF = p.computer.machine.flag := by
  rw [← ha.insn hvoid] at hnot
  rw [← ha.computer.machine.flag_eq hnot]
  exact Sprs.sr_getLsbD (by decide) (by decide)

theorem Agrees.exBranchAddrtarget (ha : Agrees rom s p) (hq : Quiet s) (hvoid : exVoid s = false) :
    s.exBranchAddrtarget = Ctrl.branchOffset (rom p.pc) + p.pc := by
  rw [hq.exBranchAddrtarget hvoid, ha.insn hvoid, ha.pc hvoid, word_zero]

/-- How the decoder divides the branches. -/
theorem decodeBranchOp_cases (insn : BitVec 32) :
    (Ctrl.decodeBranchOp insn = branchopJ ∧
        ∀ m pc, Isa.target m insn pc = some (Ctrl.branchOffset insn + pc)) ∨
      (Ctrl.decodeBranchOp insn = branchopJr ∧ Operands.readsB insn = true ∧
        ∀ m pc, Isa.target m insn pc = some ((Isa.sourceB m insn).extractLsb' 2 30)) ∨
      (Ctrl.decodeBranchOp insn = branchopBnf ∧ Isa.setsFlag insn = false ∧
        ∀ m pc, Isa.target m insn pc =
          if m.flag then none else some (Ctrl.branchOffset insn + pc)) ∨
      (Ctrl.decodeBranchOp insn = branchopBf ∧ Isa.setsFlag insn = false ∧
        ∀ m pc, Isa.target m insn pc =
          if m.flag then some (Ctrl.branchOffset insn + pc) else none) ∨
      Ctrl.decodeBranchOp insn = branchopRfe ∨
      (Ctrl.decodeBranchOp insn = branchopNop ∧ ∀ m pc, Isa.target m insn pc = none) := by
  rw [Ctrl.decodeBranchOp]
  split_ifs with hj hjr hbnf hbf hrfe
  · exact Or.inl ⟨rfl, fun m pc ↦ by rw [Isa.target, if_pos hj]⟩
  · have hreads : Operands.readsB insn = true := by
      apply Isa.readsB_of_opcode
      rcases hjr with hjr | hjr <;> rw [hjr] <;> rfl
    exact Or.inr (Or.inl ⟨rfl, hreads, fun m pc ↦ by rw [Isa.target, if_neg hj, if_pos hjr]⟩)
  · have hnot : Isa.setsFlag insn = false := by
      rw [Isa.setsFlag, hbnf]
      rfl
    refine Or.inr (Or.inr (Or.inl ⟨rfl, hnot, fun m pc ↦ ?_⟩))
    rw [Isa.target, if_neg hj, if_neg hjr, if_pos hbnf]
  · have hnot : Isa.setsFlag insn = false := by
      rw [Isa.setsFlag, hbf]
      rfl
    refine Or.inr (Or.inr (Or.inr (Or.inl ⟨rfl, hnot, fun m pc ↦ ?_⟩)))
    rw [Isa.target, if_neg hj, if_neg hjr, if_neg hbnf, if_pos hbf]
  · exact Or.inr (Or.inr (Or.inr (Or.inr (Or.inl rfl))))
  · refine Or.inr (Or.inr (Or.inr (Or.inr (Or.inr ⟨rfl, fun m pc ↦ ?_⟩))))
    rw [Isa.target, if_neg hj, if_neg hjr, if_neg hbnf, if_neg hbf]

/-- The branch unit decides as the machine does. -/
theorem Agrees.branches (ha : Agrees rom s p) (hc : LoadStore.Consistent s.core) (hq : Quiet s)
    (h : Plain rom s i) :
    branchPc s i = (branch rom s p).getD (Genpc.pcreg s.genpc + 1) ∧
      exBranchTaken s i = (branch rom s p).isSome := by
  rw [branchPc, exBranchTaken, Genpc.pc, Genpc.exBranchTaken, h.select_eq, branch]
  cases hvoid : exVoid s with
  | true =>
      rw [hq.exBranchOp, decodeBranchOp_of_void hvoid]
      exact ⟨word_zero _, rfl⟩
  | false =>
      have haddr := ha.exBranchAddrtarget hq hvoid
      have hop : s.exBranchOp = Ctrl.decodeBranchOp (rom p.pc) := by
        rw [hq.exBranchOp, ha.insn hvoid]
      rw [if_neg Bool.false_ne_true, haddr]
      rcases decodeBranchOp_cases (rom p.pc) with ⟨hj, htarget⟩ | ⟨hjr, hreads, htarget⟩ |
        ⟨hbnf, hnot, htarget⟩ | ⟨hbf, hnot, htarget⟩ | hrfe | ⟨hnop, htarget⟩
      · rw [hop, hj, htarget]
        exact ⟨word_zero _, rfl⟩
      · rw [hop, hjr, htarget, ha.operandB hc hvoid hreads]
        exact ⟨rfl, rfl⟩
      · rw [hop, hbnf, htarget, ha.flag hvoid i hnot]
        cases p.computer.machine.flag <;> exact ⟨word_zero _, rfl⟩
      · rw [hop, hbf, htarget, ha.flag hvoid i hnot]
        cases p.computer.machine.flag <;> exact ⟨word_zero _, rfl⟩
      · exact absurd (hop.trans hrfe) h.exBranchOp_ne
      · rw [hop, hnop, htarget]
        exact ⟨word_zero _, rfl⟩

theorem Agrees.noMoreDslot_eq (ha : Agrees rom s p) (hc : LoadStore.Consistent s.core)
    (hq : Quiet s) (h : Plain rom s i) :
    noMoreDslot s i = (!idVoid s && (branch rom s p).isSome) := by
  rw [noMoreDslot, Ctrl.noMoreDslot, (ha.branches hc hq h).2,
    beq_eq_false_iff_ne.mpr h.exBranchOp_ne, Bool.or_false]
  cases hop : s.exBranchOp != branchopNop with
  | true => rw [Bool.true_and]
  | false =>
      -- The decoder leaves no branch without an operation.
      have htaken : exBranchTaken s i = false := by
        have hnop : s.exBranchOp = branchopNop := by simpa using hop
        rw [exBranchTaken, Genpc.exBranchTaken, h.select_eq, if_pos hnop]
      rw [← (ha.branches hc hq h).2, htaken, Bool.and_false, Bool.and_false]

/-! ## The instructions on their way -/

/-- The address that comes after the instruction in EX. -/
def nextPc (s : State) (p : Isa.Processor) : BitVec 30 := if exVoid s then p.pc else p.npc

def nextNpc (rom : BitVec 30 → BitVec 32) (s : State) (p : Isa.Processor) : BitVec 30 :=
  if exVoid s then p.npc else p.nnpc rom

/-- The addresses that come after the instruction in EX, as long as nothing branches there. -/
def upcoming (rom : BitVec 30 → BitVec 32) (s : State) (p : Isa.Processor) : ℕ → BitVec 30
  | 0 => nextPc s p
  | 1 => nextNpc rom s p
  | n + 2 => nextNpc rom s p + BitVec.ofNat 30 (n + 1)

/-- The number of instructions in ID. -/
def inId (s : State) : ℕ := (!idVoid s).toNat

/-- A branch is in EX and its delay slot in ID, so what has been fetched is dropped. -/
def Redirects (rom : BitVec 30 → BitVec 32) (s : State) (p : Isa.Processor) : Prop :=
  idVoid s = false ∧ (branch rom s p).isSome = true

/-- What is in ID and in the fetch is what comes after the instruction in EX. -/
structure Follows (rom : BitVec 30 → BitVec 32) (s : State) (p : Isa.Processor) : Prop where
  idInsn : idVoid s = false → idInsn s = rom (nextPc s p)
  idPc : idVoid s = false → s.except.idPc = nextPc s p ++ 0#2
  insnSaved : ¬Redirects rom s p → s.fetch.saved = true →
    s.fetch.insnSaved = rom (upcoming rom s p (inId s))
  addrSaved : ¬Redirects rom s p → s.fetch.saved = true →
    s.fetch.addrSaved = upcoming rom s p (inId s) ++ 0#2
  pcreg : ¬Redirects rom s p →
    Genpc.pcreg s.genpc = upcoming rom s p (inId s + s.fetch.saved.toNat)
  redirected : Redirects rom s p → s.fetch.saved = true →
    Genpc.pcreg s.genpc = nextNpc rom s p
  sequential : exVoid s = true → idVoid s = true → s.fetch.saved = false →
    nextNpc rom s p = nextPc s p + 1
  properSaved : s.fetch.saved = true → Ctrl.isVoid s.fetch.insnSaved = false
  transfer : s.biu.wbFsmState = .trans →
    s.biu.wbAdrO.extractLsb' 2 30 = Genpc.pcreg s.genpc ∨
      Redirects rom s p ∧ s.fetch.saved = false

/-- With nothing in ID and nothing saved, the fetch is where the program goes on. -/
theorem follows_of_empty (hid : idVoid s = true) (hsaved : s.fetch.saved = false)
    (hpcreg : Genpc.pcreg s.genpc = nextPc s p)
    (hsequential : exVoid s = true → nextNpc rom s p = nextPc s p + 1)
    (htransfer : s.biu.wbFsmState = .trans →
      s.biu.wbAdrO.extractLsb' 2 30 = Genpc.pcreg s.genpc) : Follows rom s p := by
  have hnotVoid : ¬idVoid s = false := by rw [hid]; exact Bool.noConfusion
  have hnotSaved : ¬s.fetch.saved = true := ne_true_of_eq_false hsaved
  constructor
  case idInsn => exact fun hvoid ↦ absurd hvoid hnotVoid
  case idPc => exact fun hvoid ↦ absurd hvoid hnotVoid
  case insnSaved => exact fun _ hword ↦ absurd hword hnotSaved
  case addrSaved => exact fun _ hword ↦ absurd hword hnotSaved
  case pcreg =>
    intro _
    have hinId : inId s = 0 := by rw [inId, hid]; rfl
    rw [hpcreg, hinId, hsaved]
    rfl
  case redirected => exact fun _ hword ↦ absurd hword hnotSaved
  case sequential => exact fun hvoid _ _ ↦ hsequential hvoid
  case properSaved => exact fun hword ↦ absurd hword hnotSaved
  case transfer => exact fun htrans ↦ Or.inl (htransfer htrans)

theorem upcoming_congr {s' : State} (hvoid : exVoid s' = exVoid s) :
    upcoming rom s' p = upcoming rom s p := by
  have hnextNpc : nextNpc rom s' p = nextNpc rom s p := by rw [nextNpc, nextNpc, hvoid]
  funext n
  match n with
  | 0 => exact congrArg (fun void ↦ if void then p.pc else p.npc) hvoid
  | 1 => exact hnextNpc
  | n + 2 => exact congrArg (· + BitVec.ofNat 30 (n + 1)) hnextNpc

theorem nextNpc_of_insn (hvoid : exVoid s = false) :
    nextNpc rom s p = (branch rom s p).getD (nextPc s p + 1) := by
  rw [nextNpc, branch, nextPc, hvoid]
  rfl

theorem nextNpc_of_branch {a : BitVec 30} (hbranch : branch rom s p = some a) :
    nextNpc rom s p = a := by
  have hvoid : exVoid s = false := by
    rw [← Bool.not_eq_true]
    intro hvoid
    rw [branch, hvoid] at hbranch
    cases hbranch
  rw [nextNpc_of_insn hvoid, hbranch]
  rfl

theorem branch_of_not_redirects (hnot : ¬Redirects rom s p) (hid : idVoid s = false) :
    branch rom s p = none := by
  rw [← Option.not_isSome_iff_eq_none]
  exact fun hsome ↦ hnot ⟨hid, hsome⟩

theorem Agrees.noMoreDslot_of_not (ha : Agrees rom s p) (hc : LoadStore.Consistent s.core)
    (hq : Quiet s) (h : Plain rom s i) (hnot : ¬Redirects rom s p) : noMoreDslot s i = false := by
  rw [ha.noMoreDslot_eq hc hq h]
  cases hid : idVoid s with
  | true => rfl
  | false =>
      rw [branch_of_not_redirects hnot hid]
      rfl

/-- Where the program counter goes after a word. -/
theorem Follows.pcreg_next (hf : Follows rom s p) (ha : Agrees rom s p)
    (hc : LoadStore.Consistent s.core) (hq : Quiet s) (h : Plain rom s i)
    (hnot : ¬Redirects rom s p) :
    Genpc.pcreg (next rom s i).genpc =
      upcoming rom s p (inId s + (s.fetch.saved || icpuAckI s i).toNat) := by
  rw [h.pcreg_next hq, h.icpuAdrO_word hq, ha.noMoreDslot_of_not hc hq h hnot,
    (ha.branches hc hq h).1, hf.pcreg hnot]
  cases hsaved : s.fetch.saved with
  | true => cases icpuAckI s i <;> rfl
  | false =>
      cases hack : icpuAckI s i with
      | false => rfl
      | true =>
          change (branch rom s p).getD (upcoming rom s p (inId s) + 1) =
            upcoming rom s p (inId s + 1)
          cases hid : idVoid s with
          | false =>
              rw [inId, hid, branch_of_not_redirects hnot hid]
              rfl
          | true =>
              rw [inId, hid]
              change (branch rom s p).getD (nextPc s p + 1) = nextNpc rom s p
              cases hvoid : exVoid s with
              | false => exact (nextNpc_of_insn hvoid).symm
              | true =>
                  rw [hf.sequential hvoid hid hsaved, branch, hvoid]
                  rfl

theorem Redirects.pcreg_next (hr : Redirects rom s p) (ha : Agrees rom s p)
    (hc : LoadStore.Consistent s.core) (hq : Quiet s) (h : Plain rom s i) :
    Genpc.pcreg (next rom s i).genpc = nextNpc rom s p := by
  obtain ⟨a, hbranch⟩ := Option.isSome_iff_exists.mp hr.2
  have hmore : noMoreDslot s i = true := by
    rw [ha.noMoreDslot_eq hc hq h, hr.1, hr.2]
    rfl
  rw [h.pcreg_next hq, h.icpuAdrO_word hq, hmore, (ha.branches hc hq h).1, hbranch,
    nextNpc_of_branch hbranch]
  rfl

/-- ID moves on with a word, or after a load or store. -/
theorem Plain.moves_cases (h : Plain rom s i) (hc : LoadStore.Consistent s.core) (hq : Quiet s)
    (hmoves : idFreeze s i = false) :
    (s.fetch.saved || icpuAckI s i) = true ∨
      ∃ acc, Isa.access (exInsn s) = some acc := by
  by_cases hword : (s.fetch.saved || icpuAckI s i) = true
  · exact Or.inl hword
  · right
    rw [Bool.not_eq_true, Bool.or_eq_false_iff] at hword
    have hstall : ifStall s i = true := by
      rw [ifStall, If.ifStall, hq.icpuErrI_eq, h.noError, hword.1, hword.2]
      rfl
    have hfreeze : idFreeze s i =
        (((freezeIn s i).lsuStall || (!i.core.lsu.dcpuAckI && ifStall s i) ||
          Freeze.multicycleFreeze (freezeIn s i) || (freezeIn s i).waitingOn != 0#2) ||
          (freezeIn s i).duStall) := rfl
    rw [hfreeze, hstall, Bool.and_true, Bool.or_eq_false_iff, Bool.or_eq_false_iff,
      Bool.or_eq_false_iff, Bool.or_eq_false_iff, Bool.not_eq_false'] at hmoves
    have hack : (coreIn rom s i).lsu.dcpuAckI = true := hmoves.1.1.1.2
    exact hc.access_of_requests (h.core.answers hack).1

theorem branch_of_access (ha : Agrees rom s p) {acc : Isa.Access}
    (hacc : Isa.access (exInsn s) = some acc) : exVoid s = false ∧ branch rom s p = none := by
  have hmem := Isa.opcode_of_access hacc
  have hvoid : exVoid s = false := by
    change Ctrl.isVoid (exInsn s) = false
    rw [Ctrl.isVoid, beq_eq_false_iff_ne.mpr (Isa.not_nop_of_access hacc), Bool.false_and]
  have hne : ∀ code ∉ Operands.loadOpcodes ++ Ctrl.storeOpcodes, opcode (exInsn s) ≠ code := by
    rintro code hcode rfl
    exact hcode hmem
  refine ⟨hvoid, ?_⟩
  rw [branch, hvoid, if_neg Bool.false_ne_true, ← ha.insn hvoid, Isa.target, if_neg, if_neg,
    if_neg (hne _ (by decide)), if_neg (hne _ (by decide))]
  · rintro (hop | hop)
    · exact hne or32Jr (by decide) hop
    · exact hne or32Jalr (by decide) hop
  · rintro (hop | hop)
    · exact hne or32J (by decide) hop
    · exact hne or32Jal (by decide) hop

/-! ## The word on the bus -/

theorem icpuAckI_iff :
    icpuAckI s i = true ↔ s.biu.wbFsmState = .trans ∧ WbBiu.wbAck (busPorts i) = true ∧
      s.biu.wbStbO = true := by
  have hunfold : icpuAckI s i =
      (s.biu.wbFsmState == .trans && WbBiu.wbAck (busPorts i) && s.biu.wbStbO) := rfl
  rw [hunfold, Bool.and_eq_true, Bool.and_eq_true, beq_iff_eq, and_assoc]

theorem Follows.fetched_eq (hf : Follows rom s p) (hnot : ¬Redirects rom s p)
    (hack : icpuAckI s i = true) : fetched rom s i = rom (Genpc.pcreg s.genpc) := by
  obtain ⟨htrans, hwbAck, hstb⟩ := icpuAckI_iff.mp hack
  rw [fetched, hwbAck, hstb]
  rcases hf.transfer htrans with hadr | ⟨hredirects, -⟩
  · rw [← hadr]
    rfl
  · exact absurd hredirects hnot

theorem Follows.word_eq (hf : Follows rom s p) (hnot : ¬Redirects rom s p)
    (hword : (s.fetch.saved || icpuAckI s i) = true) :
    word rom s i = rom (upcoming rom s p (inId s)) := by
  rw [word]
  cases hsaved : s.fetch.saved with
  | true => exact hf.insnSaved hnot hsaved
  | false =>
      rw [hsaved, Bool.false_or] at hword
      rw [if_neg Bool.false_ne_true, hf.fetched_eq hnot hword, hf.pcreg hnot, hsaved]
      rfl

theorem Follows.ifPc_eq (hf : Follows rom s p) (hq : Quiet s) (hnot : ¬Redirects rom s p) :
    If.ifPc s.fetch (ifIn rom s i) = upcoming rom s p (inId s) ++ 0#2 := by
  rw [hq.ifPc_eq]
  cases hsaved : s.fetch.saved with
  | true => exact hf.addrSaved hnot hsaved
  | false =>
      rw [if_neg Bool.false_ne_true, hf.pcreg hnot, hsaved]
      rfl

theorem Follows.isVoid_word (hf : Follows rom s p) (h : Plain rom s i)
    (hword : (s.fetch.saved || icpuAckI s i) = true) : Ctrl.isVoid (word rom s i) = false := by
  rw [word]
  cases hsaved : s.fetch.saved with
  | true => exact hf.properSaved hsaved
  | false =>
      rw [hsaved, Bool.false_or] at hword
      exact h.proper hword

/-- The strobe waits until the page number belongs to the address. -/
theorem Plain.qmemimmuAdrO_of_cycstb (h : Plain rom s i)
    (hcyc : Immu.qmemimmuCycstbO s.immu (immuIn rom s i) = true) :
    (Immu.qmemimmuAdrO s.immu (immuIn rom s i)).extractLsb' 2 30 =
      (icpuAdrO s i).extractLsb' 2 30 := by
  have hen : (immuIn rom s i).immuEn = false := h.untranslated
  have hpage : s.immu.icpuVpnR = (icpuAdrO s i).extractLsb' immuPs 19 := by
    rw [Immu.qmemimmuCycstbO, hen, if_neg Bool.false_ne_true, Bool.and_eq_true,
      Bool.not_eq_true', Immu.pageCross, bne_eq_false_iff_eq] at hcyc
    exact hcyc.2.symm
  have hphys : Immu.qmemimmuAdrO s.immu (immuIn rom s i) =
      (icpuAdrO s i).extractLsb' immuPs 19 ++ (icpuAdrO s i).extractLsb' 2 11 ++ 0#2 := by
    rw [Immu.qmemimmuAdrO, hen, Bool.false_and, if_neg Bool.false_ne_true, hpage]
    rfl
  rw [hphys]
  exact page_append _

/-- A transfer that is under way after a cycle has started in it, at the address that is now
there, or is still waiting. -/
theorem Plain.transfer_cases (h : Plain rom s i) (hq : Quiet s)
    (hnext : (next rom s i).biu.wbFsmState = .trans) :
    (next rom s i).biu.wbAdrO.extractLsb' 2 30 = Genpc.pcreg (next rom s i).genpc ∨
      (s.biu.wbFsmState = .trans ∧ icpuAckI s i = false ∧
        (next rom s i).biu.wbAdrO = s.biu.wbAdrO) := by
  have hrst : ¬rst i = true := ne_true_of_eq_false h.running
  have hadr : (next rom s i).biu.wbAdrO =
      if s.biu.wbFsmState = .idle then Immu.qmemimmuAdrO s.immu (immuIn rom s i)
      else if s.biu.wbStbO && WbBiu.wbAck (busPorts i) then
        s.biu.wbAdrO.extractLsb' 4 28 ++ (s.biu.wbAdrO.extractLsb' 2 2 + 1) ++
          s.biu.wbAdrO.extractLsb' 0 2
      else s.biu.wbAdrO := if_neg hrst
  have hstep := hq.single.wbFsmState_next (i := biuIn rom s i) h.running
  change (next rom s i).biu.wbFsmState = _ at hstep
  rw [hnext] at hstep
  by_cases hidle : s.biu.wbFsmState = .idle
  · left
    rw [if_pos hidle] at hstep hadr
    have hcyc : Immu.qmemimmuCycstbO s.immu (immuIn rom s i) = true := by
      by_contra hnot
      have hcyc : (biuIn rom s i).biuCycI = false := Bool.eq_false_iff.mpr hnot
      rw [hcyc, Bool.false_and, if_neg Bool.false_ne_true] at hstep
      cases hstep
    rw [hadr, h.pcreg_next hq]
    exact h.qmemimmuAdrO_of_cycstb hcyc
  · right
    rw [if_neg hidle] at hstep hadr
    have htrans : s.biu.wbFsmState = .trans := by
      cases hfsm : s.biu.wbFsmState with
      | idle => exact absurd hfsm hidle
      | trans => rfl
      | last => exact absurd hfsm hq.single.notLast
    have hwaits : (s.biu.wbStbO && WbBiu.wbAck (busPorts i)) = false := by
      rw [← Bool.not_eq_true, Bool.and_eq_true]
      rintro ⟨hstb, hack⟩
      have hack' : WbBiu.wbAck (biuIn rom s i) = true := hack
      have hends : WbBiu.ends s.biu (biuIn rom s i) = true := by
        rw [hq.single.ends_eq, hack', hstb, Bool.or_true, Bool.true_and]
      rw [if_pos hends] at hstep
      cases hstep
    refine ⟨htrans, ?_, ?_⟩
    · rw [← Bool.not_eq_true, icpuAckI_iff]
      rintro ⟨-, hack, hstb⟩
      rw [hack, hstb] at hwaits
      cases hwaits
    · rw [hadr, hwaits, if_neg Bool.false_ne_true]

/-! ## One cycle -/

/-- What the instructions that leave EX in a cycle, void ones apart, get from `l.mfspr`. -/
def retired (rom : BitVec 30 → BitVec 32) (s : State) (i : In) : List (BitVec 32) :=
  (LoadStore.retired s.core (coreIn rom s i)).map Isa.Issued.special

/-- The machine after a cycle. -/
def advanced (rom : BitVec 30 → BitVec 32) (s : State) (i : In) (p : Isa.Processor) :
    Isa.Processor :=
  (retired rom s i).foldl (Isa.Processor.step rom) p

theorem Plain.retired_eq (h : Plain rom s i) :
    LoadStore.retired s.core (coreIn rom s i) =
      if idFreeze s i || exVoid s then [] else [LoadStore.leaving s.core (coreIn rom s i)] := by
  have hunfold : LoadStore.retired s.core (coreIn rom s i) =
      if exFreeze s i || exVoid s then []
      else [LoadStore.leaving s.core (coreIn rom s i)] := rfl
  rw [hunfold, h.exFreeze_eq]

theorem Plain.advanced_of_frozen (h : Plain rom s i) (hfrozen : idFreeze s i = true) :
    advanced rom s i p = p := by
  rw [advanced, retired, h.retired_eq, hfrozen]
  rfl

theorem Plain.advanced_of_moves (h : Plain rom s i) (hmoves : idFreeze s i = false) :
    (advanced rom s i p).pc = nextPc s p ∧ (advanced rom s i p).npc = nextNpc rom s p := by
  rw [advanced, retired, h.retired_eq, hmoves, Bool.false_or, nextPc, nextNpc]
  cases exVoid s <;> exact ⟨rfl, rfl⟩

/-- The machine executes what leaves EX. -/
theorem Agrees.computer_advanced (ha : Agrees rom s p) (h : Plain rom s i) :
    (advanced rom s i p).computer =
      (LoadStore.retired s.core (coreIn rom s i)).foldl Isa.Computer.execute p.computer := by
  rw [advanced, retired, h.retired_eq]
  cases hvoid : exVoid s with
  | true =>
      rw [Bool.or_true]
      rfl
  | false =>
      cases idFreeze s i with
      | true => rfl
      | false =>
          have hleaving : LoadStore.leaving s.core (coreIn rom s i) =
              ⟨rom p.pc, p.pc ++ 0#2, (LoadStore.leaving s.core (coreIn rom s i)).special⟩ := by
            rw [← ha.insn hvoid, ← ha.pc hvoid]
            rfl
          change p.computer.execute ⟨rom p.pc, p.pc ++ 0#2, _⟩ = p.computer.execute _
          rw [hleaving]

theorem Plain.idVoid_of_frozen (h : Plain rom s i) (hfrozen : idFreeze s i = true) :
    idVoid (next rom s i) = idVoid s := by
  change Ctrl.isVoid (idInsn (next rom s i)) = Ctrl.isVoid (idInsn s)
  rw [h.idInsn_next, hfrozen, if_pos rfl]

theorem Plain.exVoid_of_frozen (h : Plain rom s i) (hfrozen : idFreeze s i = true) :
    exVoid (next rom s i) = exVoid s := by
  change Ctrl.isVoid (exInsn (next rom s i)) = Ctrl.isVoid (exInsn s)
  rw [h.exInsn_next, hfrozen, if_pos rfl]

theorem Plain.exVoid_of_moves (h : Plain rom s i) (hmoves : idFreeze s i = false) :
    exVoid (next rom s i) = idVoid s := by
  change Ctrl.isVoid (exInsn (next rom s i)) = Ctrl.isVoid (idInsn s)
  rw [h.exInsn_next, hmoves, if_neg Bool.false_ne_true]

/-- Whatever is in ID and in EX, the machine is there after the cycle. -/
theorem Agrees.next (ha : Agrees rom s p) (hf : Follows rom s p)
    (hc : LoadStore.Consistent s.core) (h : Plain rom s i) :
    Agrees rom (next rom s i) (advanced rom s i p) where
  computer := by
    rw [ha.computer_advanced h]
    exact ha.computer.next hc h.core
  insn hvoid := by
    cases hfreeze : idFreeze s i with
    | true =>
        rw [h.exVoid_of_frozen hfreeze] at hvoid
        rw [h.advanced_of_frozen hfreeze, h.exInsn_next, hfreeze, if_pos rfl, ha.insn hvoid]
    | false =>
        rw [h.exVoid_of_moves hfreeze] at hvoid
        rw [(h.advanced_of_moves hfreeze).1, h.exInsn_next, hfreeze, if_neg Bool.false_ne_true,
          hf.idInsn hvoid]
  pc hvoid := by
    cases hfreeze : idFreeze s i with
    | true =>
        rw [h.exVoid_of_frozen hfreeze] at hvoid
        rw [h.advanced_of_frozen hfreeze, h.exPc_next, hfreeze, if_pos rfl, ha.pc hvoid]
    | false =>
        rw [h.exVoid_of_moves hfreeze] at hvoid
        rw [(h.advanced_of_moves hfreeze).1, h.exPc_next, hfreeze, if_neg Bool.false_ne_true,
          hf.idPc hvoid]

/-- The transfer after a cycle is for the address that is there then, or for what will be
dropped. -/
theorem Follows.transfer_next (hf : Follows rom s p) (ha : Agrees rom s p)
    (hc : LoadStore.Consistent s.core) (hq : Quiet s) (h : Plain rom s i)
    (htrans : (next rom s i).biu.wbFsmState = .trans) :
    (next rom s i).biu.wbAdrO.extractLsb' 2 30 = Genpc.pcreg (next rom s i).genpc ∨
      Redirects rom s p ∧ (s.fetch.saved || icpuAckI s i) = false := by
  rcases h.transfer_cases hq htrans with hstarts | ⟨hbefore, hack, hadr⟩
  · exact Or.inl hstarts
  · rw [hack, Bool.or_false, hadr]
    by_cases hr : Redirects rom s p
    · cases hword : s.fetch.saved with
      | false => exact Or.inr ⟨hr, rfl⟩
      | true =>
          left
          rw [hr.pcreg_next ha hc hq h, ← hf.redirected hr hword]
          rcases hf.transfer hbefore with hadr | ⟨-, hnone⟩
          · exact hadr
          · rw [hword] at hnone
            cases hnone
    · left
      rw [hf.pcreg_next ha hc hq h hr, hack, Bool.or_false, ← hf.pcreg hr]
      rcases hf.transfer hbefore with hadr | ⟨hr', -⟩
      · exact hadr
      · exact absurd hr' hr

/-- While the pipeline is frozen, the fetch may come up with a word. -/
theorem Follows.next_of_frozen (hf : Follows rom s p) (ha : Agrees rom s p)
    (hc : LoadStore.Consistent s.core) (hq : Quiet s) (h : Plain rom s i)
    (hfrozen : idFreeze s i = true) : Follows rom (next rom s i) p := by
  have hid := h.idVoid_of_frozen hfrozen
  have hex := h.exVoid_of_frozen hfrozen
  have hinId : inId (next rom s i) = inId s := by rw [inId, inId, hid]
  have hupcoming : upcoming rom (next rom s i) p = upcoming rom s p := upcoming_congr hex
  have hnextPc : nextPc (next rom s i) p = nextPc s p := congrFun hupcoming 0
  have hnextNpc : nextNpc rom (next rom s i) p = nextNpc rom s p := congrFun hupcoming 1
  have hredirects : Redirects rom (next rom s i) p ↔ Redirects rom s p := by
    rw [Redirects, Redirects, branch, branch, hid, hex]
  have hsaved : (next rom s i).fetch.saved = (s.fetch.saved || icpuAckI s i) := by
    rw [h.saved_next hq, hfrozen, Bool.true_and]
  constructor
  case idInsn =>
    intro hvoid
    rw [hid] at hvoid
    rw [h.idInsn_next, hfrozen, if_pos rfl, hnextPc, hf.idInsn hvoid]
  case idPc =>
    intro hvoid
    rw [hid] at hvoid
    rw [h.idPc_next, hfrozen, if_pos rfl, hnextPc, hf.idPc hvoid]
  case insnSaved =>
    intro hnot hword
    rw [hredirects] at hnot
    rw [hsaved] at hword
    rw [(h.saved_of_frozen hq hfrozen hword).1, hf.word_eq hnot hword, hupcoming, hinId]
  case addrSaved =>
    intro hnot hword
    rw [hredirects] at hnot
    rw [hsaved] at hword
    rw [(h.saved_of_frozen hq hfrozen hword).2, hf.ifPc_eq hq hnot, hupcoming, hinId]
  case pcreg =>
    intro hnot
    rw [hredirects] at hnot
    rw [hf.pcreg_next ha hc hq h hnot, hupcoming, hinId, hsaved]
  case redirected =>
    intro hr _
    rw [hredirects] at hr
    rw [hr.pcreg_next ha hc hq h, hnextNpc]
  case sequential =>
    intro hvoid hvoid' hword
    rw [hex] at hvoid
    rw [hid] at hvoid'
    rw [hsaved, Bool.or_eq_false_iff] at hword
    rw [hnextNpc, hnextPc, hf.sequential hvoid hvoid' hword.1]
  case properSaved =>
    intro hword
    rw [hsaved] at hword
    rw [(h.saved_of_frozen hq hfrozen hword).1, hf.isVoid_word h hword]
  case transfer =>
    intro htrans
    rw [hsaved, hredirects]
    rcases hf.transfer_next ha hc hq h htrans with hadr | ⟨hr, hword⟩
    · exact Or.inl hadr
    · exact Or.inr ⟨hr, hword⟩

theorem Plain.upcoming_of_moves (h : Plain rom s i) (hmoves : idFreeze s i = false) :
    nextPc (next rom s i) (advanced rom s i p) = upcoming rom s p (inId s) := by
  obtain ⟨hpc, hnpc⟩ := h.advanced_of_moves (p := p) hmoves
  rw [nextPc, h.exVoid_of_moves hmoves, hpc, hnpc, inId]
  cases idVoid s <;> rfl

/-- A word goes to ID. -/
theorem Follows.next_of_word (hf : Follows rom s p) (ha : Agrees rom s p)
    (hc : LoadStore.Consistent s.core) (hq : Quiet s) (h : Plain rom s i)
    (hmoves : idFreeze s i = false) (hnot : ¬Redirects rom s p)
    (hword : (s.fetch.saved || icpuAckI s i) = true) :
    Follows rom (next rom s i) (advanced rom s i p) := by
  have hsaved : (next rom s i).fetch.saved = false := h.saved_of_moves hq hmoves
  have hnotSaved : ¬(next rom s i).fetch.saved = true := ne_true_of_eq_false hsaved
  have hmore : noMoreDslot s i = false := ha.noMoreDslot_of_not hc hq h hnot
  have hidInsn : System.idInsn (next rom s i) = word rom s i := by
    rw [h.idInsn_next, hmoves, if_neg Bool.false_ne_true, h.ifInsn_of_word hq hmore hword]
  have hid : idVoid (next rom s i) = false := by
    change Ctrl.isVoid (System.idInsn (next rom s i)) = false
    rw [hidInsn, hf.isVoid_word h hword]
  have hnextPc := h.upcoming_of_moves (p := p) hmoves
  constructor
  case idInsn =>
    intro _
    rw [hidInsn, hf.word_eq hnot hword, hnextPc]
  case idPc =>
    intro _
    rw [h.idPc_next, hmoves, if_neg Bool.false_ne_true, hf.ifPc_eq hq hnot, hnextPc]
  case insnSaved => exact fun _ hword ↦ absurd hword hnotSaved
  case addrSaved => exact fun _ hword ↦ absurd hword hnotSaved
  case pcreg =>
    intro hnot'
    obtain ⟨hpc, hnpc⟩ := h.advanced_of_moves (p := p) hmoves
    have hnextNpc : nextNpc rom (next rom s i) (advanced rom s i p) =
        upcoming rom s p (inId s + 1) := by
      cases hvoid : idVoid s with
      | true =>
          have hex : exVoid (next rom s i) = true := (h.exVoid_of_moves hmoves).trans hvoid
          rw [nextNpc, hex, if_pos rfl, hnpc, inId, hvoid]
          rfl
      | false =>
          have hex : exVoid (next rom s i) = false := (h.exVoid_of_moves hmoves).trans hvoid
          rw [nextNpc_of_insn hex, branch_of_not_redirects hnot' hid, hnextPc, inId, hvoid]
          rfl
    have hinId : inId (next rom s i) = 1 := by rw [inId, hid]; rfl
    rw [hf.pcreg_next ha hc hq h hnot, hword, hinId, hsaved]
    exact hnextNpc.symm
  case redirected => exact fun _ hword ↦ absurd hword hnotSaved
  case sequential =>
    intro _ hvoid _
    rw [hid] at hvoid
    cases hvoid
  case properSaved => exact fun hword ↦ absurd hword hnotSaved
  case transfer =>
    intro htrans
    rcases hf.transfer_next ha hc hq h htrans with hadr | ⟨hr, -⟩
    · exact Or.inl hadr
    · exact absurd hr hnot

/-- What has been fetched after the delay slot of a branch is dropped. -/
theorem Follows.next_of_redirects (hf : Follows rom s p) (ha : Agrees rom s p)
    (hc : LoadStore.Consistent s.core) (hq : Quiet s) (h : Plain rom s i)
    (hmoves : idFreeze s i = false) (hr : Redirects rom s p) :
    Follows rom (next rom s i) (advanced rom s i p) := by
  have hword : (s.fetch.saved || icpuAckI s i) = true := by
    rcases h.moves_cases hc hq hmoves with hword | ⟨acc, hacc⟩
    · exact hword
    · have hnone := (branch_of_access ha hacc).2
      rw [Redirects, hnone] at hr
      cases hr.2
  have hmore : noMoreDslot s i = true := by
    rw [ha.noMoreDslot_eq hc hq h, hr.1, hr.2]
    rfl
  have hid : idVoid (next rom s i) = true := by
    change Ctrl.isVoid (System.idInsn (next rom s i)) = true
    rw [h.idInsn_next, hmoves, if_neg Bool.false_ne_true, h.ifInsn_eq hq, hmore, if_pos rfl]
    exact isVoid_voidInsn
  have hex : exVoid (next rom s i) = false := (h.exVoid_of_moves hmoves).trans hr.1
  apply follows_of_empty hid (h.saved_of_moves hq hmoves)
  case hpcreg =>
    have hnextPc := h.upcoming_of_moves (p := p) hmoves
    rw [inId, hr.1] at hnextPc
    exact (hr.pcreg_next ha hc hq h).trans hnextPc.symm
  case hsequential =>
    intro hvoid
    rw [hex] at hvoid
    cases hvoid
  case htransfer =>
    intro htrans
    rcases hf.transfer_next ha hc hq h htrans with hadr | ⟨-, hnone⟩
    · exact hadr
    · rw [hword] at hnone
      cases hnone

/-- A load or store leaves EX before the next word is there. -/
theorem Follows.next_of_bubble (hf : Follows rom s p) (ha : Agrees rom s p)
    (hc : LoadStore.Consistent s.core) (hq : Quiet s) (h : Plain rom s i)
    (hmoves : idFreeze s i = false) (hword : (s.fetch.saved || icpuAckI s i) = false) :
    Follows rom (next rom s i) (advanced rom s i p) := by
  obtain ⟨hvoid, hbranch⟩ : exVoid s = false ∧ branch rom s p = none := by
    rcases h.moves_cases hc hq hmoves with hword' | ⟨acc, hacc⟩
    · rw [hword] at hword'
      cases hword'
    · exact branch_of_access ha hacc
  have hnot : ¬Redirects rom s p := by
    rintro ⟨-, hsome⟩
    rw [hbranch] at hsome
    cases hsome
  have hid : idVoid (next rom s i) = true := by
    rw [Bool.or_eq_false_iff] at hword
    change Ctrl.isVoid (System.idInsn (next rom s i)) = true
    rw [h.idInsn_next, hmoves, if_neg Bool.false_ne_true, h.ifInsn_eq hq,
      ha.noMoreDslot_of_not hc hq h hnot, hword.1, hword.2, if_neg Bool.false_ne_true,
      if_neg Bool.false_ne_true, if_neg Bool.false_ne_true]
    exact isVoid_waitingInsn
  have hnextPc := h.upcoming_of_moves (p := p) hmoves
  apply follows_of_empty hid (h.saved_of_moves hq hmoves)
  case hpcreg =>
    rw [hf.pcreg_next ha hc hq h hnot, hword]
    exact hnextPc.symm
  case hsequential =>
    intro hvoid'
    rw [h.exVoid_of_moves hmoves] at hvoid'
    rw [inId, hvoid'] at hnextPc
    rw [hnextPc, nextNpc, h.exVoid_of_moves hmoves, hvoid', if_pos rfl,
      (h.advanced_of_moves (p := p) hmoves).2, nextNpc_of_insn hvoid, hbranch]
    rfl
  case htransfer =>
    intro htrans
    rcases hf.transfer_next ha hc hq h htrans with hadr | ⟨hr, -⟩
    · exact hadr
    · exact absurd hr hnot

theorem Follows.next (hf : Follows rom s p) (ha : Agrees rom s p)
    (hc : LoadStore.Consistent s.core) (hq : Quiet s) (h : Plain rom s i) :
    Follows rom (System.next rom s i) (advanced rom s i p) := by
  cases hfreeze : idFreeze s i with
  | true =>
      rw [h.advanced_of_frozen hfreeze]
      exact hf.next_of_frozen ha hc hq h hfreeze
  | false =>
      by_cases hr : Redirects rom s p
      · exact hf.next_of_redirects ha hc hq h hfreeze hr
      · cases hword : (s.fetch.saved || icpuAckI s i) with
        | true => exact hf.next_of_word ha hc hq h hfreeze hr hword
        | false => exact hf.next_of_bubble ha hc hq h hfreeze hword

/-! ## Runs -/

/-- After a reset the fetch is at the boot address. -/
theorem follows_next_of_rst (hrst : rst i = true) (hpc : p.pc = bootAdr.extractLsb' 2 30)
    (hnpc : p.npc = p.pc + 1) : Follows rom (next rom s i) p := by
  have hex : exVoid (next rom s i) = true := exVoid_next_of_rst hrst
  have hidle : (next rom s i).biu.wbFsmState = .idle := if_pos hrst
  have hselect : (next rom s i).genpc.pcregSelect = true := if_pos hrst
  apply follows_of_empty (idVoid_next_of_rst hrst) (if_pos hrst)
  case hpcreg =>
    rw [Genpc.pcreg, hselect, if_pos rfl, nextPc, hex, if_pos rfl, hpc]
  case hsequential =>
    intro _
    rw [nextNpc, nextPc, hex, if_pos rfl, if_pos rfl, hnpc]
  case htransfer =>
    intro htrans
    rw [hidle] at htrans
    cases htrans

end

section

variable (rom : BitVec 30 → BitVec 32) (s₀ : State) (tr : ResetTrace gate)

/-- What the instructions that leave EX in the `n` cycles after the reset get from `l.mfspr`. -/
def specials (n : ℕ) : List (BitVec 32) := observed (retired rom) (next rom) s₀ tr 1 n

/-- The registers and the memory after the reset, and the boot address. -/
def initial : Isa.Processor where
  computer :=
    { machine :=
        { regs := (stateAt rom s₀ tr 1).core.datapath.execute.operands.rf.rfA.mem
          flag := false
          carry := false }
      memory := (stateAt rom s₀ tr 1).core.memory }
  pc := bootAdr.extractLsb' 2 30
  npc := bootAdr.extractLsb' 2 30 + 1

/-- The two copies of the register file start with the same contents. -/
def SameCopies : Prop := LoadStore.SameCopies s₀.core

section

variable (hquiet : Operands.Undisturbed (LoadStore.operandsIn s₀.core (coreIn rom s₀ (tr 0))))
include hquiet

theorem consistent_stateAt {n : ℕ}
    (hplain : ∀ k < n, Plain rom (stateAt rom s₀ tr (1 + k)) (tr (1 + k))) :
    LoadStore.Consistent (stateAt rom s₀ tr (1 + n)).core ∧ Quiet (stateAt rom s₀ tr (1 + n)) := by
  induction n with
  | zero =>
      refine ⟨?_, quiet_next_of_rst tr.reset_first⟩
      exact @LoadStore.consistent_next_of_rst s₀.core.datapath s₀.core.lsu
        (LoadStore.datapathIn s₀.core (coreIn rom s₀ (tr 0)))
        (LoadStore.lsuIn s₀.core (coreIn rom s₀ (tr 0))) tr.reset_first tr.reset_first hquiet
        (next rom s₀ (tr 0)).core.memory
  | succ n ih =>
      obtain ⟨hc, hq⟩ := ih fun k hk ↦ hplain k (hk.trans (Nat.lt_succ_self n))
      have hnow := hplain n (Nat.lt_succ_self n)
      exact ⟨hc.next hnow.core, hq.next hnow⟩

end

end

instance (rom : BitVec 30 → BitVec 32) (s : State) (i : In) : Decidable (Plain rom s i) :=
  decidable_of_iff (LoadStore.Plain s.core (coreIn rom s i) ∧ flushpipe rom s i = false ∧
      LoadStore.abortEx s.core (coreIn rom s i) = false ∧ (immuPorts s i).immuEn = false ∧
      busErr s i = false ∧ (icpuAckI s i = true → Ctrl.isVoid (fetched rom s i) = false) ∧
      s.idBranchOp ≠ branchopRfe)
    ⟨fun ⟨h₁, h₂, h₃, h₄, h₅, h₆, h₇⟩ ↦ ⟨h₁, h₂, h₃, h₄, h₅, h₆, h₇⟩,
      fun h ↦ ⟨h.1, h.2, h.3, h.4, h.5, h.6, h.7⟩⟩

/-- The instructions at the boot address, and fillers after them. -/
def text (insns : List (BitVec 32)) (a : BitVec 30) : BitVec 32 :=
  insns.getD (a - bootAdr.extractLsb' 2 30).toNat (or32Nop ++ 0x1000000#26)

/-- The instruction memory answers in the cycles `fetches`, the data memory in `acks`. -/
def onBuses (fetches acks : List ℕ) : ResetTrace gate where
  cycle t :=
    { (default : In) with
      core :=
        { datapath :=
            { (default : Datapath.In) with
              execute :=
                { (default : Execute.In) with
                  rst := decide (t = 0)
                  spExceptionComb := false } }
          lsu := { (default : Lsu.In) with dcpuAckI := decide (t ∈ acks) } }
      iwbAckI := decide (t ∈ fetches) }
  reset_first := rfl

/-- `l.addi r3,r0,5`, `l.sw 8(r0),r3`, `l.jal` over an instruction with `l.addi r4,r0,6` in its
delay slot, and `l.add r5,r4,r9`. -/
def call : List (BitVec 32) :=
  [or32Addi ++ 3#5 ++ 0#5 ++ 5#16,
    or32Sw ++ 0#5 ++ 0#5 ++ 3#5 ++ 8#11,
    or32Jal ++ 3#26,
    or32Addi ++ 4#5 ++ 0#5 ++ 6#16,
    or32Addi ++ 4#5 ++ 0#5 ++ 7#16,
    or32Alu ++ 5#5 ++ 4#5 ++ 9#5 ++ 0#11]

end Specs.Or1200.System
