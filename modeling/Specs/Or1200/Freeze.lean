import Specs.Or1200.Defines

/-!
# Aborts and freezes

The exception unit aborts the instruction in EX, and an abort freezes the last
pipeline stages.  Both are combinational.
-/

namespace Specs.Or1200

namespace Abort

structure In where
  sigDbuserr : Bool
  sigDmmufault : Bool
  sigDtlbmiss : Bool
  sigAlign : Bool
  sigIllegal : Bool
  exVoid : Bool
  duHwbkpt : Bool
  traceTrap : Bool
  exPcVal : Bool
  srTed : Bool
  dsrTe : Bool
deriving Inhabited

def abortEx (i : In) : Bool :=
  ((i.sigDbuserr || i.sigDmmufault || i.sigDtlbmiss || i.sigAlign || i.sigIllegal) &&
      !i.exVoid) ||
    ((i.duHwbkpt || i.traceTrap) && i.exPcVal && !i.srTed && !i.dsrTe)

def abortMvspr (i : In) : Bool :=
  (i.sigIllegal && !i.exVoid) ||
    ((i.duHwbkpt || i.traceTrap) && i.exPcVal && !i.srTed && !i.dsrTe)

theorem abortEx_of_abortMvspr {i : In} (h : abortMvspr i = true) : abortEx i = true := by
  simp only [abortMvspr, Bool.or_eq_true, Bool.and_eq_true] at h
  rcases h with ⟨hillegal, hvoid⟩ | htrap
  · simp only [abortEx, hillegal, hvoid, Bool.or_true, Bool.and_true, Bool.true_or]
  · simp only [abortEx, Bool.or_eq_true, Bool.and_eq_true]
    exact Or.inr htrap

theorem abortMvspr_of_sigIllegal {i : In} (hillegal : i.sigIllegal = true)
    (hvoid : i.exVoid = false) : abortMvspr i = true := by
  simp [abortMvspr, hillegal, hvoid]

end Abort

namespace Freeze

structure In where
  lsuStall : Bool
  lsuUnstall : Bool
  ifStall : Bool
  multicycleCnt : BitVec 3
  waitingOn : BitVec 2
  duStall : Bool
deriving Inhabited

def multicycleFreeze (i : In) : Bool := i.multicycleCnt != 0#3

def wbFreeze (i : In) (abortEx : Bool) : Bool :=
  (i.lsuStall || (!i.lsuUnstall && i.ifStall) || multicycleFreeze i || i.waitingOn != 0#2) ||
    i.duStall || abortEx

def exFreeze (i : In) (abortEx : Bool) : Bool := wbFreeze i abortEx

/-- `force_dslot_fetch` is tied to zero. -/
def idFreeze (i : In) : Bool :=
  (i.lsuStall || (!i.lsuUnstall && i.ifStall) || multicycleFreeze i || i.waitingOn != 0#2) ||
    i.duStall

theorem exFreeze_of_abortEx (i : In) : exFreeze i true = true := Bool.or_true _

/-- The part of `or1200_freeze` that holds the fetch. -/
def ifFreeze (i : In) (extendFlush : Bool) : Bool := idFreeze i || extendFlush

def genpcFreeze (i : In) (savingIfInsn flushpipeR : Bool) : Bool :=
  (i.duStall && !savingIfInsn) || flushpipeR

def nextFlushpipeR (rst fetched flushpipe flushpipeR : Bool) : Bool :=
  if rst then false
  else if fetched then flushpipe
  else if !flushpipe then false
  else flushpipeR

end Freeze

end Specs.Or1200
