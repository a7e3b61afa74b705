import Specs.Or1200.Genpc
import Specs.Or1200.Except
import Specs.Or1200.If
import Specs.Or1200.Immu
import Specs.Or1200.WbBiu
import Specs.Or1200.LoadStore

/-!
# The pipeline with its instruction bus

The datapath, its load/store unit, the exception unit and the fetch of the instructions, with
the program counter, the instruction port, the instruction MMU and the Wishbone interface
behind it, wired as in `or1200_cpu` and `or1200_top`.  There is no instruction cache.  The
program is in a memory on the instruction bus.
-/

namespace Specs.Or1200.System

open Specs.Sync

/-- The inputs of a cycle.  Ports that the modules drive themselves are replaced by the
wiring below. -/
structure In where
  core : LoadStore.In
  except : Except.In
  immu : Immu.In
  iwbAckI : Bool
  iwbErrI : Bool
  iwbRtyI : Bool
  iwbDatI : BitVec 32
deriving Inhabited

structure State where
  core : LoadStore.State
  except : Except.State
  genpc : Genpc.State
  waitLsu : Bool
  fetch : If.State
  immu : Immu.State
  biu : WbBiu.State
  flushpipeR : Bool
  idBranchOp : BitVec 3
  exBranchOp : BitVec 3
  exBranchAddrtarget : BitVec 30
deriving Inhabited

/-! ## Stages -/

def ctrl (s : State) : Ctrl.State := Datapath.ctrl s.core.datapath

def idInsn (s : State) : BitVec 32 := LoadStore.idInsn s.core

def exInsn (s : State) : BitVec 32 := LoadStore.exInsn s.core

def idVoid (s : State) : Bool := Ctrl.idVoid (ctrl s)

def exVoid (s : State) : Bool := Ctrl.exVoid (ctrl s)

def rst (i : In) : Bool := i.core.datapath.execute.rst

def duStall (i : In) : Bool := i.core.datapath.execute.duStall

def sr (s : State) (i : In) : BitVec 17 := Datapath.sr s.core.datapath i.core.datapath

/-! ## The instruction bus -/

/-- The inputs of the Wishbone interface from the bus, but for the data. -/
def busPorts (i : In) : WbBiu.In :=
  { (default : WbBiu.In) with
    rst := rst i
    wbAckI := i.iwbAckI
    wbErrI := i.iwbErrI
    wbRtyI := i.iwbRtyI }

def icpuAckI (s : State) (i : In) : Bool := WbBiu.biuAckO s.biu (busPorts i)

def busErr (s : State) (i : In) : Bool := WbBiu.biuErrO s.biu (busPorts i)

/-- Without an instruction cache whatever is not answered is to be repeated. -/
def icpuRtyI (s : State) (i : In) : Bool := !icpuAckI s i && !busErr s i

/-- What the bus brings: the word of the program, when the memory answers. -/
def fetched (rom : BitVec 30 → BitVec 32) (s : State) (i : In) : BitVec 32 :=
  if s.biu.wbStbO && WbBiu.wbAck (busPorts i) then rom (s.biu.wbAdrO.extractLsb' 2 30)
  else i.iwbDatI

/-! ## What the registers drive -/

def registersIn (s : State) (i : In) : LoadStore.In :=
  { i.core with
    datapath :=
      { i.core.datapath with
        execute := { i.core.datapath.execute with exPc := s.except.exPc }
        abort :=
          { i.core.datapath.abort with
            traceTrap := s.except.traceTrap
            exPcVal := s.except.exPcVal
            srTed := Except.srTedNow s.except (sr s i)
            dsrTe := Except.dsrTe s.except i.except.duDsr }
        sprs :=
          { i.core.datapath.sprs with
            branchOp := s.exBranchOp
            dsx := s.except.dsx
            epcr := s.except.epcr
            eear := s.except.eear
            esr := s.except.esr
            exceptStarted := Except.exceptStarted s.except
            sprDatNpc := s.except.sprDatNpc
            sprDatPpc := s.except.sprDatPpc
            spEpcrGhost := s.except.spEpcrGhost
            spEearGhost := s.except.spEearGhost
            spEsrGhost := s.except.spEsrGhost } } }

def sprsIn (s : State) (i : In) : Sprs.In :=
  Datapath.sprsIn s.core.datapath (LoadStore.datapathIn s.core (registersIn s i))

def pcWe (s : State) (i : In) : Bool := Sprs.pcWe s.core.datapath.sprs (sprsIn s i)

/-! ## The address of the fetch -/

/-- The inputs of `or1200_genpc` that decide on a branch. -/
def branchPorts (s : State) (i : In) : Genpc.In :=
  { (default : Genpc.In) with
    rst := rst i
    icpuRtyI := icpuRtyI s i
    icpuAdrI := Immu.icpuAdrO s.immu
    branchOp := s.exBranchOp
    exceptType := s.except.exceptType
    exceptPrefix := (sr s i).getLsbD srEph
    exBranchAddrtarget := s.exBranchAddrtarget
    operandB := Datapath.operandB s.core.datapath
    flag := (sr s i).getLsbD srF
    exceptStart := Except.exceptStart s.except
    epcr := s.except.epcr
    sprDatI := Sprs.sprDatO (sprsIn s i)
    sprPcWe := pcWe s i
    exPc := s.except.exPc
    spEpcrGhost := s.except.spEpcrGhost }

def exBranchTaken (s : State) (i : In) : Bool := Genpc.exBranchTaken s.genpc (branchPorts s i)

def noMoreDslot (s : State) (i : In) : Bool :=
  Ctrl.noMoreDslot s.exBranchOp (idVoid s) (exBranchTaken s i)

def genpcRefetch (s : State) (i : In) : Bool := If.genpcRefetch s.fetch (icpuAckI s i)

def genpcPorts (s : State) (i : In) : Genpc.In :=
  { branchPorts s i with
    genpcRefetch := genpcRefetch s i
    noMoreDslot := noMoreDslot s i }

def icpuAdrO (s : State) (i : In) : BitVec 32 := Genpc.icpuAdrO s.genpc (genpcPorts s i)

def immuPorts (s : State) (i : In) : Immu.In :=
  { i.immu with
    rst := rst i
    immuEn := (sr s i).getLsbD srIme && !Except.exceptStarted s.except
    supv := (sr s i).getLsbD srSm
    icpuAdrI := icpuAdrO s i
    qmemimmuRtyI := icpuRtyI s i
    qmemimmuErrI := busErr s i
    qmemimmuTagI := if busErr s i then itagBe else itagNi }

def icpuErrI (s : State) (i : In) : Bool := Immu.icpuErrO s.immu (immuPorts s i)

/-! ## Freezes and flushes -/

/-- The inputs of `or1200_if`, but for the freeze and the flush. -/
def ifPorts (rom : BitVec 30 → BitVec 32) (s : State) (i : In) : If.In where
  rst := rst i
  icpuDatI := fetched rom s i
  icpuAckI := icpuAckI s i
  icpuErrI := icpuErrI s i
  icpuAdrI := Immu.icpuAdrO s.immu
  icpuTagI := Immu.icpuTagO s.immu (immuPorts s i)
  ifFreeze := false
  ifFlushpipe := false
  noMoreDslot := noMoreDslot s i
  rfe := Ctrl.rfe s.idBranchOp s.exBranchOp

def ifStall (s : State) (i : In) : Bool := If.ifStall s.fetch (icpuErrI s i) (icpuAckI s i)

def corePorts (s : State) (i : In) : LoadStore.In :=
  { registersIn s i with
    datapath :=
      { (registersIn s i).datapath with
        execute := { (registersIn s i).datapath.execute with ifStall := ifStall s i } } }

def freezeIn (s : State) (i : In) : Freeze.In :=
  Execute.freezeIn s.core.datapath.execute
    (Datapath.executeIn s.core.datapath (LoadStore.datapathIn s.core (corePorts s i)))

def idFreeze (s : State) (i : In) : Bool := Freeze.idFreeze (freezeIn s i)

def exFreeze (s : State) (i : In) : Bool := LoadStore.exFreeze s.core (corePorts s i)

/-- What may abort the instruction in EX, as the load/store unit and the decoder report it. -/
def abortIn (s : State) (i : In) : Abort.In :=
  (LoadStore.datapathIn s.core (corePorts s i)).abort

/-- The inputs of the exception unit, but for the flushes. -/
def exceptPorts (rom : BitVec 30 → BitVec 32) (s : State) (i : In) : Except.In :=
  { i.except with
    rst := rst i
    sigIbuserr := If.exceptIbuserr s.fetch (ifPorts rom s i)
    sigItlbmiss := If.exceptItlbmiss s.fetch (ifPorts rom s i)
    sigImmufault := If.exceptImmufault s.fetch (ifPorts rom s i)
    sigDbuserr := (abortIn s i).sigDbuserr
    sigDtlbmiss := (abortIn s i).sigDtlbmiss
    sigDmmufault := (abortIn s i).sigDmmufault
    sigAlign := (abortIn s i).sigAlign
    sigIllegal := (abortIn s i).sigIllegal
    sigRange := (sr s i).getLsbD srOv
    sigFp := false
    exBranchTaken := exBranchTaken s i
    idFreeze := idFreeze s i
    exFreeze := exFreeze s i
    wbFreeze := exFreeze s i
    ifStall := ifStall s i
    ifPc := If.ifPc s.fetch (ifPorts rom s i)
    datain := Sprs.sprDatO (sprsIn s i)
    epcrWe := Sprs.epcrWe s.core.datapath.sprs (sprsIn s i)
    eearWe := Sprs.eearWe s.core.datapath.sprs (sprsIn s i)
    esrWe := Sprs.esrWe s.core.datapath.sprs (sprsIn s i)
    pcWe := pcWe s i
    toSr := Sprs.toSr s.core.datapath.sprs (sprsIn s i)
    srWe := Sprs.srWe s.core.datapath.sprs (sprsIn s i)
    sr := sr s i
    lsuAddr := Lsu.dcpuAdrO s.core.lsu (LoadStore.lsuPorts s.core (corePorts s i))
    exVoid := exVoid s
    branchOp := s.exBranchOp
    icpuAckI := icpuAckI s i
    icpuErrI := icpuErrI s i
    spEpcrGhostWe := Sprs.spEpcrGhostWe s.core.datapath.sprs (sprsIn s i)
    spEearGhostWe := Sprs.spEearGhostWe s.core.datapath.sprs (sprsIn s i)
    spEsrGhostWe := Sprs.spEsrGhostWe s.core.datapath.sprs (sprsIn s i) }

def flushpipe (rom : BitVec 30 → BitVec 32) (s : State) (i : In) : Bool :=
  Except.exceptFlushpipe s.except (exceptPorts rom s i) || pcWe s i || s.except.extendFlush

def ifIn (rom : BitVec 30 → BitVec 32) (s : State) (i : In) : If.In :=
  { ifPorts rom s i with
    ifFreeze := Freeze.ifFreeze (freezeIn s i) s.except.extendFlush
    ifFlushpipe := flushpipe rom s i }

def genpcFreeze (rom : BitVec 30 → BitVec 32) (s : State) (i : In) : Bool :=
  Freeze.genpcFreeze (freezeIn s i) (If.savingIfInsn s.fetch (ifIn rom s i)) s.flushpipeR

/-! ## Inputs of the units -/

def coreIn (rom : BitVec 30 → BitVec 32) (s : State) (i : In) : LoadStore.In :=
  { corePorts s i with
    datapath :=
      { (corePorts s i).datapath with
        execute :=
          { (corePorts s i).datapath.execute with
            ifInsn := If.ifInsn s.fetch (ifIn rom s i)
            flushpipe := flushpipe rom s i } } }

def exceptIn (rom : BitVec 30 → BitVec 32) (s : State) (i : In) : Except.In :=
  { exceptPorts rom s i with
    genpcFreeze := genpcFreeze rom s i
    idFlushpipe := flushpipe rom s i
    exFlushpipe := flushpipe rom s i }

def genpcIn (rom : BitVec 30 → BitVec 32) (s : State) (i : In) : Genpc.In :=
  { genpcPorts s i with genpcFreeze := genpcFreeze rom s i }

def immuIn (rom : BitVec 30 → BitVec 32) (s : State) (i : In) : Immu.In :=
  { immuPorts s i with
    icpuCycstbI :=
      Genpc.icpuCycstbO s.waitLsu (genpcFreeze rom s i) (icpuRtyI s i) s.idBranchOp }

def biuIn (rom : BitVec 30 → BitVec 32) (s : State) (i : In) : WbBiu.In :=
  { busPorts i with
    biuAdrI := Immu.qmemimmuAdrO s.immu (immuIn rom s i)
    biuCycI := Immu.qmemimmuCycstbO s.immu (immuIn rom s i)
    biuStbI := Immu.qmemimmuCycstbO s.immu (immuIn rom s i)
    biuWeI := false
    biuSelI := 0xf
    biuCabI := false }

def next (rom : BitVec 30 → BitVec 32) (s : State) (i : In) : State where
  core := LoadStore.next s.core (coreIn rom s i)
  except := Except.next s.except (exceptIn rom s i)
  genpc := Genpc.next s.genpc (genpcIn rom s i)
  waitLsu := Genpc.nextWaitLsu s.waitLsu (rst i) s.idBranchOp (freezeIn s i).lsuStall
  fetch := If.next s.fetch (ifIn rom s i)
  immu := Immu.next s.immu (immuIn rom s i)
  biu := WbBiu.next s.biu (biuIn rom s i)
  flushpipeR :=
    Freeze.nextFlushpipeR (rst i) (icpuAckI s i || icpuErrI s i) (flushpipe rom s i) s.flushpipeR
  idBranchOp :=
    if rst i then branchopNop
    else if flushpipe rom s i then branchopNop
    else if !idFreeze s i then Ctrl.decodeBranchOp (If.ifInsn s.fetch (ifIn rom s i))
    else s.idBranchOp
  exBranchOp :=
    if rst i then branchopNop
    else if (!exFreeze s i && idFreeze s i) || flushpipe rom s i then branchopNop
    else if !exFreeze s i then s.idBranchOp
    else s.exBranchOp
  exBranchAddrtarget :=
    if rst i then 0
    else if !exFreeze s i then Ctrl.idBranchAddrtarget (idInsn s) s.except.idPc
    else s.exBranchAddrtarget

def gate : Gate In := ⟨rst, fun _ ↦ true⟩

def stateAt (rom : BitVec 30 → BitVec 32) (s₀ : State) (tr : ℕ → In) (t : ℕ) : State :=
  run (next rom) s₀ tr t

end Specs.Or1200.System
