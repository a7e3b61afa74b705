import Mathlib.Data.BitVec

/-!
# Constants of the processor

The macros of `or1200_defines.v` that the modelled modules use, under the
source's words without the prefix.
-/

namespace Specs.Or1200

/-! ## Opcodes, `insn[31:26]` -/

abbrev or32J : BitVec 6 := 0b000000#6
abbrev or32Jal : BitVec 6 := 0b000001#6
abbrev or32Bnf : BitVec 6 := 0b000011#6
abbrev or32Bf : BitVec 6 := 0b000100#6
abbrev or32Nop : BitVec 6 := 0b000101#6
abbrev or32Movhi : BitVec 6 := 0b000110#6
abbrev or32Macrc : BitVec 6 := 0b000110#6
abbrev or32Xsync : BitVec 6 := 0b001000#6
abbrev or32Rfe : BitVec 6 := 0b001001#6
abbrev or32Jr : BitVec 6 := 0b010001#6
abbrev or32Jalr : BitVec 6 := 0b010010#6
abbrev or32Maci : BitVec 6 := 0b010011#6
abbrev or32Lwz : BitVec 6 := 0b100001#6
abbrev or32Lws : BitVec 6 := 0b100010#6
abbrev or32Lbz : BitVec 6 := 0b100011#6
abbrev or32Lbs : BitVec 6 := 0b100100#6
abbrev or32Lhz : BitVec 6 := 0b100101#6
abbrev or32Lhs : BitVec 6 := 0b100110#6
abbrev or32Addi : BitVec 6 := 0b100111#6
abbrev or32Addic : BitVec 6 := 0b101000#6
abbrev or32Andi : BitVec 6 := 0b101001#6
abbrev or32Ori : BitVec 6 := 0b101010#6
abbrev or32Xori : BitVec 6 := 0b101011#6
abbrev or32Muli : BitVec 6 := 0b101100#6
abbrev or32ShRoti : BitVec 6 := 0b101110#6
abbrev or32Sfxxi : BitVec 6 := 0b101111#6
abbrev or32Mfspr : BitVec 6 := 0b101101#6
abbrev or32Mtspr : BitVec 6 := 0b110000#6
abbrev or32Macmsb : BitVec 6 := 0b110001#6
abbrev or32Sw : BitVec 6 := 0b110101#6
abbrev or32Sb : BitVec 6 := 0b110110#6
abbrev or32Sh : BitVec 6 := 0b110111#6
abbrev or32Alu : BitVec 6 := 0b111000#6
abbrev or32Sfxx : BitVec 6 := 0b111001#6

/-- The opcode field of an instruction. -/
def opcode (insn : BitVec 32) : BitVec 6 := insn.extractLsb' 26 6

/-- An opcode is looked up in a table of opcodes. -/
instance decidableMemOpcodes (op : BitVec 6) (ops : List (BitVec 6)) : Decidable (op ∈ ops) :=
  List.instDecidableMemOfLawfulBEq op ops

/-! ## Bits of the supervision register -/

abbrev srSm : ℕ := 0
abbrev srTee : ℕ := 1
abbrev srIee : ℕ := 2
abbrev srIme : ℕ := 6
abbrev srF : ℕ := 9
abbrev srCy : ℕ := 10
abbrev srOv : ℕ := 11
abbrev srOve : ℕ := 12
abbrev srDsx : ℕ := 13
abbrev srEph : ℕ := 14
abbrev srFo : ℕ := 15
abbrev srTed : ℕ := 16

/-! ## Exception types, write-back, load/store and branch operations -/

abbrev exceptNone : BitVec 4 := 0x0#4
abbrev exceptBuserr : BitVec 4 := 0x2#4
abbrev exceptDpf : BitVec 4 := 0x3#4
abbrev exceptIpf : BitVec 4 := 0x4#4
abbrev exceptTick : BitVec 4 := 0x5#4
abbrev exceptAlign : BitVec 4 := 0x6#4
abbrev exceptIllegal : BitVec 4 := 0x7#4
abbrev exceptInt : BitVec 4 := 0x8#4
abbrev exceptDtlbmiss : BitVec 4 := 0x9#4
abbrev exceptItlbmiss : BitVec 4 := 0xa#4
abbrev exceptRange : BitVec 4 := 0xb#4
abbrev exceptSyscall : BitVec 4 := 0xc#4
abbrev exceptFloat : BitVec 4 := 0xd#4
abbrev exceptTrap : BitVec 4 := 0xe#4

abbrev exceptEph0P : BitVec 20 := 0x00000#20
abbrev exceptEph1P : BitVec 20 := 0xF0000#20
abbrev exceptV : BitVec 8 := 0x00#8

abbrev bootAdr : BitVec 32 := 0x00000100#32

/-- The entry of the handler of illegal instructions. -/
abbrev spIieAddr : BitVec 32 := 0x08000000#32

abbrev rfwbopNop : BitVec 4 := 0b0000#4
abbrev rfwbopAlu : BitVec 3 := 0b000#3
abbrev rfwbopLsu : BitVec 3 := 0b001#3
abbrev rfwbopSprs : BitVec 3 := 0b010#3
abbrev rfwbopLr : BitVec 3 := 0b011#3

abbrev lsuopNop : BitVec 4 := 0b0000#4
abbrev lsuopLbz : BitVec 4 := 0b0010#4
abbrev lsuopLbs : BitVec 4 := 0b0011#4
abbrev lsuopLhz : BitVec 4 := 0b0100#4
abbrev lsuopLhs : BitVec 4 := 0b0101#4
abbrev lsuopLwz : BitVec 4 := 0b0110#4
abbrev lsuopLws : BitVec 4 := 0b0111#4
abbrev lsuopSb : BitVec 4 := 0b1010#4
abbrev lsuopSh : BitVec 4 := 0b1100#4
abbrev lsuopSw : BitVec 4 := 0b1110#4

abbrev branchopNop : BitVec 3 := 0#3
abbrev branchopJ : BitVec 3 := 1#3
abbrev branchopJr : BitVec 3 := 2#3
abbrev branchopBf : BitVec 3 := 4#3
abbrev branchopBnf : BitVec 3 := 5#3
abbrev branchopRfe : BitVec 3 := 6#3

/-! ## Arithmetic operations -/

abbrev aluopNop : BitVec 5 := 0b00100#5
abbrev aluopAdd : BitVec 5 := 0b00000#5
abbrev aluopAddc : BitVec 5 := 0b00001#5
abbrev aluopSub : BitVec 5 := 0b00010#5
abbrev aluopAnd : BitVec 5 := 0b00011#5
abbrev aluopOr : BitVec 5 := 0b00100#5
abbrev aluopXor : BitVec 5 := 0b00101#5
abbrev aluopMul : BitVec 5 := 0b00110#5
abbrev aluopShrot : BitVec 5 := 0b01000#5
abbrev aluopDiv : BitVec 5 := 0b01001#5
abbrev aluopDivu : BitVec 5 := 0b01010#5
abbrev aluopMulu : BitVec 5 := 0b01011#5
abbrev aluopExthb : BitVec 5 := 0b01100#5
abbrev aluopExtw : BitVec 5 := 0b01101#5
abbrev aluopCmov : BitVec 5 := 0b01110#5
abbrev aluopFfl1 : BitVec 5 := 0b01111#5
abbrev aluopComp : BitVec 5 := 0b10000#5
abbrev aluopMovhi : BitVec 5 := 0b10001#5

abbrev macopNop : BitVec 3 := 0b000#3
abbrev macopMac : BitVec 3 := 0b001#3
abbrev macopMsb : BitVec 3 := 0b010#3

abbrev shrotopSll : BitVec 4 := 0#4
abbrev shrotopSrl : BitVec 4 := 1#4
abbrev shrotopSra : BitVec 4 := 2#4
abbrev shrotopRor : BitVec 4 := 3#4

abbrev exthbopHs : BitVec 4 := 0x0#4
abbrev exthbopBs : BitVec 4 := 0x1#4
abbrev exthbopHz : BitVec 4 := 0x2#4
abbrev exthbopBz : BitVec 4 := 0x3#4

abbrev copSfeq : BitVec 3 := 0b000#3
abbrev copSfne : BitVec 3 := 0b001#3
abbrev copSfgt : BitVec 3 := 0b010#3
abbrev copSfge : BitVec 3 := 0b011#3
abbrev copSflt : BitVec 3 := 0b100#3
abbrev copSfle : BitVec 3 := 0b101#3

abbrev oneCycle : BitVec 3 := 0#3
abbrev twoCycles : BitVec 3 := 1#3

abbrev waitOnNothing : BitVec 2 := 0#2
abbrev waitOnMultmac : BitVec 2 := 1#2
abbrev waitOnFpu : BitVec 2 := 2#2
abbrev waitOnMtspr : BitVec 2 := 3#2

/-- The bit of an SPR address that tells MACLO from MACHI. -/
abbrev macAddr : ℕ := 0

/-! ## Bits of the debug registers DSR and DMR1 -/

abbrev duDsrBusee : ℕ := 1
abbrev duDsrDpfe : ℕ := 2
abbrev duDsrIpfe : ℕ := 3
abbrev duDsrTte : ℕ := 4
abbrev duDsrAe : ℕ := 5
abbrev duDsrIie : ℕ := 6
abbrev duDsrIe : ℕ := 7
abbrev duDsrDme : ℕ := 8
abbrev duDsrIme : ℕ := 9
abbrev duDsrRe : ℕ := 10
abbrev duDsrSce : ℕ := 11
abbrev duDsrFpe : ℕ := 12
abbrev duDsrTe : ℕ := 13

abbrev duDmr1St : ℕ := 22
abbrev duDmr1Bt : ℕ := 23

/-! ## Special-purpose registers

Groups are `spr_addr[15:11]`, offsets `spr_addr[10:0]`. -/

abbrev sprGroupSys : ℕ := 0
abbrev sprGroupMac : ℕ := 5
abbrev sprGroupPc : ℕ := 7

abbrev sprCfgr : BitVec 7 := 0#7
abbrev sprRf : BitVec 6 := 32#6
abbrev sprNpc : BitVec 11 := 16#11
abbrev sprSr : BitVec 11 := 17#11
abbrev sprPpc : BitVec 11 := 18#11
abbrev sprFpcsr : BitVec 11 := 20#11
abbrev sprEpcr : BitVec 11 := 32#11
abbrev sprEear : BitVec 11 := 48#11
abbrev sprEsr : BitVec 11 := 64#11

abbrev pcPccr0 : BitVec 11 := 0#11
abbrev pcPccr1 : BitVec 11 := 1#11
abbrev pcPccr2 : BitVec 11 := 2#11
abbrev pcPccr3 : BitVec 11 := 3#11
abbrev pcPccr4 : BitVec 11 := 4#11
abbrev pcPccr5 : BitVec 11 := 5#11
abbrev pcPccr6 : BitVec 11 := 6#11
abbrev pcPccr7 : BitVec 11 := 7#11

/-! ## Translation of fetch addresses

Pages have 8 KB.  The index of an entry is `vaddr[18:13]`, and its tag is
`vaddr[31:19]`. -/

abbrev immuPs : ℕ := 13
abbrev itlbIndxw : ℕ := 6
abbrev itlbTagl : ℕ := 19
abbrev itlbTagw : ℕ := 13
abbrev itlbTmAddr : ℕ := 7
abbrev itlbmrVBits : ℕ := 0
abbrev itlbtrCiBits : ℕ := 1
abbrev itlbtrSxeBits : ℕ := 6
abbrev itlbtrUxeBits : ℕ := 7
abbrev immuCi : Bool := false

/-! ## Tags of data and fetch answers -/

abbrev dtagIdle : BitVec 4 := 0x0#4
abbrev dtagNd : BitVec 4 := 0x1#4
abbrev dtagBe : BitVec 4 := 0xb#4
abbrev dtagPe : BitVec 4 := 0xc#4
abbrev dtagTe : BitVec 4 := 0xd#4

abbrev itagNi : BitVec 4 := 0x1#4
abbrev itagBe : BitVec 4 := 0xb#4
abbrev itagPe : BitVec 4 := 0xc#4
abbrev itagTe : BitVec 4 := 0xd#4

end Specs.Or1200
