import NewBcpl.Peephole.Encoders

namespace NewBcpl
namespace Peephole

/-!
# The peephole patterns

A pattern looks at a position of a list of instructions, says whether it
matches there and how many instructions it takes, and computes what stands for
them. The computation yields nothing where the source throws. Patterns decide
from the recorded fields only.
-/

/-- Whether a pattern matches, and on how many instructions. -/
structure MatchResult where
  matched : Bool
  length : Nat
  deriving DecidableEq, Repr

/-- A pattern that was registered with the optimizer. -/
structure InstructionPattern where
  patternSize : Nat
  matcher : List Instruction -> Nat -> MatchResult
  transformer : List Instruction -> Nat -> Option (List Instruction)
  description : String

namespace MatchResult

/-- No match. -/
def failure : MatchResult := { matched := false, length := 0 }

/-- The result of a test on a window. -/
def ofTest (test : Bool) (length : Nat) : MatchResult :=
  if test then { matched := true, length := length } else failure

end MatchResult

namespace InstructionPattern

/-- A pattern that decides from one instruction. -/
def onOne (test : Instruction -> Bool)
    (replacements : Instruction -> Option (List Instruction)) (description : String) :
    InstructionPattern :=
  { patternSize := 1
    matcher := fun instrs pos =>
      match instrs[pos]? with
      | some instr => .ofTest (test instr) 1
      | none => .failure
    transformer := fun instrs pos =>
      match instrs[pos]? with
      | some instr => replacements instr
      | none => none
    description := description }

/-- A pattern that decides from two adjacent instructions. -/
def onTwo (test : Instruction -> Instruction -> Bool)
    (replacements : Instruction -> Instruction -> Option (List Instruction))
    (description : String) : InstructionPattern :=
  { patternSize := 2
    matcher := fun instrs pos =>
      match instrs[pos]?, instrs[pos + 1]? with
      | some first, some second => .ofTest (test first second) 2
      | _, _ => .failure
    transformer := fun instrs pos =>
      match instrs[pos]?, instrs[pos + 1]? with
      | some first, some second => replacements first second
      | _, _ => none
    description := description }

end InstructionPattern

/-- The name of a recorded register number. -/
def getRegisterName (regNum : Int) : Option RegisterName :=
  if 0 <= regNum ∧ regNum <= 31 then some (.x regNum.toNat)
  else if 32 <= regNum ∧ regNum <= 63 then some (.d (regNum - 32).toNat)
  else none

/-- Two recorded numbers name one register; -1 stands for an unused operand. -/
def areSameRegister (reg1 reg2 : Int) : Bool :=
  if reg1 < 0 ∨ reg2 < 0 then false else reg1 % 32 == reg2 % 32

/-- Two accesses are recorded with the same base register and the same immediate. -/
def sameRecordedLocation (first second : Instruction) : Bool :=
  areSameRegister first.baseReg second.baseReg && first.immediate == second.immediate

/-- A placeholder that never matches. -/
def placeholder (description : String) : InstructionPattern :=
  .onOne (fun _ => false) (fun instr => some [instr]) description

/-- Constant folding, which is a placeholder. -/
def createConstantFoldingPattern : InstructionPattern :=
  placeholder "Constant folding (placeholder)"

/-- `ADD` or `SUB` with a recorded immediate of zero becomes `MOV`. -/
def createIdentityOperationEliminationPattern : InstructionPattern :=
  .onOne
    (fun instr =>
      (instr.opcode == .add || instr.opcode == .sub) && instr.usesImmediate &&
        instr.immediate == 0)
    (fun instr => do
      let xd <- getRegisterName instr.destReg
      let xn <- getRegisterName instr.srcReg1
      let mov <- createMovReg xd xn
      some [mov])
    "Identity operation elimination (ADD/SUB #0 to MOV)"

/-- A `MOV` with one recorded register as both operands is removed. -/
def removeSelfMove (description : String) : InstructionPattern :=
  .onOne (fun instr => instr.opcode == .mov && instr.destReg == instr.srcReg1)
    (fun _ => some []) description

/-- Redundant moves. -/
def createRedundantMovePattern : InstructionPattern :=
  removeSelfMove "Redundant move elimination (MOV Xn, Xn)"

/-- Self moves, which are the redundant moves again. -/
def createSelfMoveEliminationPattern : InstructionPattern :=
  removeSelfMove "Self move elimination (MOV Xn, Xn)"

/-- `ADRP` and `ADD` of one label become `ADR`. -/
def createAdrFusionPattern : InstructionPattern :=
  .onTwo
    (fun adrpInstr addInstr =>
      adrpInstr.opcode == .adrp && addInstr.opcode == .add &&
        adrpInstr.destReg == addInstr.destReg && addInstr.srcReg1 == adrpInstr.destReg &&
        !(adrpInstr.targetLabel == "" || addInstr.targetLabel == "") &&
        adrpInstr.targetLabel == addInstr.targetLabel)
    (fun adrpInstr _ => do
      let xd <- getRegisterName adrpInstr.destReg
      let adrInstr <- createAdr xd adrpInstr.targetLabel
      some [adrInstr])
    "ADR fusion (ADRP+ADD to ADR)"

/-- Strength reduction, which is a placeholder. -/
def createStrengthReductionPattern : InstructionPattern :=
  placeholder "General strength reduction (placeholder)"

/-- Multiplication by a power of two, which is disabled. -/
def createMultiplyByPowerOfTwoPattern : InstructionPattern :=
  placeholder "Multiply by power of two converted to shift"

/-- Division by a power of two, which is disabled. -/
def createDivideByPowerOfTwoPattern : InstructionPattern :=
  placeholder "Divide by power of two converted to shift"

/-- A load from where its register was just stored is removed. -/
def createLoadAfterStorePattern : InstructionPattern :=
  .onTwo
    (fun strInstr ldrInstr =>
      strInstr.opcode == .str && ldrInstr.opcode == .ldr &&
        sameRecordedLocation strInstr ldrInstr &&
        areSameRegister strInstr.srcReg1 ldrInstr.destReg)
    (fun strInstr _ => some [strInstr])
    "Load-after-store elimination (STR+LDR to STR)"

/-- The second of two loads from one location becomes a `MOV`, unless the first
load changes a register that the second is recorded to read. -/
def createRedundantLoadEliminationPattern : InstructionPattern :=
  .onTwo
    (fun instr1 instr2 =>
      instr1.opcode == .ldr && instr2.opcode == .ldr && sameRecordedLocation instr1 instr2 &&
        !(areSameRegister instr1.destReg instr2.baseReg ||
          areSameRegister instr1.destReg instr2.srcReg2))
    (fun instr1 instr2 => do
      let xd <- getRegisterName instr2.destReg
      let xn <- getRegisterName instr1.destReg
      let newMov <- createMovReg xd xn
      some [instr1, newMov])
    "Redundant load elimination (LDR Rd, [..]; LDR Rd, [..] => LDR Rd, [..])"

/-- The first of two stores to one location is removed. -/
def createDeadStorePattern : InstructionPattern :=
  .onTwo
    (fun str1 str2 =>
      str1.opcode == .str && str2.opcode == .str && sameRecordedLocation str1 str2)
    (fun _ str2 => some [str2])
    "Dead store elimination (STR+STR to STR)"

/-- The first of two stores of one register to one location is removed. -/
def createRedundantStorePattern : InstructionPattern :=
  .onTwo
    (fun str1 str2 =>
      str1.opcode == .str && str2.opcode == .str && sameRecordedLocation str1 str2 &&
        areSameRegister str1.srcReg1 str2.srcReg1)
    (fun _ str2 => some [str2])
    "Redundant store elimination (STR+STR to STR)"

/-- A comparison with zero and its branch, which are put back as they were. -/
def createCompareZeroBranchPattern : InstructionPattern :=
  .onTwo
    (fun cmpInstr branchInstr =>
      cmpInstr.opcode == .cmp && branchInstr.opcode == .bCond && cmpInstr.usesImmediate &&
        cmpInstr.immediate == 0)
    (fun cmpInstr branchInstr => some [cmpInstr, branchInstr])
    "Compare zero branch pattern (CMP Xn, #0; B.cond label)"

/-- Labels, data and directives, which no pattern may start at. -/
def isSpecialInstruction (instr : Instruction) : Bool :=
  instr.isLabelDefinition || instr.isDataValue ||
    match instr.assemblyText.toList with
    | [] => true
    | letter :: _ => letter == ';' || letter == '.'

/-- The instructions behind the first definition of a branch target. -/
def behindLabel (target : String) (instrs : List Instruction) : Option (List Instruction) :=
  match instrs.dropWhile fun instr => !(instr.isLabelDefinition && instr.label == target) with
  | [] => none
  | _ :: rest => some rest

/-- A branch to a branch takes over its target. -/
def createBranchChainingPattern : InstructionPattern :=
  { patternSize := 1
    matcher := fun instrs pos =>
      match instrs[pos]? with
      | none => .failure
      | some branchInstr =>
          if branchInstr.opcode ≠ .b then .failure
          else if branchInstr.branchTarget = "" then .failure
          else
            match behindLabel branchInstr.branchTarget instrs with
            | none => .failure
            | some rest =>
                match rest.find? fun instr => !isSpecialInstruction instr with
                | none => .failure
                | some instr => .ofTest (instr.opcode == .b) 1
    transformer := fun instrs pos =>
      match instrs[pos]? with
      | none => none
      | some branchInstr =>
          match behindLabel branchInstr.branchTarget instrs with
          | some (nextBranch :: _) =>
              if nextBranch.opcode = .b then
                some [{ branchInstr with branchTarget := nextBranch.branchTarget }]
              else some [branchInstr]
          | _ => some [branchInstr]
    description := "Branch chaining (eliminate intermediate unconditional branch)" }

/-- The patterns in the order in which the optimizer registers them. -/
def registeredPatterns : List InstructionPattern :=
  [createConstantFoldingPattern,
    createIdentityOperationEliminationPattern,
    createRedundantMovePattern,
    createSelfMoveEliminationPattern,
    createAdrFusionPattern,
    createStrengthReductionPattern,
    createMultiplyByPowerOfTwoPattern,
    createDivideByPowerOfTwoPattern,
    createLoadAfterStorePattern,
    createRedundantLoadEliminationPattern,
    createDeadStorePattern,
    createRedundantStorePattern,
    createCompareZeroBranchPattern,
    createBranchChainingPattern]

end Peephole
end NewBcpl
