import NewBcpl.Ast
import NewBcpl.Foundations.LabelledCode
import NewBcpl.Foundations.ByteMemory
import NewBcpl.Arm64.Machine
import NewBcpl.Codegen.Operators
import NewBcpl.Optimizer.ConstantFoldingPass
import NewBcpl.Semantics.Evaluation
import NewBcpl.Optimizer.FoldingConditions
import NewBcpl.Optimizer.FoldedExpressions
import NewBcpl.Optimizer.FoldedExpressions
import NewBcpl.Optimizer.FoldedValues
import NewBcpl.Optimizer.FoldingAgreement
import NewBcpl.Foundations.FueledLoop
import NewBcpl.Semantics.Execution
import NewBcpl.Optimizer.FoldedBodies
import NewBcpl.Optimizer.FoldingRefinement
import NewBcpl.ControlFlow.CFGBuilderPass
import NewBcpl.ControlFlow.BuilderGrowth
import NewBcpl.ControlFlow.VisitGrowth
import NewBcpl.ControlFlow.TargetStacks
import NewBcpl.ControlFlow.JumpTargets
import NewBcpl.ControlFlow.TargetBalance
import NewBcpl.Cloning.AstCloner
import NewBcpl.Cloning.CloneIdentity
import NewBcpl.Codegen.CallFrameManager
import NewBcpl.Codegen.FrameLayout
import NewBcpl.Codegen.RegisterHolders
import NewBcpl.Codegen.RegisterRuns
import NewBcpl.ControlFlow.LoweredRoutines
import NewBcpl.Optimizer.DefaultTraversal
import NewBcpl.Optimizer.TraversalPlacement
import NewBcpl.Passes.ManifestBindings
import NewBcpl.Passes.ManifestResolution
import NewBcpl.Analysis.ASTAnalyzer
import NewBcpl.Analysis.BindingTraversal
import NewBcpl.Analysis.RenamedBindings
import NewBcpl.Foundations.DataFlow
import NewBcpl.Foundations.EventPaths
import NewBcpl.Liveness.LiveIn
import NewBcpl.Foundations.StateTransport
import NewBcpl.LocalOptimization.BlockExecution
import NewBcpl.LocalOptimization.HiddenVariables
import NewBcpl.LocalOptimization.RewrittenBlocks
import NewBcpl.LocalOptimization.SharedExpressions
import NewBcpl.Codegen.FrameExecution
import NewBcpl.Codegen.StackBalance
import NewBcpl.Foundations.Chains
import NewBcpl.Linking.AddressAssignment
import NewBcpl.Lists.ListDataTypes
import NewBcpl.Lists.ListOperators
import NewBcpl.Lists.OperatorRuns
import NewBcpl.Peephole.EncodedRecords
import NewBcpl.Peephole.OptimizedStreams
import NewBcpl.Runtime.DeepCopies
import NewBcpl.Runtime.Determinism
import NewBcpl.Runtime.ListOperations
import NewBcpl.Runtime.ReleaseSteps
import NewBcpl.Lists.NodeChecks
import NewBcpl.Runtime.NodePads
import NewBcpl.Runtime.Ownership
import NewBcpl.Runtime.StringReadBack
import NewBcpl.ControlFlow.GraphCalls
import NewBcpl.ControlFlow.GraphSoundness
import NewBcpl.Linking.DistinctLabels
import NewBcpl.Encoding.BitPatcher
import NewBcpl.Encoding.BitmaskAgreement
import NewBcpl.Encoding.DecodedWords
import NewBcpl.Encoding.MemoryOperands
import NewBcpl.HeapTracking.HeapManager
import NewBcpl.HeapTracking.HeapRuns
import NewBcpl.Linking.RelocatedFields
import NewBcpl.Linking.RelocationPass
import NewBcpl.Encoding.ConstantLoads
import NewBcpl.Codegen.BitfieldAccess
import NewBcpl.Codegen.BitfieldConditions
import NewBcpl.Codegen.BareCalls
import NewBcpl.Foundations.Inclusions
import NewBcpl.Preprocessing.Expansions
import NewBcpl.Liveness.LeastSets
import NewBcpl.Peephole.PassTermination
import NewBcpl.Peephole.KeptEntries
import NewBcpl.Runtime.PackedRoundTrip
import NewBcpl.Lists.ListLiterals
import NewBcpl.Optimizer.ReducedValues
import NewBcpl.Parsing.NumberNotations
import NewBcpl.Parsing.DefinitionBlocks
import NewBcpl.Parsing.ProgramRuns
import NewBcpl.HeapTracking.AllocationBounds
import NewBcpl.Runtime.DecodedPieces
import NewBcpl.Literals.StoredLiterals
import NewBcpl.Runtime.SplitRoundTrip
import NewBcpl.Parsing.SourceTexts
