import SolidityAtlas.Main
import SolidityAtlas.Proofs.Analysis.DependencyView
import SolidityAtlas.Proofs.Analysis.Ownership
import SolidityAtlas.Proofs.Analysis.Requests
import SolidityAtlas.Proofs.Analysis.UnrelatedEdits
import SolidityAtlas.Proofs.Analysis.VariableLookup
import SolidityAtlas.Proofs.Inheritance.Derived
import SolidityAtlas.Proofs.Resolution.CallSites
import SolidityAtlas.Proofs.Workspace.Revisions
import SolidityAtlas.Proofs.Workspace.FileOrder
import SolidityAtlas.Proofs.Inheritance.FileOrder
import SolidityAtlas.Proofs.Analysis.FileOrder
import SolidityAtlas.Proofs.Pattern.Preferred
import SolidityAtlas.Proofs.Resolution.TypeLeaves
import SolidityAtlas.Proofs.Analysis.Provenance
import SolidityAtlas.Proofs.Outline.Readable
import SolidityAtlas.Proofs.Outline.Failures
import SolidityAtlas.Proofs.Inheritance.LinearChains
import SolidityAtlas.Proofs.Inheritance.Implementations
import SolidityAtlas.Proofs.SyntaxTree.Innermost
import SolidityAtlas.Proofs.SyntaxTree.Walks
import SolidityAtlas.Proofs.Resolution.CallArguments
import SolidityAtlas.Proofs.Resolution.FirstTypes
import SolidityAtlas.Proofs.Resolution.QualifiedTypes
import SolidityAtlas.Proofs.Analysis.VariableArrows
import SolidityAtlas.Proofs.Resolution.CallOrder
import SolidityAtlas.Proofs.Resolution.HiddenCalls
import SolidityAtlas.Proofs.Analysis.FilesShown
import SolidityAtlas.Proofs.Resolution.RepeatedCalls
import SolidityAtlas.Proofs.Analysis.Hints
import SolidityAtlas.Proofs.Workspace.SearchOrder
import SolidityAtlas.Proofs.Analysis.CurrentFile
import SolidityAtlas.Proofs.Resolution.VariableDeclarations
