import Folio.Bench
import Folio.Builder
import Folio.Catalog
import Folio.Chain.Effect
import Folio.Chain.Recursive
import Folio.Construction
import Folio.Failure
import Folio.Grammar
import Folio.Grammar.Containment
import Folio.Grammar.Derivation
import Folio.Grammar.KindWord
import Folio.Grammar.Similarity
import Folio.Grammar.Violation
import Folio.Journal.Verdict
import Folio.Node
import Folio.Node.Content
import Folio.Node.Measure
import Folio.Node.Position
import Folio.Node.Preorder
import Folio.Options.Update
import Folio.Proofs.BuilderHistory
import Folio.Proofs.ChainRecursion
import Folio.Proofs.Derivability
import Folio.Proofs.Edits
import Folio.Proofs.FirstViolation
import Folio.Proofs.FlatJoin
import Folio.Proofs.Literals
import Folio.Proofs.PathWords
import Folio.Proofs.Positions
import Folio.Text.Quoted
import Folio.Text.Upper
import Folio.Value.Equality
import Folio.Value.Literal
import Folio.Visitor
import Folio.Proofs.BuilderVerdict
import Folio.Proofs.CallOrder
import Folio.Proofs.SimilarTrees
import Folio.Proofs.ValueEquality
import Folio.Proofs.DistinctValues
import Folio.Proofs.Containment
import Folio.Proofs.WalkOrder
import Folio.Proofs.LongestPath
import Folio.Proofs.TextRecovery
import Folio.Proofs.Concatenation
import Folio.Proofs.ConstructionBoundary
import Folio.Proofs.FoldLaws
import Folio.Proofs.OptionHistory
import Folio.Proofs.LoggerHistory
import Folio.Proofs.VerdictLines
import Folio.Proofs.LevelNames
import Folio.Proofs.TextFolds
