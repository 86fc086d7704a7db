import ExpressionGraphs.Constant.Mappers
import ExpressionGraphs.Expr.Equality
import ExpressionGraphs.Expr.Form
import ExpressionGraphs.Expr.Identity
import ExpressionGraphs.Expr.Occurrence
import ExpressionGraphs.Expr.Passes
import ExpressionGraphs.Expr.Rebuild
import ExpressionGraphs.Expr.Substitution
import ExpressionGraphs.Expr.Text
import ExpressionGraphs.Expr.Typing
import ExpressionGraphs.Expr.Visit
import ExpressionGraphs.Member.Json
import ExpressionGraphs.Path.Access
import ExpressionGraphs.Path.Chain
import ExpressionGraphs.Proofs.Building
import ExpressionGraphs.Registry.Schema
import ExpressionGraphs.Ty.Denotation
import ExpressionGraphs.Proofs.Reachability
import ExpressionGraphs.Proofs.Replacement
import ExpressionGraphs.Proofs.Draft
import ExpressionGraphs.Proofs.Outcome
import ExpressionGraphs.Proofs.Sharing
import ExpressionGraphs.Proofs.Closure
import ExpressionGraphs.Proofs.Elimination
import ExpressionGraphs.Proofs.Preservation
import ExpressionGraphs.Proofs.Specialization
import ExpressionGraphs.Proofs.Composition
import ExpressionGraphs.Proofs.Chains
import ExpressionGraphs.Proofs.PathRoundTrip
import ExpressionGraphs.Proofs.Conversion
import ExpressionGraphs.Proofs.PathOutcome
import ExpressionGraphs.Proofs.PathConcatenation
import ExpressionGraphs.Proofs.Registries
import ExpressionGraphs.Proofs.TypeNotation
import ExpressionGraphs.Proofs.TypeText
import ExpressionGraphs.Proofs.Registrations
import ExpressionGraphs.Proofs.SchemaLoading
import ExpressionGraphs.Proofs.TomlKeys
import ExpressionGraphs.Proofs.RegistryHistory
import ExpressionGraphs.Expr.Checked
import ExpressionGraphs.Proofs.Assertions
import ExpressionGraphs.Proofs.NodeTyping
import ExpressionGraphs.Proofs.Rerooting
import ExpressionGraphs.Proofs.NullableReferences
import ExpressionGraphs.Proofs.BranchTyping
import ExpressionGraphs.Proofs.Retyping
import ExpressionGraphs.Proofs.Rendering
import ExpressionGraphs.Proofs.PathRebuilding
import ExpressionGraphs.Proofs.DeclaredAccess
import ExpressionGraphs.Proofs.MapperInput
import ExpressionGraphs.Proofs.ExprEquality
import ExpressionGraphs.Proofs.Occurrences
import ExpressionGraphs.Proofs.ConversionPipelines
import ExpressionGraphs.Proofs.ChainDecomposition
import ExpressionGraphs.Proofs.EqualReplacements
import ExpressionGraphs.Proofs.LazyResolution
import ExpressionGraphs.Proofs.UnaskedRegistrations
import ExpressionGraphs.Proofs.EmptySegments
import ExpressionGraphs.Proofs.ClassNames
import ExpressionGraphs.Proofs.BoxedConstants
import ExpressionGraphs.Proofs.Serialization
import ExpressionGraphs.Proofs.EqualTexts
import ExpressionGraphs.Proofs.Traversal
import ExpressionGraphs.Proofs.NodeSearch
