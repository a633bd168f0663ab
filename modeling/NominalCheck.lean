import NominalCheck.Diagnostic.OfTypeError
import NominalCheck.Diagnostic.Print
import NominalCheck.Diagnostic.Registry
import NominalCheck.Session
import NominalCheck.Proofs.Outcome
import NominalCheck.Proofs.Table
import NominalCheck.Proofs.Scope
import NominalCheck.Proofs.Similar
import NominalCheck.Proofs.Tree.Induction
import NominalCheck.Proofs.Tree.Nodes
import NominalCheck.Proofs.Tree.Erasure
import NominalCheck.Proofs.Typing.Rules
import NominalCheck.Proofs.Typing.Node
import NominalCheck.Proofs.Typing.Expr
import NominalCheck.Proofs.Typing.Stmt
import NominalCheck.Proofs.Typing.Adequacy
import NominalCheck.Proofs.Context.Agreement
import NominalCheck.Proofs.Context.Growth
import NominalCheck.Proofs.Context.Covering
import NominalCheck.Proofs.Context.Parts
import NominalCheck.Proofs.Context.Frame
import NominalCheck.Proofs.Session.Splitting
import NominalCheck.Proofs.Session.Replay
import NominalCheck.Proofs.Shape
import NominalCheck.Proofs.ResolvedCalls
import NominalCheck.Proofs.Promotion
import NominalCheck.Proofs.Tree.Names
import NominalCheck.Proofs.Variables
import NominalCheck.Proofs.Context.Reach
import NominalCheck.Proofs.Fault.Located
import NominalCheck.Proofs.Fault.Fixes
import NominalCheck.Proofs.Session.History
import NominalCheck.Proofs.Session.Persistence
import NominalCheck.Proofs.Tree.Items
import NominalCheck.Proofs.Fault.First
import NominalCheck.Proofs.Fault.Justified
import NominalCheck.Proofs.Context.Equivalence
import NominalCheck.Proofs.Declarations
import NominalCheck.Proofs.DeclarationOrder
import NominalCheck.Proofs.Choices
import NominalCheck.Proofs.Tree.Relabelling
import NominalCheck.Proofs.Renaming
import NominalCheck.Proofs.Source.Position
import NominalCheck.Proofs.Source.Lines
import NominalCheck.Proofs.Source.Excerpt
import NominalCheck.Proofs.Source.Extents
import NominalCheck.Proofs.Source.Order
import NominalCheck.Proofs.Diagnostic.Differences
import NominalCheck.Proofs.Diagnostic.Alignment
import NominalCheck.Proofs.Diagnostic.Underlines
import NominalCheck.Proofs.Diagnostic.Colour
import NominalCheck.Proofs.Diagnostic.Registrations
import NominalCheck.Proofs.Ranking
