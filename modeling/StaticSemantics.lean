import StaticSemantics.Check.Session
import StaticSemantics.Proofs.Discipline.Basic
import StaticSemantics.Proofs.Scopes
import StaticSemantics.Proofs.Discipline.Trees
import StaticSemantics.Proofs.WellFormed
import StaticSemantics.Proofs.ErrorTypes
import StaticSemantics.Proofs.Typing.Rules
import StaticSemantics.Proofs.Typing.Acceptance
import StaticSemantics.Proofs.Typing.Declarations
import StaticSemantics.Proofs.Typing.Soundness
import StaticSemantics.Proofs.Typing.Completeness
import StaticSemantics.Proofs.Typing.Correctness
import StaticSemantics.Proofs.TypeCycles
import StaticSemantics.Proofs.Malformed
import StaticSemantics.Proofs.Names.Resolution
import StaticSemantics.Proofs.Forgetting
import StaticSemantics.Proofs.Independence
import StaticSemantics.Proofs.Mending
import StaticSemantics.Proofs.Layout.Realization
import StaticSemantics.Proofs.Handles
import StaticSemantics.Proofs.Collector
import StaticSemantics.Proofs.Stability
import StaticSemantics.Proofs.Simulation.Basic
import StaticSemantics.Proofs.Simulation.Rules
import StaticSemantics.Proofs.Simulation.Trees
import StaticSemantics.Proofs.Simulation.Relabeled
import StaticSemantics.Proofs.Equivariance
import StaticSemantics.Proofs.Visibility
import StaticSemantics.Proofs.Transparency
import StaticSemantics.Proofs.ScopeStack
import StaticSemantics.Proofs.WrittenJson
import StaticSemantics.Proofs.StoredDiagnostics
import StaticSemantics.Proofs.Arrivals
import StaticSemantics.Proofs.FullCount
import StaticSemantics.Proofs.FunctionOrder
import StaticSemantics.Proofs.Frames.Allocation
import StaticSemantics.Proofs.Frames.Freshness
import StaticSemantics.Proofs.Frames.Visits
import StaticSemantics.Proofs.Frames.Accounts
import StaticSemantics.Proofs.Frames.Trees
import StaticSemantics.Proofs.Frames.Apart
import StaticSemantics.Proofs.AliasWalk
import StaticSemantics.Proofs.Compatibility
import StaticSemantics.Proofs.GroupMeaning
import StaticSemantics.Proofs.TypeOrder
import StaticSemantics.Proofs.NilPlaces
import StaticSemantics.Proofs.VoidVariables
import StaticSemantics.Proofs.MismatchTexts
import StaticSemantics.Proofs.PrimitiveTypes
