import Linkage.Binding.Request
import Linkage.Binding.Resolve
import Linkage.Binding.Walk
import Linkage.Call.Echo
import Linkage.Call.Error
import Linkage.Call.Invoke
import Linkage.Call.Value
import Linkage.Conformance.Failure
import Linkage.Conformance.Harness
import Linkage.Conformance.Outcome
import Linkage.Conformance.Plan
import Linkage.Conformance.Report
import Linkage.Conformance.Scenario
import Linkage.Conformance.ScenarioJson
import Linkage.Conformance.Verdict
import Linkage.Decimal.Binary
import Linkage.Decimal.Reading
import Linkage.Decimal.Shortest
import Linkage.Json.Reader
import Linkage.Json.Value
import Linkage.Name
import Linkage.Namespace.Load
import Linkage.Namespace.Basic
import Linkage.Repository.Bundled
import Linkage.Repository.Cache
import Linkage.Repository.Files
import Linkage.Repository.Payload
import Linkage.Repository.Store
import Linkage.Script.Document
import Linkage.Script.Grammar
import Linkage.Script.Printing
import Linkage.Script.Reading
import Linkage.Signature
import Linkage.Text.Basic
import Linkage.Text.Numeral
import Linkage.Unit.Declaration
import Linkage.Unit.Registry
import Linkage.Proofs.EchoCodec
import Linkage.Proofs.Except
import Linkage.Proofs.SearchOrder
import Linkage.Proofs.InstanceDispatch
import Linkage.Proofs.BoundSymbols
import Linkage.Proofs.ParsedUnits
import Linkage.Proofs.Verdicts
import Linkage.Proofs.CanonicalCalls
import Linkage.Proofs.Passing
import Linkage.Proofs.FaithfulBodies
import Linkage.Proofs.PredictedOwners
import Linkage.Proofs.ParentlessScenarios
import Linkage.Proofs.NamespaceClosure
import Linkage.Proofs.IndependentRuns
import Linkage.Proofs.Shadowing
import Linkage.Proofs.CompleteEchoes
import Linkage.Proofs.StageTraces
import Linkage.Proofs.UnseenSecrets
import Linkage.Proofs.PrintedScripts
import Linkage.Proofs.StorageMedia
import Linkage.Proofs.Assignability
import Linkage.Proofs.HopBounds
import Linkage.Proofs.FactorySlots
import Linkage.Proofs.BundledScripts
import Linkage.Proofs.BundledCalls
import Linkage.Proofs.PredictedStatuses
import Linkage.Proofs.Transitivity
import Linkage.Proofs.SelfShadowing
import Linkage.Proofs.RaisedBounds
import Linkage.Proofs.StableHomes
import Linkage.Proofs.WellFormedSymbols
import Linkage.Proofs.DispatchFilters
import Linkage.Proofs.CycleGuard
import Linkage.Proofs.Layouts
import Linkage.Proofs.Respelling
import Linkage.Proofs.InsertedGaps
import Linkage.Proofs.EchoGrammar
import Linkage.Proofs.Tampering
import Linkage.Proofs.WellFormedDeclarations
import Linkage.Proofs.PackageClauses
import Linkage.Proofs.NormalArguments
import Linkage.Proofs.UnitRules
import Linkage.Proofs.RegistryHistory
import Linkage.Proofs.CallPhases
import Linkage.Proofs.DirectCalls
import Linkage.Proofs.FilePlaces
import Linkage.Proofs.CacheHistory
