import ConstellationTopology.CandidateClosure
import ConstellationTopology.CandidateIsolation
import ConstellationTopology.CompileAcceptance
import ConstellationTopology.CompileIdentity
import ConstellationTopology.CompileResult
import ConstellationTopology.CompileRoundTrip
import ConstellationTopology.CompileTopology
import ConstellationTopology.Compiler
import ConstellationTopology.Domain.Assessment
import ConstellationTopology.Domain.BridgeGap
import ConstellationTopology.Domain.Candidate
import ConstellationTopology.Domain.Claim
import ConstellationTopology.Domain.Confidence
import ConstellationTopology.Domain.Corpus
import ConstellationTopology.Domain.Edge
import ConstellationTopology.Domain.Entities
import ConstellationTopology.Domain.Topology
import ConstellationTopology.Io.AtomicWrite
import ConstellationTopology.Io.BundleAtomicity
import ConstellationTopology.Io.BundleCommit
import ConstellationTopology.Io.CommitRefinement
import ConstellationTopology.Io.FileSystemOutputSink
import ConstellationTopology.Io.FileTree
import ConstellationTopology.Io.MemoryOutputSink
import ConstellationTopology.Io.PacketBundleOutputSink
import ConstellationTopology.Io.ReceiptHonoured
import ConstellationTopology.Io.SinkAgreement
import ConstellationTopology.Io.TreeDisk
import ConstellationTopology.Io.WriteContainment
import ConstellationTopology.Io.WritePlan
import ConstellationTopology.Library.BreadthFirst
import ConstellationTopology.Library.Checks
import ConstellationTopology.Library.Collection
import ConstellationTopology.Library.DotSegments
import ConstellationTopology.Library.ElementaryCycle
import ConstellationTopology.Library.Fallible
import ConstellationTopology.Library.Json
import ConstellationTopology.Library.JsonText
import ConstellationTopology.Library.KeyOrder
import ConstellationTopology.Library.Keyset
import ConstellationTopology.Library.Lines
import ConstellationTopology.Library.LinkedDisk
import ConstellationTopology.Library.Pool
import ConstellationTopology.Library.Stringify
import ConstellationTopology.Library.Table
import ConstellationTopology.Library.Text
import ConstellationTopology.Library.Transition
import ConstellationTopology.Packets.BundleLoader
import ConstellationTopology.Packets.BundleManifest
import ConstellationTopology.Packets.BundleReading
import ConstellationTopology.Packets.BundleRendering
import ConstellationTopology.Packets.BundleVerification
import ConstellationTopology.Packets.CorpusAnalysis
import ConstellationTopology.Packets.CorpusEvidence
import ConstellationTopology.Packets.CorpusIntelligence
import ConstellationTopology.Packets.CorpusSoundness
import ConstellationTopology.Packets.CorpusValidator
import ConstellationTopology.Packets.GenerationFiles
import ConstellationTopology.Packets.LegacyRoots
import ConstellationTopology.Packets.ManifestBinding
import ConstellationTopology.Packets.MetaGeneration
import ConstellationTopology.Packets.PacketRoundTrip
import ConstellationTopology.Packets.PayloadAgreement
import ConstellationTopology.Packets.PayloadFraming
import ConstellationTopology.Packets.PayloadStorage
import ConstellationTopology.Packets.Payloads
import ConstellationTopology.Packets.ReceiptRoundTrip
import ConstellationTopology.Packets.RepositoryModel
import ConstellationTopology.Packets.RepositoryValidation
import ConstellationTopology.Packets.SignalConservation
import ConstellationTopology.Packets.SignalLocators
import ConstellationTopology.Packets.StatementEvidence
import ConstellationTopology.Packets.TopologyBundle
import ConstellationTopology.Packets.TopologyPacket
import ConstellationTopology.Packets.Transport
import ConstellationTopology.Packets.ValidationReceipt
import ConstellationTopology.Packets.WorkSignalPayload
import ConstellationTopology.Publication.ConflictContainment
import ConstellationTopology.Publication.Contracts
import ConstellationTopology.Publication.EffectIdentity
import ConstellationTopology.Publication.EffectLocality
import ConstellationTopology.Publication.Eligibility
import ConstellationTopology.Publication.EmitterAgreement
import ConstellationTopology.Publication.Identity
import ConstellationTopology.Publication.LocatorMirror
import ConstellationTopology.Publication.Lowering
import ConstellationTopology.Publication.Plan
import ConstellationTopology.Publication.PlanConservation
import ConstellationTopology.Publication.PlanView
import ConstellationTopology.Publication.Policy
import ConstellationTopology.Publication.PolicyGaps
import ConstellationTopology.Publication.ProjectedRelation
import ConstellationTopology.Publication.ProjectorProvenance
import ConstellationTopology.Publication.PublicationTime
import ConstellationTopology.Publication.Qualification
import ConstellationTopology.Reconciliation.Cardinality
import ConstellationTopology.Reconciliation.FieldCardinality
import ConstellationTopology.Reconciliation.Predicates
import ConstellationTopology.Renderers.MermaidExport
import ConstellationTopology.Run.Diagnostics
import ConstellationTopology.Run.Evidence
import ConstellationTopology.Run.Hashing
import ConstellationTopology.Run.NormalizedPath
import ConstellationTopology.Run.SemanticFields
import ConstellationTopology.Run.SourcePath
import ConstellationTopology.Scanners.DependencyArray
import ConstellationTopology.Scanners.DependencyExactness
import ConstellationTopology.Scanners.DependencyScanner
import ConstellationTopology.Stages.AggregateCapabilities
import ConstellationTopology.Stages.AggregateRepositories
import ConstellationTopology.Stages.ClassifyRoles
import ConstellationTopology.Stages.DeriveUnknowns
import ConstellationTopology.Stages.EvidenceIdentity
import ConstellationTopology.Stages.EvidenceOrder
import ConstellationTopology.Stages.ReconcileAssertions
import ConstellationTopology.Stages.ReconcileEvidence
import ConstellationTopology.Stages.RepositoryLinks
import ConstellationTopology.Stages.StatementCitation
import ConstellationTopology.Topology.BridgeGapRules
import ConstellationTopology.Topology.BridgeGaps
import ConstellationTopology.Topology.CandidateDomains
import ConstellationTopology.Topology.Candidates
import ConstellationTopology.Topology.CapabilityBuilder
import ConstellationTopology.Topology.ClaimDifferential
import ConstellationTopology.Topology.ClaimProjection
import ConstellationTopology.Topology.ClaimQuery
import ConstellationTopology.Topology.ClaimView
import ConstellationTopology.Topology.CorpusModel
import ConstellationTopology.Topology.DuplicateRouting
import ConstellationTopology.Topology.DuplicateStars
import ConstellationTopology.Topology.Duplicates
import ConstellationTopology.Topology.Emitters
import ConstellationTopology.Topology.EvidenceInheritance
import ConstellationTopology.Topology.FlowBuilder
import ConstellationTopology.Topology.GraphBuilder
import ConstellationTopology.Topology.GraphMirror
import ConstellationTopology.Topology.Impact
import ConstellationTopology.Topology.ImpactReach
import ConstellationTopology.Topology.Maturity
import ConstellationTopology.Topology.Profile
import ConstellationTopology.Topology.Readiness
import ConstellationTopology.Topology.ReasoningRouter
import ConstellationTopology.Topology.Risk
import ConstellationTopology.Topology.WorkExactness
import ConstellationTopology.Topology.WorkProjection
import ConstellationTopology.Validation.DependencyCycles
import ConstellationTopology.Validation.FindingCollision
import ConstellationTopology.Validation.FindingIdentity
import ConstellationTopology.Validation.ReferenceClosure
import ConstellationTopology.Validation.TopologyValidator
import ConstellationTopology.Worker.Callback
import ConstellationTopology.Worker.CallbackContainment
import ConstellationTopology.Worker.CallbackPath
import ConstellationTopology.Worker.Contracts
import ConstellationTopology.Worker.DispatchAdmission
import ConstellationTopology.Worker.ExecutionAuthority
import ConstellationTopology.Worker.LeaseSafety
import ConstellationTopology.Worker.PacketStore
import ConstellationTopology.Worker.PublicationVerification
import ConstellationTopology.Worker.Registry
import ConstellationTopology.Worker.RegistryHistory
import ConstellationTopology.Worker.Retry
import ConstellationTopology.Worker.ReuseRecovery
import ConstellationTopology.Worker.Signature
import ConstellationTopology.Worker.StageRunner
