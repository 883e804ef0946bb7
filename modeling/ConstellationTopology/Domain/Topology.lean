import ConstellationTopology.Domain.Assessment
import ConstellationTopology.Domain.Candidate
import ConstellationTopology.Domain.Claim
import ConstellationTopology.Domain.Corpus
import ConstellationTopology.Domain.Edge
import ConstellationTopology.Domain.Entities
import ConstellationTopology.Run.Evidence

set_option autoImplicit false

/-! # The materialized topology

`TopologyState`, split by epistemic class: canonical records, corpus scope, candidates, derived
measurement, and the evidence, diagnostics, unknowns and conflicts behind them. -/

namespace ConstellationTopology

/-- `TopologyState`: the domains of a topology. -/
structure TopologyState where
  repositoryRecords : List RepositoryRecord := []
  artifactRecords : List ArtifactRecord := []
  capabilityRecords : List CapabilityRecord := []
  semanticClaims : List SemanticClaimRecord := []
  edgeRecords : List EdgeRecord := []
  flowRecords : List FlowRecord := []
  graphRecords : List GraphRecord := []
  risks : List RiskRecord := []
  maturity : List MaturityAssessment := []
  impactIndexes : List ImpactIndex := []
  corpusRecords : List CorpusRecord := []
  rootRecords : List RootRecord := []
  candidateRelations : List CandidateRelationRecord := []
  candidateClusters : List CandidateClusterRecord := []
  readinessEvidence : List ReadinessEvidenceRecord := []
  topologyReasoningCandidates : List TopologyReasoningCandidate := []
  evidence : List EvidenceRecord := []
  diagnostics : List DiagnosticRecord := []
  unknowns : List UnknownRecord := []
  conflicts : List ConflictRecord := []

end ConstellationTopology
