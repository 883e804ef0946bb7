import ConstellationTopology.Packets.CorpusAnalysis
import ConstellationTopology.Library.Collection

set_option autoImplicit false

/-! # Readiness

`topology/readiness.py`: the counts of a corpus packet carried across, and the confidence they
deserve. A measurement never has source authority, and it is weak if more than a tenth of what it
measured could not be read. -/

namespace ConstellationTopology

/-- `_measured_total`. -/
def measuredTotal (evidence : ReadinessEvidence) : ℕ :=
  evidence.sourceArtifactCount + evidence.testArtifactCount + evidence.buildManifestCount
    + evidence.ciDefinitionCount + evidence.deploymentDefinitionCount
    + evidence.specificationCount + evidence.documentationCount + evidence.coverageGapCount

/-- `thin`: the share of gaps is above `COVERAGE_GAP_CONFIDENCE_THRESHOLD`, a tenth. -/
def thinCoverage (evidence : ReadinessEvidence) : Bool :=
  measuredTotal evidence < 10 * evidence.coverageGapCount

/-- `readiness_confidence`. -/
def readinessConfidence (evidence : ReadinessEvidence) : ConfidenceAssessment where
  level := if thinCoverage evidence then .low else .medium
  evidenceStrength := if thinCoverage evidence then .weak else .corroborated
  derivationMethod := .deterministic
  authority := .derived
  completeness := if thinCoverage evidence then .partly else .sufficient

theorem readinessConfidence_not_source (evidence : ReadinessEvidence) :
    (readinessConfidence evidence).authority ≠ .source :=
  Authority.noConfusion

/-- The record of one measurement. -/
def readinessRecord (evidence : ReadinessEvidence) : ReadinessEvidenceRecord where
  readinessId := evidence.readinessId
  subjectId := evidence.subjectId
  profileId := evidence.profileId
  profileVersion := evidence.profileVersion
  sourceArtifactCount := evidence.sourceArtifactCount
  testArtifactCount := evidence.testArtifactCount
  buildManifestCount := evidence.buildManifestCount
  ciDefinitionCount := evidence.ciDefinitionCount
  deploymentDefinitionCount := evidence.deploymentDefinitionCount
  specificationCount := evidence.specificationCount
  documentationCount := evidence.documentationCount
  planCount := evidence.planCount
  roadmapCount := evidence.roadmapCount
  wipCount := evidence.wipCount
  draftCount := evidence.draftCount
  blockedCount := evidence.blockedCount
  openTaskCount := evidence.openTaskCount
  completedTaskCount := evidence.completedTaskCount
  milestoneCount := evidence.milestoneCount
  exactDuplicateCount := evidence.exactDuplicateCount
  nearDuplicateCount := evidence.nearDuplicateCount
  consolidationCandidateCount := evidence.consolidationCandidateCount
  coverageGapCount := evidence.coverageGapCount
  evidenceRefs := sortedSet evidence.evidenceRefs
  confidence := readinessConfidence evidence
  authority_not_source := readinessConfidence_not_source evidence

/-- `compile_readiness_evidence`. -/
def compileReadinessEvidence (packet : CorpusAnalysisPacket) : List ReadinessEvidenceRecord :=
  sortedBy ReadinessEvidenceRecord.readinessId (packet.readinessEvidence.map readinessRecord)

end ConstellationTopology
