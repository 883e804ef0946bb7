import ConstellationTopology.Domain.Topology
import ConstellationTopology.Packets.TopologyPacket

set_option autoImplicit false

/-! # Topology payloads

`packets/payloads.py`: each domain of the state serialized to its own file and hash. A record is
dumped without its `None` fields. -/

namespace ConstellationTopology

/-- Counts under their names. -/
private def counts (values : List (String × ℤ)) : Json :=
  .obj (values.map fun entry => (entry.1, .int entry.2))

/-- A count. -/
private def count (n : ℕ) : Json := .int n

/-! ## Canonical records -/

/-- The dump of a repository. -/
def RepositoryRecord.toJson (record : RepositoryRecord) : Json :=
  .obj [("repository_id", .str record.repositoryId),
    ("name", .str record.name),
    ("source_revision", .str record.sourceRevision),
    ("packet_ref", .str record.packetRef),
    ("primary_role", .str record.primaryRole),
    ("secondary_roles", Json.strings record.secondaryRoles),
    ("languages", Json.strings record.languages),
    ("package_managers", Json.strings record.packageManagers),
    ("entrypoints", Json.strings record.entrypoints),
    ("workflows", Json.strings record.workflows),
    ("adr_refs", Json.strings record.adrRefs),
    ("governance_refs", Json.strings record.governanceRefs),
    ("capability_ids", Json.strings record.capabilityIds),
    ("artifact_ids", Json.strings record.artifactIds),
    ("upstream_repository_ids", Json.strings record.upstreamRepositoryIds),
    ("downstream_repository_ids", Json.strings record.downstreamRepositoryIds),
    ("unresolved_dependencies", Json.strings record.unresolvedDependencies),
    ("owner_ids", Json.strings record.ownerIds),
    ("evidence_refs", Json.strings record.evidenceRefs),
    ("confidence", record.confidence.toJson)]

/-- The dump of an artifact. -/
def ArtifactRecord.toJson (record : ArtifactRecord) : Json :=
  .obj ([("artifact_id", .str record.artifactId),
      ("repository_id", .str record.repositoryId),
      ("source_path", .str record.sourcePath),
      ("artifact_type", .str record.artifactType)]
    ++ optionalField "family" (record.family.map .str)
    ++ [("content_hash", .str record.contentHash)]
    ++ optionalField "body_hash" (record.bodyHash.map .str)
    ++ [("capabilities", Json.strings record.capabilities),
      ("dependencies", Json.strings record.dependencies),
      ("evidence_refs", Json.strings record.evidenceRefs),
      ("packet_ref", .str record.packetRef),
      ("confidence", record.confidence.toJson)])

/-- The dump of a capability. -/
def CapabilityRecord.toJson (record : CapabilityRecord) : Json :=
  .obj [("capability_id", .str record.capabilityId),
    ("name", .str record.name),
    ("description", .str record.description),
    ("implemented_by", Json.strings record.implementedBy),
    ("exposed_by", Json.strings record.exposedBy),
    ("validated_by", Json.strings record.validatedBy),
    ("governed_by", Json.strings record.governedBy),
    ("evidence_refs", Json.strings record.evidenceRefs),
    ("confidence", record.confidence.toJson)]

/-- The dump of a claim. -/
def SemanticClaimRecord.toJson (record : SemanticClaimRecord) : Json :=
  .obj [("claim_id", .str record.claimId),
    ("subject_id", .str record.subjectId),
    ("predicate", .str record.predicate),
    ("object", .str record.object),
    ("source_assertion_ids", Json.strings record.sourceAssertionIds),
    ("evidence_refs", Json.strings record.evidenceRefs),
    ("confidence", record.confidence.toJson),
    ("authority", .str record.authority.value),
    ("cardinality", .str record.cardinality.value),
    ("support", .str record.support.value),
    ("conflict_status", .str record.conflictStatus.value),
    ("conflict_ids", Json.strings record.conflictIds),
    ("projected", .bool record.projected),
    ("projected_entity_ids", Json.strings record.projectedEntityIds)]

/-- The dump of an edge. -/
def EdgeRecord.toJson (record : EdgeRecord) : Json :=
  .obj [("edge_id", .str record.edgeId),
    ("source_id", .str record.sourceId),
    ("target_id", .str record.targetId),
    ("edge_type", .str record.edgeType.value),
    ("direction", .str record.direction.value),
    ("properties", .obj record.properties),
    ("evidence_refs", Json.strings record.evidenceRefs),
    ("confidence", record.confidence.toJson)]

/-- The dump of a flow. -/
def FlowRecord.toJson (record : FlowRecord) : Json :=
  .obj ([("flow_id", .str record.flowId),
      ("name", .str record.name),
      ("source_id", .str record.sourceId),
      ("target_id", .str record.targetId),
      ("flow_type", .str record.flowType)]
    ++ optionalField "packet_type" (record.packetType.map .str)
    ++ [("description", .str record.description),
      ("stage_sequence", Json.strings record.stageSequence),
      ("evidence_refs", Json.strings record.evidenceRefs),
      ("confidence", record.confidence.toJson)])

/-- The dump of a graph record. -/
def GraphRecord.toJson (record : GraphRecord) : Json :=
  .obj [("record_type", .str record.recordType.value),
    ("label", .str record.label),
    ("entity_id", .str record.entityId),
    ("properties", .obj record.properties),
    ("evidence_refs", Json.strings record.evidenceRefs),
    ("confidence", record.confidence.toJson)]

/-- The dump of a risk. -/
def RiskRecord.toJson (record : RiskRecord) : Json :=
  .obj ([("risk_id", .str record.riskId),
      ("subject_id", .str record.subjectId),
      ("severity", .str record.severity.value),
      ("category", .str record.category),
      ("description", .str record.description),
      ("rule_id", .str record.ruleId),
      ("rule_version", .str record.ruleVersion),
      ("evidence_refs", Json.strings record.evidenceRefs)]
    ++ optionalField "remediation" (record.remediation.map .str)
    ++ [("status", .str record.status.value)])

/-- The dump of an assessment. -/
def MaturityAssessment.toJson (record : MaturityAssessment) : Json :=
  .obj [("subject_id", .str record.subjectId),
    ("profile_id", .str record.profileId),
    ("profile_version", .str record.profileVersion),
    ("score", count record.score),
    ("maximum_score", count record.maximumScore),
    ("band", .str record.band),
    ("dimensions", counts record.dimensions),
    ("evidence_refs", Json.strings record.evidenceRefs)]

/-- The dump of an impact. -/
def ImpactIndex.toJson (record : ImpactIndex) : Json :=
  .obj [("subject_id", .str record.subjectId),
    ("direction", .str record.direction.value),
    ("maximum_depth", count record.maximumDepth),
    ("affected_entity_ids", Json.strings record.affectedEntityIds),
    ("paths", .arr (record.paths.map Json.strings)),
    ("unresolved_edge_ids", Json.strings record.unresolvedEdgeIds),
    ("affected_repository_ids", Json.strings record.affectedRepositoryIds),
    ("affected_capability_ids", Json.strings record.affectedCapabilityIds)]

/-! ## Corpus scope and the candidate domains -/

/-- The dump of a corpus. -/
def CorpusRecord.toJson (record : CorpusRecord) : Json :=
  .obj ([("corpus_id", .str record.corpusId),
      ("corpus_source_snapshot_id", .str record.corpusSourceSnapshotId),
      ("corpus_analysis_id", .str record.corpusAnalysisId),
      ("root_ids", Json.strings record.rootIds)]
    ++ optionalField "coverage_ref" (record.coverageRef.map .str)
    ++ [("evidence_refs", Json.strings record.evidenceRefs),
      ("confidence", record.confidence.toJson)])

/-- The dump of a root. -/
def RootRecord.toJson (record : RootRecord) : Json :=
  .obj ([("root_id", .str record.rootId),
      ("identity_class", .str record.identityClass.value),
      ("source_revision", .str record.sourceRevision),
      ("repository_model_packet_id", .str record.repositoryModelPacketId)]
    ++ optionalField "repository_id" (record.repositoryId.map .str)
    ++ [("evidence_refs", Json.strings record.evidenceRefs),
      ("confidence", record.confidence.toJson)])

/-- The dump of a candidate relation. -/
def CandidateRelationRecord.toJson (record : CandidateRelationRecord) : Json :=
  .obj ([("relation_id", .str record.relationId),
      ("source_artifact_id", .str record.sourceArtifactId),
      ("target_artifact_id", .str record.targetArtifactId),
      ("methods", Json.strings record.methods),
      ("method_scores", .arr (record.methodScores.map fun score =>
        .obj [("method", .str score.method), ("score", .float score.score)])),
      ("evidence_refs", Json.strings record.evidenceRefs),
      ("confidence_class", .str record.confidenceClass.value),
      ("analysis_profile", .str record.analysisProfile)]
    ++ optionalField "upstream_candidate_id" (record.upstreamCandidateId.map .str)
    ++ [("confidence", record.confidence.toJson)])

/-- The dump of the counts of a cluster. -/
def CandidateStructuralEvidence.toJson (counted : CandidateStructuralEvidence) : Json :=
  .obj [("member_count", count counted.memberCount),
    ("repository_count", count counted.repositoryCount),
    ("root_count", count counted.rootCount),
    ("archive_member_count", count counted.archiveMemberCount),
    ("internal_exact_duplicate_count", count counted.internalExactDuplicateCount),
    ("internal_explicit_reference_count", count counted.internalExplicitReferenceCount),
    ("internal_dependency_count", count counted.internalDependencyCount),
    ("internal_supersession_count", count counted.internalSupersessionCount),
    ("blocker_count", count counted.blockerCount),
    ("work_status_distribution", counts counted.workStatusDistribution),
    ("work_kind_distribution", counts counted.workKindDistribution),
    ("conflicting_status_count", count counted.conflictingStatusCount),
    ("capability_count", count counted.capabilityCount),
    ("external_dependency_count", count counted.externalDependencyCount)]

/-- The dump of a candidate cluster. -/
def CandidateClusterRecord.toJson (record : CandidateClusterRecord) : Json :=
  .obj ([("candidate_id", .str record.candidateId),
      ("candidate_type", .str record.candidateType.value),
      ("member_entity_ids", Json.strings record.memberEntityIds),
      ("supporting_relation_ids", Json.strings record.supportingRelationIds),
      ("evidence_refs", Json.strings record.evidenceRefs),
      ("confidence_class", .str record.confidenceClass.value),
      ("ambiguity_flags", Json.strings record.ambiguityFlags),
      ("cross_root", .bool record.crossRoot),
      ("cross_archive", .bool record.crossArchive),
      ("analysis_profile", .str record.analysisProfile)]
    ++ optionalField "upstream_candidate_id" (record.upstreamCandidateId.map .str)
    ++ [("structural_evidence", record.structuralEvidence.toJson)]
    ++ optionalField "readiness_evidence_ref" (record.readinessEvidenceRef.map .str)
    ++ [("confidence", record.confidence.toJson)])

/-- The dump of a measurement. -/
def ReadinessEvidenceRecord.toJson (record : ReadinessEvidenceRecord) : Json :=
  .obj [("readiness_id", .str record.readinessId),
    ("subject_id", .str record.subjectId),
    ("profile_id", .str record.profileId),
    ("profile_version", .str record.profileVersion),
    ("source_artifact_count", count record.sourceArtifactCount),
    ("test_artifact_count", count record.testArtifactCount),
    ("build_manifest_count", count record.buildManifestCount),
    ("ci_definition_count", count record.ciDefinitionCount),
    ("deployment_definition_count", count record.deploymentDefinitionCount),
    ("specification_count", count record.specificationCount),
    ("documentation_count", count record.documentationCount),
    ("plan_count", count record.planCount),
    ("roadmap_count", count record.roadmapCount),
    ("wip_count", count record.wipCount),
    ("draft_count", count record.draftCount),
    ("blocked_count", count record.blockedCount),
    ("open_task_count", count record.openTaskCount),
    ("completed_task_count", count record.completedTaskCount),
    ("milestone_count", count record.milestoneCount),
    ("exact_duplicate_count", count record.exactDuplicateCount),
    ("near_duplicate_count", count record.nearDuplicateCount),
    ("consolidation_candidate_count", count record.consolidationCandidateCount),
    ("coverage_gap_count", count record.coverageGapCount),
    ("evidence_refs", Json.strings record.evidenceRefs),
    ("confidence", record.confidence.toJson)]

/-- The dump of a reasoning request. -/
def TopologyReasoningCandidate.toJson (record : TopologyReasoningCandidate) : Json :=
  .obj ([("reasoning_candidate_id", .str record.reasoningCandidateId),
      ("candidate_id", .str record.candidateId)]
    ++ optionalField "upstream_recommended_reasoning_type"
      (record.upstreamRecommendedReasoningType.map fun reasoning => .str reasoning.value)
    ++ [("topology_recommended_reasoning_type",
        .str record.topologyRecommendedReasoningType.value),
      ("reason", .str record.reason),
      ("trigger_signals", Json.strings record.triggerSignals),
      ("structural_signals", Json.strings record.structuralSignals),
      ("conflict_refs", Json.strings record.conflictRefs),
      ("unknown_refs", Json.strings record.unknownRefs)]
    ++ optionalField "readiness_ref" (record.readinessRef.map .str)
    ++ [("evidence_refs", Json.strings record.evidenceRefs),
      ("bounded_neighborhood_refs", Json.strings record.boundedNeighborhoodRefs)])

/-! ## Diagnostics, unknowns and conflicts -/

/-- The dump of a diagnostic. -/
def DiagnosticRecord.toJson (record : DiagnosticRecord) : Json :=
  .obj ([("diagnostic_id", .str record.diagnosticId),
      ("source_packet_id", .str record.sourcePacketId),
      ("stage", .str record.stage),
      ("severity", .str record.severity.value),
      ("code", .str record.code),
      ("message", .str record.message),
      ("category", .str record.category)]
    ++ optionalField "subject_id" (record.subjectId.map .str)
    ++ [("evidence_refs", Json.strings record.evidenceRefs),
      ("disposition", .str record.disposition.value),
      ("details", .obj record.details)])

/-- The dump of an unknown. -/
def UnknownRecord.toJson (record : UnknownRecord) : Json :=
  .obj ([("unknown_id", .str record.unknownId), ("subject_id", .str record.subjectId)]
    ++ optionalField "field" (record.field.map .str)
    ++ [("reason", .str record.reason), ("evidence_refs", Json.strings record.evidenceRefs)])

/-- The dump of a conflict. -/
def ConflictRecord.toJson (record : ConflictRecord) : Json :=
  .obj ([("conflict_id", .str record.conflictId),
      ("subject_id", .str record.subjectId),
      ("field", .str record.field),
      ("values", Json.strings record.values),
      ("evidence_refs", Json.strings record.evidenceRefs),
      ("blocking", .bool record.blocking)]
    ++ optionalField "resolution" (record.resolution.map .str))

/-! ## The payload files -/

/-- The domains of a state under their payload field names, `TOPOLOGY_PAYLOAD_FIELDS`. -/
def topologyPayloads (state : TopologyState) : List (String × Json) :=
  [("repository_records", .arr (state.repositoryRecords.map RepositoryRecord.toJson)),
    ("artifact_records", .arr (state.artifactRecords.map ArtifactRecord.toJson)),
    ("capability_records", .arr (state.capabilityRecords.map CapabilityRecord.toJson)),
    ("semantic_claims", .arr (state.semanticClaims.map SemanticClaimRecord.toJson)),
    ("edge_records", .arr (state.edgeRecords.map EdgeRecord.toJson)),
    ("flow_records", .arr (state.flowRecords.map FlowRecord.toJson)),
    ("graph_records", .arr (state.graphRecords.map GraphRecord.toJson)),
    ("risks", .arr (state.risks.map RiskRecord.toJson)),
    ("maturity", .arr (state.maturity.map MaturityAssessment.toJson)),
    ("impact_indexes", .arr (state.impactIndexes.map ImpactIndex.toJson)),
    ("corpus_records", .arr (state.corpusRecords.map CorpusRecord.toJson)),
    ("root_records", .arr (state.rootRecords.map RootRecord.toJson)),
    ("candidate_relations", .arr (state.candidateRelations.map CandidateRelationRecord.toJson)),
    ("candidate_clusters", .arr (state.candidateClusters.map CandidateClusterRecord.toJson)),
    ("readiness_evidence", .arr (state.readinessEvidence.map ReadinessEvidenceRecord.toJson)),
    ("topology_reasoning_candidates",
      .arr (state.topologyReasoningCandidates.map TopologyReasoningCandidate.toJson)),
    ("evidence", .arr (state.evidence.map EvidenceRecord.toJson)),
    ("diagnostics", .arr (state.diagnostics.map DiagnosticRecord.toJson)),
    ("unknowns", .arr (state.unknowns.map UnknownRecord.toJson)),
    ("conflicts", .arr (state.conflicts.map ConflictRecord.toJson))]

/-- `topology_payload_path` of a payload field. -/
def topologyPayloadPath (field : String) : String :=
  "payload/" ++ replaceChar '_' '-' field ++ ".json"

/-- `topology_payload_bytes`. -/
def topologyPayloadBytes (c : Codec) (state : TopologyState) : List (String × ByteArray) :=
  (topologyPayloads state).map fun entry =>
    (entry.1, c.canonicalBytes entry.2 ++ "\n".toUTF8)

/-- `topology_payload_refs`. -/
def topologyPayloadRefs : List (String × String) :=
  (topologyPayloads {}).map fun entry => (entry.1, topologyPayloadPath entry.1)

/-- `topology_payload_hashes`. -/
def topologyPayloadHashes (c : Codec) (state : TopologyState) : List (String × String) :=
  (topologyPayloadBytes c state).map fun entry => (entry.1, c.artifactHash entry.2)

end ConstellationTopology
