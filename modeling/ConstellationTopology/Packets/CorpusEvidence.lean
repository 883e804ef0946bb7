import ConstellationTopology.Packets.CorpusIntelligence
import ConstellationTopology.Packets.StatementEvidence

set_option autoImplicit false

/-! # Evidence for what is no statement

`packets/corpus_evidence.py`: the records behind byte identity, and behind a corpus and its roots. -/

namespace ConstellationTopology

/-- `DUPLICATE_EVIDENCE_STAGE`. -/
def duplicateEvidenceStage : String := "ingest_exact_duplicates"

/-- `CORPUS_SCOPE_EVIDENCE_STAGE`. -/
def corpusScopeEvidenceStage : String := "ingest_corpus_scope"

/-- A reference that names a packet only. -/
def packetSourceRef (packetId : String) (contentHash sourceRevision : Option String) :
    EvidenceSourceRef where
  packetId := some packetId
  contentHash := contentHash
  sourceRevision := sourceRevision
  sourcePath_portable := noPath_portable
  lineNumber_positive := noLine_positive
  locator_valid := noLocator_valid
  lineNumber_agrees := noLocator_agrees

/-- The payload's relations. -/
def duplicateRelations (packet : CorpusIntelligencePacket) : List ExactDuplicateRelation :=
  (packet.payload.map CorpusIntelligencePayload.exactDuplicateRelations).getD []

variable (c : Codec)

/-! ## Byte identity -/

/-- The canonically ordered endpoints of a relation. -/
def ExactDuplicateRelation.pair (relation : ExactDuplicateRelation) : String × String :=
  canonicalPair relation.artifactAId relation.artifactBId

/-- The record of one relation: it is about the cluster. -/
def duplicateEvidenceRecord (packet : CorpusIntelligencePacket)
    (relation : ExactDuplicateRelation) : EvidenceRecord :=
  makeEvidenceRecord c relation.duplicateClusterId (some "artifact_ids") duplicateEvidenceStage
    .observed .packet (packetSourceRef packet.packetId (some relation.contentHash) none)
    (.obj [("duplicate_cluster_id", .str relation.duplicateClusterId),
      ("artifact_a_id", .str relation.pair.1), ("artifact_b_id", .str relation.pair.2),
      ("content_hash", .str relation.contentHash), ("method", .str exactDuplicateMethod)])
    duplicateConfidence packet.producer.name packet.producer.version assertionEvidenceCreatedAt

/-- `duplicate_evidence_records`. -/
def duplicateEvidenceRecords (packet : CorpusIntelligencePacket) : List EvidenceRecord :=
  sortedBy EvidenceRecord.evidenceId (Table.ofRows EvidenceRecord.evidenceId
    ((duplicateRelations packet).map (duplicateEvidenceRecord c packet))).rows

/-- The pair a duplicate record was built for, read back from its value. -/
def recordedPair (record : EvidenceRecord) : Option (String × String) :=
  match record.value.get? "artifact_a_id", record.value.get? "artifact_b_id" with
  | some (.str first), some (.str second) => some (first, second)
  | _, _ => none

/-- `by_pair`: the last record of a pair, in the order of the ids. -/
def evidenceByPair (packet : CorpusIntelligencePacket) (pair : String × String) : Option String :=
  (((duplicateEvidenceRecords c packet).filter fun record =>
    recordedPair record = some pair).getLast?).map EvidenceRecord.evidenceId

/-- `duplicate_evidence_by_relation`: an entry for each relation, the last one of an id standing. -/
def duplicateEvidenceByRelation (packet : CorpusIntelligencePacket) :
    List (String × List String) :=
  (duplicateRelations packet).filterMap fun relation =>
    (evidenceByPair c packet relation.pair).map fun evidenceId =>
      (relation.relationId, [evidenceId])

/-! ## Scope -/

/-- `coverage.model_dump(mode="json")`. -/
def CorpusCoverage.toJson (coverage : CorpusCoverage) : Json :=
  .obj [("root_count_requested", .int coverage.rootCountRequested),
    ("root_count_observed", .int coverage.rootCountObserved),
    ("root_count_failed", .int coverage.rootCountFailed),
    ("artifact_count", .int coverage.artifactCount),
    ("archive_count", .int coverage.archiveCount),
    ("archive_member_count", .int coverage.archiveMemberCount),
    ("decoder_eligible_count", .int coverage.decoderEligibleCount),
    ("normalized_document_count", .int coverage.normalizedDocumentCount),
    ("interpreted_artifact_count", .int coverage.interpretedArtifactCount),
    ("unsupported_format_count", .int coverage.unsupportedFormatCount),
    ("coverage_gap_count", .int coverage.coverageGapCount)]

/-- The record of the corpus itself. -/
def corpusEvidenceRecord (packet : CorpusIntelligencePacket) : EvidenceRecord :=
  makeEvidenceRecord c packet.corpus.corpusId (some "corpus_source_snapshot_id")
    corpusScopeEvidenceStage .declared .packet (packetSourceRef packet.packetId none none)
    (.obj [("corpus_source_snapshot_id", .str packet.corpus.corpusSourceSnapshotId),
      ("corpus_analysis_id", .str packet.corpus.corpusAnalysisId),
      ("root_ids", Json.strings (sortedBy id (packet.corpus.rootRefs.map CorpusRootRef.rootId))),
      ("coverage", packet.corpus.coverage.toJson)])
    corpusConfidence packet.producer.name packet.producer.version assertionEvidenceCreatedAt

/-- The record of a root. -/
def rootEvidenceRecord (packet : CorpusIntelligencePacket) (root : CorpusRootRef) :
    EvidenceRecord :=
  makeEvidenceRecord c root.rootId (some "repository_model_packet_id") corpusScopeEvidenceStage
    (if root.identityClass = .declared then .declared else .observed) .packet
    (packetSourceRef root.repositoryModelPacket.packetId none
      (if root.sourceRevision = "" then none else some root.sourceRevision))
    (.obj [("identity_class", .str root.identityClass.value),
      ("repository_model_packet_id", .str root.repositoryModelPacket.packetId),
      ("repository_model_semantic_hash", .str root.repositoryModelPacket.semanticHash),
      ("repository_id", (root.repositoryId.map .str).getD .null),
      ("source_revision", .str root.sourceRevision)])
    (rootConfidence root.identityClass) packet.producer.name packet.producer.version
    assertionEvidenceCreatedAt

/-- `corpus_scope_evidence_records`. -/
def corpusScopeEvidenceRecords (packet : CorpusIntelligencePacket) : List EvidenceRecord :=
  sortedBy EvidenceRecord.evidenceId
    (corpusEvidenceRecord c packet :: packet.corpus.rootRefs.map (rootEvidenceRecord c packet))

/-- `corpus_evidence_by_subject`, for one subject; no entry is an empty one. -/
def corpusEvidenceBySubject (packets : List CorpusIntelligencePacket) (subjectId : String) :
    List String :=
  sortedSet ((groupOf EvidenceRecord.subjectId subjectId
    (packets.flatMap (corpusScopeEvidenceRecords c))).map EvidenceRecord.evidenceId)

end ConstellationTopology
