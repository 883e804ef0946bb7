import ConstellationTopology.Publication.Eligibility

set_option autoImplicit false

/-! # Publication data as JSON

What the contracts of `publication/contracts.py` are serialized to, and the policy as a plan embeds
it. A field of a contract that is `None` is left out; an entry of a plain dictionary stays. -/

namespace ConstellationTopology

private def natural (n : ℕ) : Json := .int n

private def optionalNatural (key : String) (value : Option ℕ) : List (String × Json) :=
  optionalField key (value.map natural)

private def optionalText (key : String) (value : Option String) : List (String × Json) :=
  optionalField key (value.map .str)

/-! ## Requests -/

/-- The dumped locator. -/
def MemorySourceLocator.toJson : MemorySourceLocator → Json
  | line startLine endLine startOffset endOffset =>
      .obj ([("kind", .str "line")] ++ optionalNatural "start_line" startLine
        ++ optionalNatural "end_line" endLine ++ optionalNatural "start_offset" startOffset
        ++ optionalNatural "end_offset" endOffset)
  | pdf pageNumber blockIndex =>
      .obj [("kind", .str "pdf"), ("page_number", natural pageNumber),
        ("block_index", natural blockIndex)]
  | docx blockIndex blockKind part =>
      .obj [("kind", .str "docx"), ("block_index", natural blockIndex),
        ("block_kind", .str blockKind), ("part", .str part)]
  | pptx slideNumber shapeIndex part =>
      .obj [("kind", .str "pptx"), ("slide_number", natural slideNumber),
        ("shape_index", natural shapeIndex), ("part", .str part)]
  | spreadsheet sheet cellOrRange =>
      .obj [("kind", .str "spreadsheet"), ("sheet", .str sheet),
        ("cell_or_range", .str cellOrRange)]
  | notebook cellIndex cellType startLine endLine =>
      .obj ([("kind", .str "notebook"), ("cell_index", natural cellIndex),
          ("cell_type", .str cellType)] ++ optionalNatural "start_line" startLine
        ++ optionalNatural "end_line" endLine)
  | csv row column =>
      .obj ([("kind", .str "csv"), ("row", natural row)] ++ optionalText "column" column)
  | html stableNodeIndex nodePath =>
      .obj [("kind", .str "html"), ("stable_node_index", natural stableNodeIndex),
        ("node_path", .str nodePath)]

/-- The dumped provenance. -/
def MemoryProvenance.toJson (provenance : MemoryProvenance) : Json :=
  .obj ([("source", .str provenance.source)] ++ optionalText "source_id" provenance.sourceId
    ++ optionalText "source_digest" provenance.sourceDigest
    ++ optionalText "source_agent_id" provenance.sourceAgentId
    ++ optionalText "repository" provenance.repository ++ optionalText "tool" provenance.tool
    ++ [("extraction_method", .str provenance.extractionMethod),
      ("source_trust", .float provenance.sourceTrust),
      ("transformed_at", .str provenance.transformedAt.isoformat)])

/-- The dumped evidence. -/
def MemoryEvidenceRef.toJson (ref : MemoryEvidenceRef) : Json :=
  .obj ([("kind", .str ref.kind.value), ("description", .str ref.description)]
    ++ optionalText "source_id" ref.sourceId ++ optionalText "source_digest" ref.sourceDigest
    ++ optionalField "source_locator" (ref.sourceLocator.map MemorySourceLocator.toJson)
    ++ [("observed_at", .str ref.observedAt.isoformat)])

/-- The dumped confidence. -/
def MemoryConfidence.toJson (confidence : MemoryConfidence) : Json :=
  .obj [("score", .float confidence.score), ("method", .str confidence.method.value),
    ("evidence_count", natural confidence.evidenceCount),
    ("policy_version", .str confidence.policyVersion),
    ("calibrated_at", .str confidence.calibratedAt.isoformat)]

/-- The dumped relation. -/
def TopologyRelation.toJson (relation : TopologyRelation) : Json :=
  .obj ([("edge_id", .str relation.edgeId), ("edge_type", .str relation.edgeType),
      ("source_id", .str relation.sourceId), ("target_id", .str relation.targetId),
      ("direction", .str relation.direction), ("properties", relation.properties)]
    ++ optionalField "qualification" (relation.qualification.map textFields))

/-- The dumped metadata. -/
def RequestMetadata.toJson (metadata : RequestMetadata) : Json :=
  .obj ([("topology_packet_id", .str metadata.topologyPacketId),
      ("topology_semantic_hash", .str metadata.topologySemanticHash),
      ("topology_entity_ids", Json.strings metadata.topologyEntityIds),
      ("repository_model_packet_ids", Json.strings metadata.repositoryModelPacketIds),
      ("candidate_kind", .str metadata.candidateKind.value),
      ("publication_policy", .str metadata.publicationPolicy),
      ("idempotency_algorithm_version", .str metadata.idempotencyAlgorithmVersion),
      ("lowering_contract_version", .str metadata.loweringContractVersion),
      ("observed_conflict_ids", Json.strings metadata.observedConflictIds),
      ("observed_unknown_ids", Json.strings metadata.observedUnknownIds),
      ("source_revisions", Json.strings metadata.sourceRevisions),
      ("source_paths", Json.strings metadata.sourcePaths),
      ("publication_candidate_id", .str metadata.publicationCandidateId),
      ("source_assertion_ids", Json.strings metadata.sourceAssertionIds),
      ("assertion_predicate", nullable .str metadata.assertionPredicate)]
    ++ optionalField "topology_relation" (metadata.topologyRelation.map TopologyRelation.toJson))

/-- `MemoryWriteRequest`, with the fields that topology always leaves at their defaults. -/
def MemoryWriteRequest.toJson (request : MemoryWriteRequest) : Json :=
  .obj ([("namespace", .str request.memoryNamespace),
      ("memory_class", .str request.memoryClass.value), ("content", .str request.content)]
    ++ optionalField "assertion" (request.assertion.map MemoryAssertion.toJson)
    ++ [("provenance", request.provenance.toJson),
      ("evidence", .arr (request.evidence.map MemoryEvidenceRef.toJson)),
      ("confidence", request.confidence.toJson),
      ("valid_from", .str request.validFrom.isoformat)]
    ++ optionalField "source_observed_at"
      (request.sourceObservedAt.map fun observed => .str observed.isoformat)
    ++ [("tags", Json.strings request.tags), ("metadata", request.metadata.toJson),
      ("idempotency_key", .str request.idempotencyKey), ("supersedes", .arr []),
      ("references", .arr []), ("dry_run", .bool false)])

/-- `MemoryIngestIntent`. -/
def ingestIntent (request : MemoryWriteRequest) : Json :=
  .obj [("operation", .str memoryIngestOperation), ("request", request.toJson)]

/-- The dumped receipt. -/
def LoweringReceipt.toJson (receipt : LoweringReceipt) : Json :=
  .obj ([("source_fields", Json.strings receipt.sourceFields),
      ("resolved_evidence_ids", Json.strings receipt.resolvedEvidenceIds),
      ("truncated_evidence_count", natural receipt.truncatedEvidenceCount)]
    ++ optionalField "derivation_evidence_kind"
      (receipt.derivationEvidenceKind.map fun kind => .str kind.value)
    ++ [("confidence_level", .str receipt.confidenceLevel),
      ("confidence_method", .str receipt.confidenceMethod.value),
      ("conflict_status", .str receipt.conflictStatus),
      ("observed_conflict_ids", Json.strings receipt.observedConflictIds),
      ("observed_unknown_ids", Json.strings receipt.observedUnknownIds)]
    ++ optionalText "owning_repository_id" receipt.owningRepositoryId
    ++ [("source_assertion_ids", Json.strings receipt.sourceAssertionIds)]
    ++ optionalText "assertion_predicate" receipt.assertionPredicate
    ++ optionalText "predicate_support" receipt.predicateSupport)

/-- The dumped decision. -/
def EligibilityDecision.toJson (decision : EligibilityDecision) : Json :=
  .obj [("status", .str decision.status.value), ("reasons", Json.strings decision.reasons)]

/-! ## The policy -/

private def scores (table : List (String × ℚ)) : Json :=
  .obj (table.map fun entry => (entry.1, .float entry.2))

/-- The name of the mode. -/
def RelationQualificationMode.value : RelationQualificationMode → String
  | .legacy => "legacy"
  | .strict => "strict"

/-- The name of the mode. -/
def ClaimPublicationMode.value : ClaimPublicationMode → String
  | .all => "all"
  | .selective => "selective"

namespace PublicationPolicy

variable (policy : PublicationPolicy)

/-- The fields of `_PRE_QUALIFICATION_DEFAULTS`, as the policy has them. -/
def qualificationFields : List (String × Json) :=
  [("relation_qualification", .str policy.relationQualification.value),
    ("claim_publication", .str policy.claimPublication.value),
    ("eligible_claim_predicates", Json.strings policy.eligibleClaimPredicates),
    ("declaration_only_claim_predicates", Json.strings policy.declarationOnlyClaimPredicates)]

/-- Every qualification field holds its default. -/
def preQualification : Prop :=
  policy.relationQualification = .legacy ∧ policy.claimPublication = .all ∧
    policy.eligibleClaimPredicates = [] ∧ policy.declarationOnlyClaimPredicates = []

instance : Decidable policy.preQualification :=
  inferInstanceAs (Decidable (_ ∧ _ ∧ _ ∧ _))

/-- `raw`. -/
def raw : Json :=
  .obj ([("id", .str policy.id), ("version", .str policy.version),
      ("namespace_root", .str policy.namespaceRoot),
      ("eligible_entity_kinds", Json.strings policy.eligibleEntityKinds),
      ("eligible_edge_types", Json.strings policy.eligibleEdgeTypes),
      ("entity_memory_class", .str policy.entityMemoryClass.value),
      ("relationship_memory_class", .str policy.relationshipMemoryClass.value),
      ("claim_memory_class", .str policy.claimMemoryClass.value),
      ("confidence_score_by_level", scores policy.confidenceScoreByLevel),
      ("confidence_conflict_ceiling", scores policy.confidenceConflictCeiling),
      ("confidence_method_by_derivation",
        .obj (policy.confidenceMethodByDerivation.map fun entry => (entry.1, .str entry.2.value))),
      ("evidence_kind_by_class",
        .obj (policy.evidenceKindByClass.map fun entry => (entry.1, .str entry.2.value))),
      ("source_trust_by_authority", scores policy.sourceTrustByAuthority),
      ("require_validated_topology", .bool policy.requireValidatedTopology),
      ("require_resolved_lineage", .bool policy.requireResolvedLineage),
      ("hold_on_material_conflict", .bool policy.holdOnMaterialConflict),
      ("hold_on_material_unknown", .bool policy.holdOnMaterialUnknown),
      ("hold_on_missing_required_evidence", .bool policy.holdOnMissingRequiredEvidence),
      ("hold_on_unsupported_predicate", .bool policy.holdOnUnsupportedPredicate),
      ("maximum_evidence_refs_per_candidate", natural policy.maximumEvidenceRefsPerCandidate)]
    ++ if policy.preQualification then [] else policy.qualificationFields)

/-- `policy_hash`. -/
def policyHash (c : Codec) : String := c.semanticHash policy.raw

end PublicationPolicy

end ConstellationTopology
