import ConstellationTopology.Domain.Topology
import ConstellationTopology.Library.Text
import ConstellationTopology.Topology.ClaimProjection

set_option autoImplicit false

/-! # Qualifying relations

`publication/qualification.py`: an edge is published only when its own record shows which producer
emitted it and the evidence that producer needs is there. The producer is recognized from the
properties the edge carries, and for an edge without properties from the record it mirrors.

`str` of a property is a parameter; it matters only where a property names a claim. -/

namespace ConstellationTopology

/-! ## Vocabulary -/

/-- The rule that emitted a relation. -/
inductive RelationOrigin
  | workProjector
  | claimProjector
  | exactDuplicate
  | corpusScope
  | producerDeclared
  | repositoryUpstream
  | repositoryOwner
  | capabilityRecord
  | artifactCapability
  | artifactContainment
  | artifactClassification
  | unrecognized
  deriving DecidableEq, Repr

/-- The name of the rule. -/
def RelationOrigin.value : RelationOrigin → String
  | workProjector => "work-projector"
  | claimProjector => "claim-projector"
  | exactDuplicate => "exact-duplicate"
  | corpusScope => "corpus-scope"
  | producerDeclared => "producer-declared"
  | repositoryUpstream => "repository-upstream"
  | repositoryOwner => "repository-owner"
  | capabilityRecord => "capability-record"
  | artifactCapability => "artifact-capability"
  | artifactContainment => "artifact-containment"
  | artifactClassification => "artifact-classification"
  | unrecognized => "unrecognized"

/-- A verdict: the basis that qualifies an edge, or the reason that does not. -/
inductive QualificationVerdict
  | qualified (basis : String)
  | unqualified (reason : String)
  deriving DecidableEq, Repr

/-- The status of a verdict. -/
def QualificationVerdict.status : QualificationVerdict → String
  | qualified _ => "qualified"
  | unqualified _ => "unqualified"

/-- The reason of a verdict. -/
def QualificationVerdict.reason : QualificationVerdict → String
  | qualified basis => basis
  | unqualified reason => reason

/-- The verdict lets the relation through. -/
def QualificationVerdict.isQualified : QualificationVerdict → Bool
  | qualified _ => true
  | unqualified _ => false

namespace Qualification

/-- `REASON_TYPE_UNRECOGNIZED`. -/
def reasonTypeUnrecognized : String := "qualification.relation_type_unrecognized"

/-- `REASON_ORIGIN_UNSUPPORTED`. -/
def reasonOriginUnsupported : String := "qualification.evidence_origin_unsupported"

/-- `REASON_EVIDENCE_MISSING`. -/
def reasonEvidenceMissing : String := "qualification.relation_evidence_missing"

/-- `REASON_CLASSIFICATION_ONLY`. -/
def reasonClassificationOnly : String := "qualification.artifact_classification_only"

/-- `REASON_CLAIM_NOT_PROJECTABLE`. -/
def reasonClaimNotProjectable : String := "qualification.originating_claim_not_projectable"

/-- `REASON_ENDPOINT_UNRESOLVED`. -/
def reasonEndpointUnresolved : String := "qualification.endpoint_unresolved"

/-- `REASON_ENDPOINT_MISMATCH`. -/
def reasonEndpointMismatch : String := "qualification.endpoint_kind_mismatch"

/-- `REASON_WORK_TARGET_UNRESOLVED`. -/
def reasonWorkTargetUnresolved : String := "relation.work_target_not_exactly_resolved"

/-- `DIRECT_EVIDENCE_CLASSES`. -/
def directEvidenceClasses : List EvidenceClass := [.observed, .declared, .validated, .committed]

/-- `ADMISSIBLE_ORIGINS`. -/
def admissibleOrigins : List (EdgeType × List RelationOrigin) :=
  [(.contains, [.artifactContainment, .corpusScope, .producerDeclared]),
    (.dependsOn, [.workProjector, .claimProjector, .repositoryUpstream, .producerDeclared]),
    (.blockedBy, [.workProjector, .producerDeclared]),
    (.references, [.workProjector, .producerDeclared]),
    (.supersedes, [.workProjector, .claimProjector, .producerDeclared]),
    (.governedBy, [.claimProjector, .producerDeclared]),
    (.documentedBy, [.producerDeclared]),
    (.validatedBy, [.producerDeclared]),
    (.implements, [.capabilityRecord, .artifactCapability, .producerDeclared]),
    (.exposes, [.capabilityRecord, .producerDeclared]),
    (.ownedBy, [.repositoryOwner, .producerDeclared]),
    (.duplicateOf, [.exactDuplicate]),
    (.derivedFrom, [.producerDeclared]),
    (.produces, [.producerDeclared]),
    (.consumes, [.producerDeclared]),
    (.routesTo, [.producerDeclared]),
    (.publishesTo, [.producerDeclared]),
    (.memberOf, [.producerDeclared])]

/-- `CLAIM_PROJECTOR_ENDPOINT_BY_TYPE`. -/
def claimProjectorEndpointByType : List (EdgeType × String) :=
  [(.dependsOn, "external-package-reference"),
    (.governedBy, "declared-contract-reference"),
    (.supersedes, "declared-repository-reference")]

/-- `CLASSIFICATION_PROMOTED_TYPES`. -/
def classificationPromotedTypes : List EdgeType := [.governedBy, .documentedBy, .validatedBy]

end Qualification

/-! ## The properties of an edge -/

/-- `key in properties`. -/
def EdgeRecord.hasProperty (edge : EdgeRecord) (key : String) : Bool :=
  (edge.properties.lookup key).isSome

/-- `properties.get(key)`. -/
def EdgeRecord.property (edge : EdgeRecord) (key : String) : Json :=
  (edge.properties.lookup key).getD .null

/-- The text a value is, if it is one. -/
def Json.text? : Json → Option String
  | .str text => some text
  | _ => none

/-! ## The index -/

/-- The records of the state, by what the rules look them up by. -/
structure QualificationIndex where
  evidenceById : Table EvidenceRecord.evidenceId
  claimsById : Table SemanticClaimRecord.claimId
  repositories : Table RepositoryRecord.repositoryId
  artifacts : Table ArtifactRecord.artifactId
  capabilities : Table CapabilityRecord.capabilityId
  corpusScopeIds : List String

/-- `QualificationIndex.build`. -/
def QualificationIndex.build (state : TopologyState) : QualificationIndex where
  evidenceById := Table.ofRows _ state.evidence
  claimsById := Table.ofRows _ state.semanticClaims
  repositories := Table.ofRows _ state.repositoryRecords
  artifacts := Table.ofRows _ state.artifactRecords
  capabilities := Table.ofRows _ state.capabilityRecords
  corpusScopeIds := state.corpusRecords.map CorpusRecord.corpusId
    ++ state.rootRecords.map RootRecord.rootId

namespace Qualification

/-! ## The producer of an edge -/

section Origin

variable (edge : EdgeRecord) (index : QualificationIndex)

/-- `_relation_field`. -/
def relationField (edgeType : EdgeType) : String := lowerAscii edgeType.value

/-- `_resolved_evidence`. -/
def resolvedEvidence : List EvidenceRecord :=
  (sortedSet edge.evidenceRefs).filterMap index.evidenceById.lookup

/-- `_relation_field_evidence`. -/
def relationFieldEvidence (evidence : List EvidenceRecord) : List EvidenceRecord :=
  evidence.filter fun record =>
    record.field = some (relationField edge.edgeType) ∧
      record.evidenceClass ∈ directEvidenceClasses ∧
        record.subjectId ∈ [edge.sourceId, edge.targetId]

/-- `_recorded_origin`: the producer an edge names by what it records. -/
def recordedOrigin : Option RelationOrigin :=
  if edge.hasProperty "target_resolution" then some .workProjector
  else if edge.hasProperty "projected_from_claim_id" ∧ edge.hasProperty "endpoint_kind" then
    some .claimProjector
  else if edge.edgeType = .duplicateOf ∧ edge.hasProperty "method" then some .exactDuplicate
  else if edge.edgeType = .contains ∧ edge.sourceId ∈ index.corpusScopeIds then some .corpusScope
  else if relationFieldEvidence edge (resolvedEvidence edge index) ≠ [] then some .producerDeclared
  else none

/-- The artifact an edge of the repository points at, if it is the repository's own. -/
def ownArtifact (repository : RepositoryRecord) : Option ArtifactRecord :=
  (index.artifacts.lookup edge.targetId).filter fun artifact =>
    artifact.repositoryId = repository.repositoryId

/-- `_repository_origin`. -/
def repositoryOrigin : Option RelationOrigin :=
  match index.repositories.lookup edge.sourceId with
  | none => none
  | some repository =>
      if (ownArtifact edge index repository).isSome ∧ edge.edgeType = .contains then
        some .artifactContainment
      else if (ownArtifact edge index repository).isSome ∧
          edge.edgeType ∈ classificationPromotedTypes then
        some .artifactClassification
      else if edge.edgeType = .dependsOn ∧ edge.targetId ∈ repository.upstreamRepositoryIds then
        some .repositoryUpstream
      else if edge.edgeType = .ownedBy ∧ edge.targetId ∈ repository.ownerIds then
        some .repositoryOwner
      else none

/-- `_capability_origin`. -/
def capabilityOrigin : Option RelationOrigin :=
  match index.capabilities.lookup edge.targetId with
  | none => none
  | some capability =>
      if edge.edgeType = .implements ∧ edge.sourceId ∈ capability.implementedBy then
        some .capabilityRecord
      else if edge.edgeType = .exposes ∧ edge.sourceId ∈ capability.exposedBy then
        some .capabilityRecord
      else if edge.edgeType = .implements ∧ ∃ artifact ∈ index.artifacts.lookup edge.sourceId,
          edge.targetId ∈ artifact.capabilities then
        some .artifactCapability
      else none

/-- `relation_origin`. -/
def relationOrigin : RelationOrigin :=
  match recordedOrigin edge index with
  | some recorded => recorded
  | none =>
      if edge.properties ≠ [] then .unrecognized
      else ((repositoryOrigin edge index).or (capabilityOrigin edge index)).getD .unrecognized

end Origin

/-! ## The rules of the producers -/

section Rules

variable (str : Json → String) (edge : EdgeRecord) (index : QualificationIndex)

/-- The claim an edge names; `str` of a property that is not there is `str(None)`. -/
def namedClaim : Option SemanticClaimRecord :=
  index.claimsById.lookup (str (edge.property "projected_from_claim_id"))

/-- `_claim_gate`: why the named claim cannot support the edge. -/
def claimGate : Option String :=
  match namedClaim str edge index with
  | none => some reasonEvidenceMissing
  | some claim =>
      if projectionIneligibility claim ≠ none then some reasonClaimNotProjectable else none

/-- `_work_projector_rule`. -/
def workProjectorRule : QualificationVerdict :=
  match claimGate str edge index with
  | some blocked => .unqualified blocked
  | none =>
      if (edge.property "target_resolution").text? ≠ some "exact-artifact" then
        .unqualified reasonWorkTargetUnresolved
      else .qualified "exact-artifact-resolution"

/-- `properties.get("endpoint_kind") == expected`, where `expected` may be `None`. -/
def endpointMatches : Prop :=
  match claimProjectorEndpointByType.lookup edge.edgeType with
  | some expected => (edge.property "endpoint_kind").text? = some expected
  | none => edge.property "endpoint_kind" matches .null

instance : Decidable (endpointMatches edge) := by
  unfold endpointMatches
  split <;> infer_instance

/-- `_claim_projector_rule`. -/
def claimProjectorRule : QualificationVerdict :=
  if ¬ endpointMatches edge then .unqualified reasonEndpointMismatch
  else
    match claimGate str edge index with
    | some blocked => .unqualified blocked
    | none => .qualified "projection-eligible-claim"

/-- The artifact carries the hash. -/
def carriesHash (artifactId contentHash : String) : Prop :=
  ∃ artifact ∈ index.artifacts.lookup artifactId, artifact.contentHash = contentHash

instance (artifactId contentHash : String) : Decidable (carriesHash index artifactId contentHash) :=
  inferInstanceAs (Decidable (∃ artifact ∈ _, _))

/-- `_exact_duplicate_rule`: a hash that is no text or empty equals no endpoint's. -/
def exactDuplicateRule : QualificationVerdict :=
  match (edge.property "content_hash").text? with
  | none => .unqualified reasonEvidenceMissing
  | some contentHash =>
      if (edge.property "method").text? ≠ some exactDuplicateMethod ∨ contentHash = "" then
        .unqualified reasonEvidenceMissing
      else if ¬ (carriesHash index edge.sourceId contentHash ∧
          carriesHash index edge.targetId contentHash) then
        .unqualified reasonEvidenceMissing
      else .qualified "content-hash-equality"

/-- `_repository_upstream_rule`. -/
def repositoryUpstreamRule : QualificationVerdict :=
  match index.repositories.lookup edge.targetId with
  | none => .unqualified reasonEndpointUnresolved
  | some _ => .qualified "observed-repository-target"

/-- `_ORIGIN_RULES`; no rule for the two origins that are never admissible. -/
def originRule : RelationOrigin → Option QualificationVerdict
  | .workProjector => some (workProjectorRule str edge index)
  | .claimProjector => some (claimProjectorRule str edge index)
  | .exactDuplicate => some (exactDuplicateRule edge index)
  | .producerDeclared => some (.qualified "relation-field-evidence")
  | .repositoryUpstream => some (repositoryUpstreamRule edge index)
  | .repositoryOwner => some (.qualified "record-membership")
  | .capabilityRecord => some (.qualified "record-membership")
  | .artifactCapability => some (.qualified "record-membership")
  | .artifactContainment => some (.qualified "inventory")
  | .corpusScope => some (.qualified "inventory")
  | .artifactClassification => none
  | .unrecognized => none

/-- The verdict on an edge of the given origin: `_admission` and then the rule of the producer. -/
def verdict (origin : RelationOrigin) : QualificationVerdict :=
  match admissibleOrigins.lookup edge.edgeType with
  | none => .unqualified reasonTypeUnrecognized
  | some admissible =>
      if origin = .artifactClassification then .unqualified reasonClassificationOnly
      else
        match originRule str edge index origin with
        | none => .unqualified reasonOriginUnsupported
        | some judged =>
            if origin ∉ admissible then .unqualified reasonOriginUnsupported
            else if resolvedEvidence edge index = [] then .unqualified reasonEvidenceMissing
            else judged

/-- `RelationQualification`. -/
structure RelationQualification where
  edgeId : String
  edgeType : String
  origin : RelationOrigin
  verdict : QualificationVerdict

/-- The relation is let through. -/
def RelationQualification.qualified (qualification : RelationQualification) : Bool :=
  qualification.verdict.isQualified

/-- `as_metadata`. -/
def RelationQualification.asMetadata (qualification : RelationQualification) :
    List (String × String) :=
  [("origin", qualification.origin.value), ("status", qualification.verdict.status),
    ("basis", qualification.verdict.reason)]

/-- `qualify_relation`. -/
def qualifyRelation : RelationQualification where
  edgeId := edge.edgeId
  edgeType := edge.edgeType.value
  origin := relationOrigin edge index
  verdict := verdict str edge index (relationOrigin edge index)

end Rules

/-! ## Which origin is recognized -/

section Recognized

variable {edge : EdgeRecord} {index : QualificationIndex} {origin : RelationOrigin}

theorem property_of_no_property {key : String} (h : edge.hasProperty key = false) :
    edge.property key = .null := by
  unfold EdgeRecord.property
  cases hvalue : edge.properties.lookup key with
  | none => rfl
  | some value => simp [EdgeRecord.hasProperty, hvalue] at h

theorem hasProperty_of_text {key value : String} (h : (edge.property key).text? = some value) :
    edge.hasProperty key = true := by
  by_contra hproperty
  rw [property_of_no_property (by simpa using hproperty)] at h
  cases h

/-- The producers recognized by what an edge records. -/
def recordedOrigins : List RelationOrigin :=
  [.workProjector, .claimProjector, .exactDuplicate, .corpusScope, .producerDeclared]

theorem repositoryOrigin_not_recorded (h : repositoryOrigin edge index = some origin) :
    origin ∉ recordedOrigins := by
  unfold repositoryOrigin at h
  split at h
  · cases h
  · split_ifs at h <;> cases h <;> decide

theorem capabilityOrigin_not_recorded (h : capabilityOrigin edge index = some origin) :
    origin ∉ recordedOrigins := by
  unfold capabilityOrigin at h
  split at h
  · cases h
  · split_ifs at h <;> cases h <;> decide

/-- A record an edge mirrors never makes it one of a producer that records properties. -/
theorem relationOrigin_recorded_iff (h : origin ∈ recordedOrigins) :
    relationOrigin edge index = origin ↔ recordedOrigin edge index = some origin := by
  unfold relationOrigin
  cases hrecorded : recordedOrigin edge index with
  | some recorded => simp
  | none =>
      simp only [reduceCtorEq, iff_false]
      intro heq
      split at heq
      · rw [← heq] at h
        exact absurd h (by decide)
      · cases hrepository : repositoryOrigin edge index with
        | some found =>
            rw [hrepository] at heq
            exact repositoryOrigin_not_recorded hrepository ((show found = origin from heq) ▸ h)
        | none =>
            rw [hrepository, Option.none_or] at heq
            cases hcapability : capabilityOrigin edge index with
            | some found =>
                rw [hcapability] at heq
                exact capabilityOrigin_not_recorded hcapability ((show found = origin from heq) ▸ h)
            | none =>
                rw [hcapability] at heq
                rw [← heq] at h
                exact absurd h (by decide)

theorem relationOrigin_workProjector_iff :
    relationOrigin edge index = .workProjector ↔
      edge.hasProperty "target_resolution" = true := by
  rw [relationOrigin_recorded_iff (by decide)]
  unfold recordedOrigin
  split_ifs with h <;> simp [h]

theorem relationOrigin_claimProjector_iff :
    relationOrigin edge index = .claimProjector ↔
      edge.hasProperty "target_resolution" = false ∧
        edge.hasProperty "projected_from_claim_id" = true ∧
          edge.hasProperty "endpoint_kind" = true := by
  rw [relationOrigin_recorded_iff (by decide)]
  unfold recordedOrigin
  split_ifs with hwork hclaim <;> simp_all

end Recognized

/-! ## What a qualification says -/

section Verdict

variable {str : Json → String} {edge : EdgeRecord} {index : QualificationIndex}

/-- Every edge type has a row. -/
theorem exists_admissibleOrigins (edgeType : EdgeType) :
    ∃ admissible, admissibleOrigins.lookup edgeType = some admissible := by
  cases edgeType <;> exact ⟨_, rfl⟩

/-- The origins a type admits. -/
def Admits (edgeType : EdgeType) (origin : RelationOrigin) : Prop :=
  ∃ admissible ∈ admissibleOrigins.lookup edgeType, origin ∈ admissible

instance (edgeType : EdgeType) (origin : RelationOrigin) : Decidable (Admits edgeType origin) :=
  inferInstanceAs (Decidable (∃ admissible ∈ _, _))

/-- **Qualification.** An edge qualifies exactly when its type admits its origin, some of its
    evidence resolves, and the rule of the origin is met. -/
theorem qualified_iff :
    (qualifyRelation str edge index).qualified = true ↔
      Admits edge.edgeType (relationOrigin edge index) ∧ resolvedEvidence edge index ≠ [] ∧
        ∃ judged, originRule str edge index (relationOrigin edge index) = some judged ∧
          judged.isQualified = true := by
  obtain ⟨admissible, hrow⟩ := exists_admissibleOrigins edge.edgeType
  unfold RelationQualification.qualified qualifyRelation verdict Admits
  rw [hrow]
  generalize relationOrigin edge index = origin
  by_cases hclass : origin = .artifactClassification
  · subst hclass
    simp [originRule, QualificationVerdict.isQualified]
  · cases hrule : originRule str edge index origin with
    | none => simp [hclass, QualificationVerdict.isQualified]
    | some judged =>
        by_cases hadmits : origin ∈ admissible
        · by_cases hevidence : resolvedEvidence edge index = []
          · simp [hclass, hadmits, hevidence, QualificationVerdict.isQualified]
          · simp [hclass, hadmits, hevidence]
        · simp [hclass, hadmits, QualificationVerdict.isQualified]

/-- The claim gate is open exactly when the edge names an eligible claim. -/
theorem claimGate_eq_none_iff :
    claimGate str edge index = none ↔
      ∃ claim, namedClaim str edge index = some claim ∧
        eligibleForCanonicalProjection claim = true := by
  unfold claimGate eligibleForCanonicalProjection
  cases namedClaim str edge index with
  | none => simp
  | some claim => simp

theorem workProjectorRule_qualified_iff :
    (workProjectorRule str edge index).isQualified = true ↔
      claimGate str edge index = none ∧
        (edge.property "target_resolution").text? = some "exact-artifact" := by
  unfold workProjectorRule
  cases claimGate str edge index with
  | some blocked => simp [QualificationVerdict.isQualified]
  | none =>
      by_cases h : (edge.property "target_resolution").text? = some "exact-artifact"
      · simp [h, QualificationVerdict.isQualified]
      · simp [h, QualificationVerdict.isQualified]

theorem claimProjectorRule_qualified_iff :
    (claimProjectorRule str edge index).isQualified = true ↔
      endpointMatches edge ∧ claimGate str edge index = none := by
  unfold claimProjectorRule
  by_cases h : endpointMatches edge
  · cases claimGate str edge index with
    | some blocked => simp [h, QualificationVerdict.isQualified]
    | none => simp [h, QualificationVerdict.isQualified]
  · simp [h, QualificationVerdict.isQualified]

end Verdict

end Qualification

end ConstellationTopology
