import ConstellationTopology.Domain.Topology
import ConstellationTopology.Library.Fallible
import ConstellationTopology.Library.Table
import ConstellationTopology.Packets.TopologyPacket
import ConstellationTopology.Publication.Identity
import ConstellationTopology.Publication.Policy
import Mathlib.Algebra.Order.Ring.Unbundled.Rat

set_option autoImplicit false

/-! # Lowering topology facts to memory intents

`publication/lowering.py`. The four kinds of records become one kind of fact (`TopologyFact`, the
arguments of `_build`), and `build` lowers a fact: first what can fail (`lowerParts`), then the
request, the receipt and the identities (`assemble`). -/

namespace ConstellationTopology

/-- A gap in the policy or the topology, or a bound of the downstream contract. -/
inductive LoweringFailure
  | lowering (message : String)
  | validation (field : String)
  deriving DecidableEq, Repr

/-! ## The index -/

/-- The repository that owns an entity. -/
abbrev OwnerTable := Table (Prod.fst : String × String → String)

/-- What lowering looks up in a state. -/
structure TopologyIndex where
  evidenceById : Table EvidenceRecord.evidenceId
  conflictsBySubject : String → List ConflictRecord
  unknownsBySubject : String → List UnknownRecord
  owningRepositoryByEntity : OwnerTable

/-- `owning.setdefault`. -/
def setDefaultOwner (repositoryId : String) (owning : OwnerTable) (entityId : String) :
    OwnerTable :=
  match owning.lookup entityId with
  | some _ => owning
  | none => owning.upsert (entityId, repositoryId)

/-- The owners after one repository. -/
def ownedBy (owning : OwnerTable) (repository : RepositoryRecord) : OwnerTable :=
  (repository.artifactIds ++ repository.capabilityIds).foldl
    (setDefaultOwner repository.repositoryId)
    (owning.upsert (repository.repositoryId, repository.repositoryId))

/-- `TopologyIndex.build`. -/
def TopologyIndex.build (state : TopologyState) : TopologyIndex where
  evidenceById := Table.ofRows EvidenceRecord.evidenceId state.evidence
  conflictsBySubject subjectId := sortedBy ConflictRecord.conflictId
    (groupOf ConflictRecord.subjectId subjectId state.conflicts)
  unknownsBySubject subjectId := sortedBy UnknownRecord.unknownId
    (groupOf UnknownRecord.subjectId subjectId state.unknowns)
  owningRepositoryByEntity := state.repositoryRecords.foldl ownedBy Table.empty

/-- The repository a fact about the entity belongs to. -/
def TopologyIndex.owner (index : TopologyIndex) (entityId : String) : Option String :=
  (index.owningRepositoryByEntity.lookup entityId).map Prod.snd

/-! ## What the policy says about a judgement -/

section Policy

variable (policy : PublicationPolicy)

/-- `_namespace`. -/
def publicationNamespace (owningRepositoryId : Option String) : String :=
  let scope :=
    match owningRepositoryId with
    | none => "unscoped"
    | some id => if afterFirst ':' id = "" then "unscoped" else afterFirst ':' id
  clip 300 (policy.namespaceRoot ++ "/" ++ scope)

/-- A value of the policy, or a lowering error that names what it has none for. -/
def policyValue {α : Type*} (table : List (String × α)) (what key : String) :
    Except LoweringFailure α :=
  match table.lookup key with
  | some value => .ok value
  | none => .error (.lowering ("publication policy has no " ++ what ++ " '" ++ key ++ "'"))

theorem policyValue_eq_ok {α : Type} {table : List (String × α)} {what key : String} {value : α} :
    policyValue table what key = .ok value ↔ table.lookup key = some value := by
  unfold policyValue
  split
  · next found hfound => simp [hfound]
  · next hnone => simp [hnone]

/-- `max(0.0, min(1.0, score))`. -/
def unitScore (score : ℚ) : UnitScore :=
  ⟨max 0 (min 1 score), le_max_left _ _,
    max_le (by decide : (0 : ℚ) ≤ 1) (min_le_left _ _)⟩

/-- `_confidence_score`. -/
def confidenceScore (assessment : ConfidenceAssessment) : Except LoweringFailure UnitScore := do
  let score ← policyValue policy.confidenceScoreByLevel "confidence score for level"
    assessment.level.value
  let ceiling ← policyValue policy.confidenceConflictCeiling "conflict ceiling for status"
    assessment.conflictStatus.value
  return unitScore (min score ceiling)

/-- `_confidence_method`. -/
def confidenceMethod (assessment : ConfidenceAssessment) :
    Except LoweringFailure ConfidenceMethodName :=
  policyValue policy.confidenceMethodByDerivation "confidence method for derivation"
    assessment.derivationMethod.value

/-- `_source_trust`. -/
def sourceTrust (assessment : ConfidenceAssessment) : Except LoweringFailure UnitScore := do
  let trust ← policyValue policy.sourceTrustByAuthority "source trust for authority"
    assessment.authority.value
  return unitScore trust

/-- `_evidence_kind`. -/
def evidenceKind (record : EvidenceRecord) : Except LoweringFailure EvidenceKindName :=
  policyValue policy.evidenceKindByClass "evidence kind for class" record.evidenceClass.value

end Policy

/-! ## Evidence -/

/-- The mirror of a locator, field for field. -/
def mirrorLocator : SourceLocator → MemorySourceLocator
  | .line startLine endLine => .line (some startLine) (some endLine) none none
  | .pdf pageNumber blockIndex => .pdf pageNumber blockIndex
  | .docx blockIndex blockKind part => .docx blockIndex blockKind part
  | .pptx slideNumber shapeIndex part => .pptx slideNumber shapeIndex part
  | .spreadsheet sheet cellOrRange => .spreadsheet sheet cellOrRange
  | .notebook cellIndex cellType startLine endLine =>
      .notebook cellIndex cellType startLine endLine
  | .csv row column => .csv row column
  | .html stableNodeIndex nodePath => .html stableNodeIndex nodePath

/-- `_lower_locator`. -/
def lowerLocator (record : EvidenceRecord) :
    Except LoweringFailure { locator : Option MemorySourceLocator // ∀ l ∈ locator, l.Valid } :=
  match record.sourceRef.locator with
  | none => .ok ⟨none, by simp⟩
  | some locator =>
      if h : (mirrorLocator locator).Valid then .ok ⟨some (mirrorLocator locator), by simpa using h⟩
      else .error (.validation "source_locator")

/-- Python's `or` on texts that may be `None`. -/
def orElse (first second : Option String) : Option String :=
  if first = none ∨ first = some "" then second else first

/-- `_evidence_description` before it is clipped. -/
def describeEvidence (record : EvidenceRecord) : String :=
  let subject := (orElse record.field (some record.subjectId)).getD ""
  let location := orElse (orElse record.sourceRef.sourcePath record.sourceRef.uri)
    record.sourceRef.packetId
  let suffix := if location = none ∨ location = some "" then "" else " from " ++ location.getD ""
  "Topology stage " ++ (record.stage ++ " recorded " ++ record.evidenceClass.value ++ " " ++
    record.sourceType.value ++ " evidence for " ++ subject ++ suffix ++ ".")

theorem describeEvidence_ne (record : EvidenceRecord) : describeEvidence record ≠ "" := by
  intro h
  have htext := congrArg String.toList h
  simp [describeEvidence] at htext

/-- `MemoryEvidenceRef` of a kept record. -/
def lowerEvidenceRef (policy : PublicationPolicy) (publishedAt : Timestamp)
    (record : EvidenceRecord) : Except LoweringFailure MemoryEvidenceRef := do
  let kind ← evidenceKind policy record
  let locator ← lowerLocator record
  return {
    kind := kind
    description := clip 2000 (describeEvidence record)
    sourceId := some (clip 500 record.evidenceId)
    sourceDigest := bareDigest record.sourceRef.contentHash
    sourceLocator := locator.val
    observedAt := publishedAt
    description_length := lengthIn_clip_of_ne (by decide) (describeEvidence_ne record)
    sourceId_length := by simpa using lengthIn_clip record.evidenceId
    sourceDigest_hex := fun _ h => bareDigest_hex h
    sourceLocator_valid := locator.property }

/-- What is said of the compiler's own derivation, before it is clipped. -/
def describeDerivation (subjectId : String) (requiredMethod : ConfidenceMethodName) (count : ℕ) :
    String :=
  "Topology compiler derived this fact for " ++ (subjectId ++ " by " ++ requiredMethod.value ++
    " reconciliation over " ++ toString count ++ " evidence record(s).")

theorem describeDerivation_ne (subjectId : String) (requiredMethod : ConfidenceMethodName)
    (count : ℕ) : describeDerivation subjectId requiredMethod count ≠ "" := by
  unfold describeDerivation
  rw [ne_eq, ← String.toList_eq_nil_iff, String.toList_append]
  exact List.append_ne_nil_of_left_ne_nil (by decide) _

/-- The reference to the compiler's own derivation. -/
def derivationEvidenceRef (kind : EvidenceKindName) (subjectId : String)
    (requiredMethod : ConfidenceMethodName) (count : ℕ) (publishedAt : Timestamp) :
    MemoryEvidenceRef where
  kind := kind
  description := clip 2000 (describeDerivation subjectId requiredMethod count)
  sourceId := some (clip 500 subjectId)
  observedAt := publishedAt
  description_length := lengthIn_clip_of_ne (by decide)
    (describeDerivation_ne subjectId requiredMethod count)
  sourceId_length := by simpa using lengthIn_clip subjectId
  sourceDigest_hex := by simp
  sourceLocator_valid := by simp

/-- What `_lower_evidence` returns. -/
structure LoweredEvidence where
  refs : List MemoryEvidenceRef
  resolvedIds : List String
  truncated : ℕ
  derivationKind : Option EvidenceKindName
  kept : List EvidenceRecord

/-- The records the references resolve to, one for each reference. -/
def referencedEvidence (index : TopologyIndex) (evidenceRefs : List String) :
    List EvidenceRecord :=
  evidenceRefs.dedup.filterMap index.evidenceById.lookup

/-- The resolved records, by id. -/
def resolvedEvidence (index : TopologyIndex) (evidenceRefs : List String) : List EvidenceRecord :=
  sortedBy EvidenceRecord.evidenceId (referencedEvidence index evidenceRefs)

/-- The resolved records below the policy's bound. -/
def keptEvidence (policy : PublicationPolicy) (index : TopologyIndex) (evidenceRefs : List String) :
    List EvidenceRecord :=
  (resolvedEvidence index evidenceRefs).take policy.maximumEvidenceRefsPerCandidate

/-- The kind of the extra reference, where the method needs evidence that no lowered one is. -/
def derivationKindOf (resolved : List EvidenceRecord) (requiredMethod : ConfidenceMethodName)
    (lowered : List MemoryEvidenceRef) : Option EvidenceKindName :=
  if resolved ≠ [] ∧ requiredMethod ∈ evidenceRequiringMethods ∧
      ¬ lowered.any (·.kind ∈ derivationEvidenceKinds) then
    some (if requiredMethod = .aggregated then .aggregation else .inference)
  else none

/-- `_lower_evidence`. -/
def lowerEvidence (policy : PublicationPolicy) (index : TopologyIndex)
    (evidenceRefs : List String) (publishedAt : Timestamp)
    (requiredMethod : ConfidenceMethodName) (subjectId : String) :
    Except LoweringFailure LoweredEvidence := do
  let resolved := resolvedEvidence index evidenceRefs
  let kept := keptEvidence policy index evidenceRefs
  let lowered ← kept.mapM (lowerEvidenceRef policy publishedAt)
  let derivationKind := derivationKindOf resolved requiredMethod lowered
  return {
    refs := lowered ++ derivationKind.toList.map fun kind =>
      derivationEvidenceRef kind subjectId requiredMethod resolved.length publishedAt
    resolvedIds := resolved.map EvidenceRecord.evidenceId
    truncated := resolved.length - kept.length
    derivationKind := derivationKind
    kept := kept }

/-- The stable locator of a record: its path or else its address. -/
def stableLocator (record : EvidenceRecord) : Option String :=
  orElse record.sourceRef.sourcePath record.sourceRef.uri

/-- One record as it bears on the requested write. -/
def recordSemantics (policy : PublicationPolicy) (record : EvidenceRecord) :
    Except LoweringFailure EvidenceSemantics := do
  let kind ← evidenceKind policy record
  return {
    evidenceKind := kind
    sourceContentDigest := bareDigest record.sourceRef.contentHash
    stableSourceLocator := stableLocator record }

/-- `_local_evidence_semantics`. -/
def localEvidenceSemantics (policy : PublicationPolicy) (kept : List EvidenceRecord) :
    Except LoweringFailure (List EvidenceSemantics) :=
  kept.mapM (recordSemantics policy)

/-- A key that orders ISO texts in UTC as the instants: the seconds, then the fraction. -/
def Timestamp.sortKey (timestamp : Timestamp) : String :=
  String.ofList (timestamp.isoformat.toList.take 19 ++
    (timestamp.isoformat.toList.drop 19).filter Char.isDigit)

/-- `_earliest_observation`. -/
def earliestObservation (kept : List EvidenceRecord) : Option Timestamp :=
  (kept.map EvidenceRecord.createdAt).argmin Timestamp.sortKey

/-- A text that is there and not empty. -/
def truthy (text : Option String) : Option String := text.filter fun value => value ≠ ""

/-- `_source_locators`: the revisions and the paths of all references, truncated or not. -/
def sourceLocators (policy : PublicationPolicy) (index : TopologyIndex)
    (evidenceRefs : List String) : List String × List String :=
  let records := referencedEvidence index evidenceRefs
  (sortedSet (records.filterMap fun record => truthy record.sourceRef.sourceRevision),
    (sortedSet (records.filterMap fun record => truthy record.sourceRef.sourcePath)).take
      policy.maximumEvidenceRefsPerCandidate)

/-! ## Building a candidate -/

/-- `AssertionProvenance`. -/
structure AssertionProvenance where
  sourceAssertionIds : List String := []
  predicate : Option String := none
  support : Option String := none

/-- The arguments of `_build` that come from the lowered record. -/
structure TopologyFact where
  candidateKind : CandidateKind
  entityIds : List String
  content : String
  assertion : Option MemoryAssertion := none
  assessment : ConfidenceAssessment
  evidenceRefs : List String
  sourceFields : List String
  extractionMethod : String
  provenance : AssertionProvenance := {}
  relation : Option TopologyRelation := none

/-- A fact as a request, with what it was made of. -/
structure LoweredCandidate where
  candidateKind : CandidateKind
  sourceTopologyEntityIds : List String
  sourceEvidenceIds : List String
  request : MemoryWriteRequest
  receipt : LoweringReceipt
  identity : CandidateIdentity
  candidateId : String
  idempotencyKey : String
  hasResolvedEvidence : Bool
  requiresEvidence : Bool

/-- `_provenance`. -/
def makeProvenance (policy : PublicationPolicy) (packet : TopologyPacket)
    (assessment : ConfidenceAssessment) (owningRepositoryId : Option String)
    (extractionMethod : String) (publishedAt : Timestamp) :
    Except LoweringFailure MemoryProvenance := do
  let trust ← sourceTrust policy assessment
  if hsource : LengthIn 1 200 (clip 200 packet.producer.name) then
    if hrepository : ∀ id ∈ truthy owningRepositoryId, LengthIn 0 300 id then
      return {
        source := clip 200 packet.producer.name
        sourceId := some (clip 500 packet.packetId)
        sourceDigest := bareDigest (some packet.semanticHash)
        sourceAgentId := some (clip 200 (packet.producer.name ++ "/" ++ packet.producer.version))
        repository := truthy owningRepositoryId
        tool := some "l9-constellation-topology/publication"
        extractionMethod := extractionMethod
        sourceTrust := trust
        transformedAt := publishedAt
        source_length := hsource
        repository_length := hrepository
        sourceDigest_hex := fun _ h => bareDigest_hex h }
    else throw (.validation "repository")
  else throw (.validation "source")

/-- The `MemoryConfidence` of a fact. -/
def makeConfidence (policy : PublicationPolicy) (assessment : ConfidenceAssessment)
    (method : ConfidenceMethodName) (evidenceCount : ℕ) (publishedAt : Timestamp) :
    Except LoweringFailure MemoryConfidence := do
  let score ← confidenceScore policy assessment
  if hversion : LengthIn 1 100 policy.confidencePolicyVersion then
    return {
      score := score
      method := method
      evidenceCount := evidenceCount
      policyVersion := policy.confidencePolicyVersion
      calibratedAt := publishedAt
      policyVersion_length := hversion }
  else throw (.validation "policy_version")

/-- What can fail while a fact is lowered, once it has not. -/
structure LoweredParts where
  subjectId : String
  method : ConfidenceMethodName
  evidence : LoweredEvidence
  confidence : MemoryConfidence
  provenance : MemoryProvenance
  localEvidence : List EvidenceSemantics

section Build

variable (c : Codec) (policy : PublicationPolicy) (packet : TopologyPacket)
  (index : TopologyIndex) (publishedAt : Timestamp)

/-- The steps of `_build` that can fail, in their order. -/
def lowerParts (fact : TopologyFact) : Except LoweringFailure LoweredParts :=
  match fact.entityIds with
  | [] => .error (.lowering "a lowered fact must name at least one topology entity")
  | subjectId :: _ => do
      let method ← confidenceMethod policy fact.assessment
      let evidence ← lowerEvidence policy index fact.evidenceRefs publishedAt method subjectId
      let confidence ← makeConfidence policy fact.assessment method evidence.refs.length
        publishedAt
      let provenance ← makeProvenance policy packet fact.assessment (index.owner subjectId)
        fact.extractionMethod publishedAt
      let localEvidence ← localEvidenceSemantics policy evidence.kept
      return ⟨subjectId, method, evidence, confidence, provenance, localEvidence⟩

/-- The memory class of a kind of fact. -/
def PublicationPolicy.memoryClass (kind : CandidateKind) : MemoryClassName :=
  match kind with
  | .entity => policy.entityMemoryClass
  | .relationship => policy.relationshipMemoryClass
  | .claim => policy.claimMemoryClass

/-- The identity of the fact. -/
def factIdentity (fact : TopologyFact) (subjectId : String) : CandidateIdentity where
  operation := memoryIngestOperation
  candidateKind := fact.candidateKind
  memoryNamespace := publicationNamespace policy (index.owner subjectId)
  memoryClass := policy.memoryClass fact.candidateKind
  content := fact.content
  assertion := fact.assertion
  sourceTopologyEntityIds := fact.entityIds

/-- The confidence claim of a write. -/
def MemoryConfidence.semantics (confidence : MemoryConfidence) : ConfidenceSemantics where
  score := confidence.score
  method := confidence.method
  evidenceCount := confidence.evidenceCount
  confidencePolicyVersion := confidence.policyVersion

/-- `_metadata`. -/
def requestMetadata (fact : TopologyFact) (subjectId publicationCandidateId : String) :
    RequestMetadata :=
  let locators := sourceLocators policy index fact.evidenceRefs
  { topologyPacketId := packet.packetId
    topologySemanticHash := packet.semanticHash
    topologyEntityIds := fact.entityIds
    repositoryModelPacketIds := packet.inputs.repositoryModelPackets.map PacketRef.packetId
    candidateKind := fact.candidateKind
    publicationPolicy := policy.identity
    idempotencyAlgorithmVersion := idempotencyAlgorithmVersion
    loweringContractVersion := loweringContractVersion
    observedConflictIds := (index.conflictsBySubject subjectId).map ConflictRecord.conflictId
    observedUnknownIds := (index.unknownsBySubject subjectId).map UnknownRecord.unknownId
    sourceRevisions := locators.1
    sourcePaths := locators.2
    publicationCandidateId := publicationCandidateId
    sourceAssertionIds := fact.provenance.sourceAssertionIds
    assertionPredicate := fact.provenance.predicate
    topologyRelation := fact.relation }

theorem publicationNamespace_length (owningRepositoryId : Option String) :
    LengthIn 1 300 (publicationNamespace policy owningRepositoryId) := by
  refine lengthIn_clip_of_ne (by decide) fun h => ?_
  have htext := congrArg String.toList h
  simp at htext

/-- The candidate, once nothing can fail. -/
def assemble (fact : TopologyFact) (parts : LoweredParts) (hcontent : fact.content ≠ "") :
    LoweredCandidate :=
  let identity := factIdentity policy index fact parts.subjectId
  let key := idempotencyKey c identity loweringContractVersion parts.localEvidence
    parts.confidence.semantics parts.evidence.derivationKind
  { candidateKind := fact.candidateKind
    sourceTopologyEntityIds := fact.entityIds
    sourceEvidenceIds := parts.evidence.resolvedIds
    request :=
      { memoryNamespace := identity.memoryNamespace
        memoryClass := identity.memoryClass
        content := clip 64000 fact.content
        assertion := fact.assertion
        provenance := parts.provenance
        evidence := parts.evidence.refs
        confidence := parts.confidence
        validFrom := publishedAt
        sourceObservedAt := earliestObservation parts.evidence.kept
        tags := ["l9-topology", "topology-" ++ fact.candidateKind.value]
        metadata := requestMetadata policy packet index fact parts.subjectId
          (candidateId c identity)
        idempotencyKey := key
        memoryNamespace_length := publicationNamespace_length policy _
        content_length := lengthIn_clip_of_ne (by decide) hcontent }
    receipt :=
      { sourceFields := fact.sourceFields
        resolvedEvidenceIds := parts.evidence.resolvedIds
        truncatedEvidenceCount := parts.evidence.truncated
        derivationEvidenceKind := parts.evidence.derivationKind
        confidenceLevel := fact.assessment.level.value
        confidenceMethod := parts.method
        conflictStatus := fact.assessment.conflictStatus.value
        observedConflictIds :=
          (index.conflictsBySubject parts.subjectId).map ConflictRecord.conflictId
        observedUnknownIds := (index.unknownsBySubject parts.subjectId).map UnknownRecord.unknownId
        owningRepositoryId := index.owner parts.subjectId
        sourceAssertionIds := fact.provenance.sourceAssertionIds
        assertionPredicate := fact.provenance.predicate
        predicateSupport := fact.provenance.support }
    identity := identity
    candidateId := candidateId c identity
    idempotencyKey := key
    hasResolvedEvidence := parts.evidence.resolvedIds ≠ []
    requiresEvidence := parts.method ∈ evidenceRequiringMethods }

/-- `_build`. -/
def build (fact : TopologyFact) : Except LoweringFailure LoweredCandidate := do
  let parts ← lowerParts policy packet index publishedAt fact
  if hcontent : fact.content ≠ "" then
    return assemble c policy packet index publishedAt fact parts hcontent
  else throw (.validation "content")

end Build

/-! ## The four kinds of facts -/

/-- `_describe_list`. -/
def describeList (values : List String) : String :=
  if values = [] then "none observed" else String.intercalate ", " values

/-- What a repository states. -/
def repositoryFact (record : RepositoryRecord) : TopologyFact where
  candidateKind := .entity
  entityIds := [record.repositoryId]
  content := "Repository " ++ record.name ++ " (" ++ record.repositoryId ++ ") has primary role " ++
    record.primaryRole ++ " at source revision " ++ record.sourceRevision ++ ". Languages: " ++
    describeList record.languages ++ ". Package managers: " ++
    describeList record.packageManagers ++ "."
  assessment := record.confidence
  evidenceRefs := record.evidenceRefs
  sourceFields := ["name", "repository_id", "primary_role", "source_revision", "languages",
    "package_managers"]
  extractionMethod := "topology-entity-aggregation"

/-- What a capability states. -/
def capabilityFact (record : CapabilityRecord) : TopologyFact where
  candidateKind := .entity
  entityIds := [record.capabilityId]
  content := "Capability " ++ record.name ++ " (" ++ record.capabilityId ++ "): " ++
    record.description ++ " Implemented by: " ++ describeList record.implementedBy ++
    ". Exposed by: " ++ describeList record.exposedBy ++ "."
  assessment := record.confidence
  evidenceRefs := record.evidenceRefs
  sourceFields := ["capability_id", "name", "description", "implemented_by", "exposed_by"]
  extractionMethod := "topology-entity-aggregation"

/-- `relation_metadata`, with the qualification that admitted the edge. -/
def relationMetadata (record : EdgeRecord) (qualification : Option (List (String × String))) :
    TopologyRelation where
  edgeId := record.edgeId
  edgeType := record.edgeType.value
  sourceId := record.sourceId
  targetId := record.targetId
  direction := record.direction.value
  properties := (Json.obj record.properties).canonicalData
  qualification := qualification

/-- The statement of an edge. -/
def relationshipAssertion (record : EdgeRecord) : MemoryAssertion where
  subject := clip 500 record.sourceId
  predicate := clip 200 record.edgeType.value
  object := clip 2000 record.targetId

/-- What an edge states. -/
def relationshipFact (record : EdgeRecord) (qualification : Option (List (String × String))) :
    TopologyFact where
  candidateKind := .relationship
  entityIds := [record.sourceId, record.targetId]
  content := "Topology relationship: " ++ record.sourceId ++ " " ++ record.edgeType.value ++ " " ++
    record.targetId ++ " (direction " ++ record.direction.value ++ ")."
  assertion := some (relationshipAssertion record)
  assessment := record.confidence
  evidenceRefs := record.evidenceRefs
  sourceFields := ["source_id", "edge_type", "target_id", "direction"]
  extractionMethod := "topology-relationship-compilation"
  relation := some (relationMetadata record qualification)

/-- The statement of a claim. -/
def claimAssertion (record : SemanticClaimRecord) : MemoryAssertion where
  subject := clip 500 record.subjectId
  predicate := clip 200 record.predicate
  object := clip 2000 record.object

/-- What a claim states. -/
def claimFact (record : SemanticClaimRecord) : TopologyFact where
  candidateKind := .claim
  entityIds := [record.subjectId]
  content := "Repository-model assertion: " ++ record.subjectId ++ " " ++ record.predicate ++ " " ++
    record.object ++ ". Cardinality " ++ record.cardinality.value ++ "; registry support " ++
    record.support.value ++ "; conflict status " ++ record.conflictStatus.value ++ "."
  assertion := some (claimAssertion record)
  assessment := record.confidence
  evidenceRefs := record.evidenceRefs
  sourceFields := ["subject_id", "predicate", "object", record.predicate]
  extractionMethod := "repository-model-assertion-reconciliation"
  provenance :=
    { sourceAssertionIds := record.sourceAssertionIds
      predicate := some record.predicate
      support := some record.support.value }

section Lower

variable (c : Codec) (policy : PublicationPolicy) (packet : TopologyPacket)
  (index : TopologyIndex) (publishedAt : Timestamp)

/-- `lower_repository`. -/
def lowerRepository (record : RepositoryRecord) : Except LoweringFailure LoweredCandidate :=
  build c policy packet index publishedAt (repositoryFact record)

/-- `lower_capability`. -/
def lowerCapability (record : CapabilityRecord) : Except LoweringFailure LoweredCandidate :=
  build c policy packet index publishedAt (capabilityFact record)

/-- `lower_relationship`. -/
def lowerRelationship (record : EdgeRecord) (qualification : Option (List (String × String))) :
    Except LoweringFailure LoweredCandidate :=
  if (relationshipAssertion record).isStructured then
    build c policy packet index publishedAt (relationshipFact record qualification)
  else .error (.lowering ("edge " ++ record.edgeId ++ " does not provide a structured assertion"))

/-- `lower_semantic_claim`. -/
def lowerSemanticClaim (record : SemanticClaimRecord) :
    Except LoweringFailure LoweredCandidate :=
  if (claimAssertion record).isStructured then
    build c policy packet index publishedAt (claimFact record)
  else .error (.lowering ("claim " ++ record.claimId ++ " does not provide a structured assertion"))

end Lower

/-- A record that publication can lower, an edge with the qualification that admitted it. -/
inductive PublishedRecord
  | repository (record : RepositoryRecord)
  | capability (record : CapabilityRecord)
  | relationship (record : EdgeRecord) (qualification : Option (List (String × String)))
  | claim (record : SemanticClaimRecord)

namespace PublishedRecord

/-- What a record states. -/
def fact : PublishedRecord → TopologyFact
  | repository record => repositoryFact record
  | capability record => capabilityFact record
  | relationship record qualification => relationshipFact record qualification
  | claim record => claimFact record

/-- The lowering of a record of either kind. -/
def lower (c : Codec) (policy : PublicationPolicy) (packet : TopologyPacket)
    (index : TopologyIndex) (publishedAt : Timestamp) :
    PublishedRecord → Except LoweringFailure LoweredCandidate
  | repository record => lowerRepository c policy packet index publishedAt record
  | capability record => lowerCapability c policy packet index publishedAt record
  | relationship record qualification =>
      lowerRelationship c policy packet index publishedAt record qualification
  | claim record => lowerSemanticClaim c policy packet index publishedAt record

end PublishedRecord

/-! ## What a lowered candidate was built from -/

section Built

variable {c : Codec} {policy : PublicationPolicy} {packet : TopologyPacket}
  {index : TopologyIndex} {publishedAt : Timestamp}

theorem build_of_lower {record : PublishedRecord} {lowered : LoweredCandidate}
    (h : record.lower c policy packet index publishedAt = .ok lowered) :
    build c policy packet index publishedAt record.fact = .ok lowered := by
  cases record with
  | repository record => exact h
  | capability record => exact h
  | relationship record qualification =>
      simp only [PublishedRecord.lower, lowerRelationship] at h
      split at h
      · exact h
      · cases h
  | claim record =>
      simp only [PublishedRecord.lower, lowerSemanticClaim] at h
      split at h
      · exact h
      · cases h

theorem build_eq_ok {fact : TopologyFact} {lowered : LoweredCandidate} :
    build c policy packet index publishedAt fact = .ok lowered ↔
      ∃ parts, lowerParts policy packet index publishedAt fact = .ok parts ∧
        ∃ hcontent, assemble c policy packet index publishedAt fact parts hcontent = lowered := by
  unfold build
  rw [bind_eq_ok]
  refine exists_congr fun parts => and_congr_right fun _ => ?_
  split
  · next hcontent => simp [pure_eq_ok, hcontent]
  · next hcontent => simp [hcontent, throw, throwThe, MonadExceptOf.throw]

/-- The steps behind the parts of a fact. -/
structure PartsOf (policy : PublicationPolicy) (packet : TopologyPacket) (index : TopologyIndex)
    (publishedAt : Timestamp) (fact : TopologyFact) (parts : LoweredParts) : Prop where
  subject : fact.entityIds.head? = some parts.subjectId
  method : confidenceMethod policy fact.assessment = .ok parts.method
  evidence : lowerEvidence policy index fact.evidenceRefs publishedAt parts.method
    parts.subjectId = .ok parts.evidence
  confidence : makeConfidence policy fact.assessment parts.method parts.evidence.refs.length
    publishedAt = .ok parts.confidence
  provenance : makeProvenance policy packet fact.assessment (index.owner parts.subjectId)
    fact.extractionMethod publishedAt = .ok parts.provenance
  localEvidence : localEvidenceSemantics policy parts.evidence.kept = .ok parts.localEvidence

theorem partsOf_of_lowerParts {fact : TopologyFact} {parts : LoweredParts}
    (h : lowerParts policy packet index publishedAt fact = .ok parts) :
    PartsOf policy packet index publishedAt fact parts := by
  unfold lowerParts at h
  split at h
  · cases h
  · next subjectId rest hids =>
      obtain ⟨method, hmethod, h⟩ := bind_eq_ok.1 h
      obtain ⟨evidence, hevidence, h⟩ := bind_eq_ok.1 h
      obtain ⟨confidence, hconfidence, h⟩ := bind_eq_ok.1 h
      obtain ⟨provenance, hprovenance, h⟩ := bind_eq_ok.1 h
      obtain ⟨localEvidence, hlocal, h⟩ := bind_eq_ok.1 h
      rw [← pure_eq_ok.1 h]
      exact ⟨by rw [hids]; rfl, hmethod, hevidence, hconfidence, hprovenance, hlocal⟩

/-- What `lowerEvidence` returns, from the references of the kept records. -/
theorem lowerEvidence_eq_ok {evidenceRefs : List String} {method : ConfidenceMethodName}
    {subjectId : String} {evidence : LoweredEvidence}
    (h : lowerEvidence policy index evidenceRefs publishedAt method subjectId = .ok evidence) :
    ∃ lowered,
      (keptEvidence policy index evidenceRefs).mapM (lowerEvidenceRef policy publishedAt) =
        .ok lowered ∧
      evidence.kept = keptEvidence policy index evidenceRefs ∧
      evidence.derivationKind =
        derivationKindOf (resolvedEvidence index evidenceRefs) method lowered ∧
      evidence.refs = lowered ++ evidence.derivationKind.toList.map fun kind =>
        derivationEvidenceRef kind subjectId method (resolvedEvidence index evidenceRefs).length
          publishedAt := by
  obtain ⟨lowered, hlowered, h⟩ := bind_eq_ok.1 h
  rw [← pure_eq_ok.1 h]
  exact ⟨lowered, hlowered, rfl, rfl, rfl⟩

theorem lowerLocator_eq_ok {record : EvidenceRecord}
    {locator : { locator : Option MemorySourceLocator // ∀ l ∈ locator, l.Valid }}
    (h : lowerLocator record = .ok locator) :
    locator.val = record.sourceRef.locator.map mirrorLocator := by
  unfold lowerLocator at h
  split at h
  · next hnone => rw [← Except.ok.inj h, hnone, Option.map_none]
  · next found hfound =>
      split at h
      · rw [← Except.ok.inj h, hfound, Option.map_some]
      · cases h

theorem lowerEvidenceRef_eq_ok {record : EvidenceRecord} {ref : MemoryEvidenceRef}
    (h : lowerEvidenceRef policy publishedAt record = .ok ref) :
    evidenceKind policy record = .ok ref.kind ∧
      ref.sourceDigest = bareDigest record.sourceRef.contentHash ∧
        ref.description = clip 2000 (describeEvidence record) ∧
          ref.sourceLocator = record.sourceRef.locator.map mirrorLocator := by
  obtain ⟨kind, hkind, h⟩ := bind_eq_ok.1 h
  obtain ⟨locator, hlocator, h⟩ := bind_eq_ok.1 h
  rw [← pure_eq_ok.1 h]
  exact ⟨hkind, rfl, rfl, lowerLocator_eq_ok hlocator⟩

theorem recordSemantics_eq_ok {record : EvidenceRecord} {evidence : EvidenceSemantics} :
    recordSemantics policy record = .ok evidence ↔
      evidenceKind policy record = .ok evidence.evidenceKind ∧
        evidence.sourceContentDigest = bareDigest record.sourceRef.contentHash ∧
          evidence.stableSourceLocator = stableLocator record := by
  unfold recordSemantics
  rw [bind_eq_ok]
  constructor
  · rintro ⟨kind, hkind, h⟩
    rw [← pure_eq_ok.1 h]
    exact ⟨hkind, rfl, rfl⟩
  · rintro ⟨hkind, hdigest, hlocator⟩
    refine ⟨_, hkind, pure_eq_ok.2 ?_⟩
    rw [← hdigest, ← hlocator]

theorem makeConfidence_eq_ok {assessment : ConfidenceAssessment} {method : ConfidenceMethodName}
    {count : ℕ} {confidence : MemoryConfidence}
    (h : makeConfidence policy assessment method count publishedAt = .ok confidence) :
    confidenceScore policy assessment = .ok confidence.score ∧ confidence.method = method ∧
      confidence.evidenceCount = count ∧
        confidence.policyVersion = policy.confidencePolicyVersion := by
  obtain ⟨score, hscore, h⟩ := bind_eq_ok.1 h
  split at h
  · rw [← pure_eq_ok.1 h]
    exact ⟨hscore, rfl, rfl, rfl⟩
  · cases h

/-- Where a fact comes from, apart from the packet that states it and the time. -/
structure ProvenanceOf (policy : PublicationPolicy) (packet : TopologyPacket)
    (assessment : ConfidenceAssessment) (owner : Option String) (extractionMethod : String)
    (provenance : MemoryProvenance) : Prop where
  trust : sourceTrust policy assessment = .ok provenance.sourceTrust
  source : provenance.source = clip 200 packet.producer.name
  agent : provenance.sourceAgentId =
    some (clip 200 (packet.producer.name ++ "/" ++ packet.producer.version))
  repository : provenance.repository = truthy owner
  tool : provenance.tool = some "l9-constellation-topology/publication"
  extractionMethod : provenance.extractionMethod = extractionMethod

theorem makeProvenance_eq_ok {assessment : ConfidenceAssessment} {owner : Option String}
    {extractionMethod : String} {provenance : MemoryProvenance}
    (h : makeProvenance policy packet assessment owner extractionMethod publishedAt =
      .ok provenance) :
    ProvenanceOf policy packet assessment owner extractionMethod provenance := by
  obtain ⟨trust, htrust, h⟩ := bind_eq_ok.1 h
  split at h
  · split at h
    · rw [← pure_eq_ok.1 h]
      exact ⟨htrust, rfl, rfl, rfl, rfl, rfl⟩
    · cases h
  · cases h

/-- A fact is lowered when the policy has a value for its judgements and for the class of every
    resolved record, and the locators and names keep the downstream bounds. -/
theorem exists_build_eq_ok {fact : TopologyFact} {subjectId : String} {rest : List String}
    {method : ConfidenceMethodName} (hids : fact.entityIds = subjectId :: rest)
    (hcontent : fact.content ≠ "") (hmethod : confidenceMethod policy fact.assessment = .ok method)
    (hevidence : ∀ e ∈ referencedEvidence index fact.evidenceRefs,
      ∃ ref, lowerEvidenceRef policy publishedAt e = .ok ref)
    (hconfidence : ∀ count, ∃ confidence,
      makeConfidence policy fact.assessment method count publishedAt = .ok confidence)
    (hprovenance : ∃ provenance, makeProvenance policy packet fact.assessment
      (index.owner subjectId) fact.extractionMethod publishedAt = .ok provenance) :
    ∃ lowered, build c policy packet index publishedAt fact = .ok lowered := by
  have hkept : ∀ e ∈ keptEvidence policy index fact.evidenceRefs,
      ∃ ref, lowerEvidenceRef policy publishedAt e = .ok ref :=
    fun e he => hevidence e (mem_sortedBy.1 (List.mem_of_mem_take he))
  obtain ⟨refs, hrefs⟩ := exists_mapM_eq_ok hkept
  obtain ⟨evidence, hlowered⟩ : ∃ evidence, lowerEvidence policy index fact.evidenceRefs
      publishedAt method subjectId = .ok evidence :=
    ⟨_, bind_eq_ok.2 ⟨refs, hrefs, rfl⟩⟩
  have hsemantics : ∀ e ∈ evidence.kept, ∃ item, recordSemantics policy e = .ok item := by
    obtain ⟨-, -, hrecords, -, -⟩ := lowerEvidence_eq_ok hlowered
    rw [hrecords]
    intro e he
    obtain ⟨ref, href⟩ := hkept e he
    exact ⟨_, bind_eq_ok.2 ⟨ref.kind, (lowerEvidenceRef_eq_ok href).1, rfl⟩⟩
  obtain ⟨items, hitems⟩ := exists_mapM_eq_ok hsemantics
  obtain ⟨confidence, hconfidence⟩ := hconfidence evidence.refs.length
  obtain ⟨provenance, hprovenance⟩ := hprovenance
  have hparts : lowerParts policy packet index publishedAt fact =
      .ok ⟨subjectId, method, evidence, confidence, provenance, items⟩ := by
    unfold lowerParts
    rw [hids]
    exact bind_eq_ok.2 ⟨method, hmethod, bind_eq_ok.2 ⟨evidence, hlowered, bind_eq_ok.2
      ⟨confidence, hconfidence, bind_eq_ok.2 ⟨provenance, hprovenance, bind_eq_ok.2
        ⟨items, hitems, rfl⟩⟩⟩⟩⟩
  exact ⟨_, build_eq_ok.2 ⟨_, hparts, hcontent, rfl⟩⟩

end Built

end ConstellationTopology
