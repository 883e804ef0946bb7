import ConstellationTopology.Library.Text
import ConstellationTopology.Run.Evidence

set_option autoImplicit false

/-! # Memory intents

`publication/contracts.py`: the mirror of the downstream write contract. Every bound of the contract
is a field of the record, so a request that the typed boundary would refuse cannot be built. -/

namespace ConstellationTopology

/-! ## Names -/

/-- The classes of memory. -/
inductive MemoryClassName
  | identity
  | preference
  | constraint
  | decision
  | episodic
  | semantic
  | procedural
  | observation
  | insight
  | metaMemory
  deriving DecidableEq, Repr

/-- The class of memory as it is serialized. -/
def MemoryClassName.value : MemoryClassName → String
  | identity => "identity"
  | preference => "preference"
  | constraint => "constraint"
  | decision => "decision"
  | episodic => "episodic"
  | semantic => "semantic"
  | procedural => "procedural"
  | observation => "observation"
  | insight => "insight"
  | metaMemory => "meta"

/-- The kinds of evidence that memory knows. -/
inductive EvidenceKindName
  | explicit
  | sourceExcerpt
  | test
  | observation
  | inference
  | aggregation
  | governanceApproval
  deriving DecidableEq, Repr

/-- The kind of evidence as it is serialized. -/
def EvidenceKindName.value : EvidenceKindName → String
  | explicit => "explicit"
  | sourceExcerpt => "source_excerpt"
  | test => "test"
  | observation => "observation"
  | inference => "inference"
  | aggregation => "aggregation"
  | governanceApproval => "governance_approval"

/-- How a score was arrived at. -/
inductive ConfidenceMethodName
  | explicit
  | extracted
  | inferred
  | aggregated
  | calibrated
  deriving DecidableEq, Repr

/-- The method of a score as it is serialized. -/
def ConfidenceMethodName.value : ConfidenceMethodName → String
  | explicit => "explicit"
  | extracted => "extracted"
  | inferred => "inferred"
  | aggregated => "aggregated"
  | calibrated => "calibrated"

/-- What kind of fact a candidate was lowered from. -/
inductive CandidateKind
  | entity
  | relationship
  | claim
  deriving DecidableEq, Repr

/-- The candidate kind as it is serialized. -/
def CandidateKind.value : CandidateKind → String
  | entity => "entity"
  | relationship => "relationship"
  | claim => "claim"

theorem MemoryClassName.value_injective : Function.Injective MemoryClassName.value := by
  intro a b h
  cases a <;> cases b <;> simp_all [value]

theorem EvidenceKindName.value_injective : Function.Injective EvidenceKindName.value := by
  intro a b h
  cases a <;> cases b <;> simp_all [value]

theorem ConfidenceMethodName.value_injective :
    Function.Injective ConfidenceMethodName.value := by
  intro a b h
  cases a <;> cases b <;> simp_all [value]

theorem CandidateKind.value_injective : Function.Injective CandidateKind.value := by
  intro a b h
  cases a <;> cases b <;> simp_all [value]

/-- `MEMORY_INGEST_OPERATION`. -/
def memoryIngestOperation : String := "memory.ingest"

/-- `LOWERING_CONTRACT_VERSION`. -/
def loweringContractVersion : String := "lowering/v2"

/-- `DERIVATION_EVIDENCE_KINDS`. -/
def derivationEvidenceKinds : List EvidenceKindName := [.inference, .aggregation, .sourceExcerpt]

/-- `EVIDENCE_REQUIRING_METHODS`. -/
def evidenceRequiringMethods : List ConfidenceMethodName := [.inferred, .aggregated]

/-! ## Digests -/

/-- `^[a-f0-9]{64}$`. -/
def IsSha256Hex (text : String) : Prop :=
  text.toList.length = 64 ∧ ∀ ch ∈ text.toList, ch ∈ "0123456789abcdef".toList

instance (text : String) : Decidable (IsSha256Hex text) :=
  @instDecidableAnd _ _ _ (List.decidableBAll (· ∈ "0123456789abcdef".toList) text.toList)

/-! ## Locators -/

/-- The mirror of `SourceLocator`. -/
inductive MemorySourceLocator
  | line (startLine endLine startOffset endOffset : Option ℕ)
  | pdf (pageNumber blockIndex : ℕ)
  | docx (blockIndex : ℕ) (blockKind part : String)
  | pptx (slideNumber shapeIndex : ℕ) (part : String)
  | spreadsheet (sheet cellOrRange : String)
  | notebook (cellIndex : ℕ) (cellType : String) (startLine endLine : Option ℕ)
  | csv (row : ℕ) (column : Option String)
  | html (stableNodeIndex : ℕ) (nodePath : String)
  deriving DecidableEq, Repr

/-- The bounds of the mirrored fields. -/
def MemorySourceLocator.Valid : MemorySourceLocator → Prop
  | line startLine endLine _ _ => (∀ n ∈ startLine, 1 ≤ n) ∧ ∀ n ∈ endLine, 1 ≤ n
  | pdf pageNumber _ => 1 ≤ pageNumber
  | docx _ blockKind part => LengthIn 1 100 blockKind ∧ LengthIn 0 300 part
  | pptx slideNumber _ part => 1 ≤ slideNumber ∧ LengthIn 0 300 part
  | spreadsheet sheet cellOrRange => LengthIn 1 300 sheet ∧ LengthIn 1 100 cellOrRange
  | notebook _ cellType startLine endLine =>
      LengthIn 1 100 cellType ∧ (∀ n ∈ startLine, 1 ≤ n) ∧ ∀ n ∈ endLine, 1 ≤ n
  | csv row column => 1 ≤ row ∧ ∀ name ∈ column, LengthIn 0 300 name
  | html _ nodePath => LengthIn 0 1000 nodePath

instance (locator : MemorySourceLocator) : Decidable locator.Valid := by
  cases locator <;> unfold MemorySourceLocator.Valid <;> infer_instance

/-! ## Requests -/

/-- A score between zero and one. -/
abbrev UnitScore := { score : ℚ // 0 ≤ score ∧ score ≤ 1 }

/-- Where a memory comes from. -/
structure MemoryProvenance where
  source : String
  sourceId : Option String := none
  sourceDigest : Option String := none
  sourceAgentId : Option String := none
  repository : Option String := none
  tool : Option String := none
  extractionMethod : String := "direct"
  sourceTrust : UnitScore
  transformedAt : Timestamp
  source_length : LengthIn 1 200 source
  repository_length : ∀ id ∈ repository, LengthIn 0 300 id
  sourceDigest_hex : ∀ digest ∈ sourceDigest, IsSha256Hex digest

/-- A piece of evidence a memory cites. -/
structure MemoryEvidenceRef where
  kind : EvidenceKindName
  description : String
  sourceId : Option String := none
  sourceDigest : Option String := none
  sourceLocator : Option MemorySourceLocator := none
  observedAt : Timestamp
  description_length : LengthIn 1 2000 description
  sourceId_length : ∀ id ∈ sourceId, LengthIn 0 500 id
  sourceDigest_hex : ∀ digest ∈ sourceDigest, IsSha256Hex digest
  sourceLocator_valid : ∀ locator ∈ sourceLocator, locator.Valid

/-- The score of a memory and how it was found. -/
structure MemoryConfidence where
  score : UnitScore
  method : ConfidenceMethodName
  evidenceCount : ℕ
  policyVersion : String
  calibratedAt : Timestamp
  policyVersion_length : LengthIn 1 100 policyVersion

/-- The statement of a memory, in three parts. -/
structure MemoryAssertion where
  subject : String
  predicate : String
  object : String
  deriving DecidableEq, Repr

/-- `is_structured`. -/
def MemoryAssertion.isStructured (assertion : MemoryAssertion) : Bool :=
  assertion.subject ≠ "" && assertion.predicate ≠ "" && assertion.object ≠ ""

/-- What the metadata says about an edge. -/
structure TopologyRelation where
  edgeId : String
  edgeType : String
  sourceId : String
  targetId : String
  direction : String
  properties : Json
  qualification : Option (List (String × String)) := none

/-- What a request says of the topology behind it. -/
structure RequestMetadata where
  topologyPacketId : String
  topologySemanticHash : String
  topologyEntityIds : List String
  repositoryModelPacketIds : List String
  candidateKind : CandidateKind
  publicationPolicy : String
  idempotencyAlgorithmVersion : String
  loweringContractVersion : String
  observedConflictIds : List String
  observedUnknownIds : List String
  sourceRevisions : List String
  sourcePaths : List String
  publicationCandidateId : String
  sourceAssertionIds : List String
  assertionPredicate : Option String
  topologyRelation : Option TopologyRelation

/-- A request to write one memory. -/
structure MemoryWriteRequest where
  memoryNamespace : String
  memoryClass : MemoryClassName
  content : String
  assertion : Option MemoryAssertion := none
  provenance : MemoryProvenance
  evidence : List MemoryEvidenceRef := []
  confidence : MemoryConfidence
  validFrom : Timestamp
  sourceObservedAt : Option Timestamp := none
  tags : List String := []
  metadata : RequestMetadata
  idempotencyKey : String
  memoryNamespace_length : LengthIn 1 300 memoryNamespace
  content_length : LengthIn 1 64000 content

/-- Which topology facts and rules produced an intent. -/
structure LoweringReceipt where
  sourceFields : List String := []
  resolvedEvidenceIds : List String := []
  truncatedEvidenceCount : ℕ := 0
  derivationEvidenceKind : Option EvidenceKindName := none
  confidenceLevel : String
  confidenceMethod : ConfidenceMethodName
  conflictStatus : String
  observedConflictIds : List String := []
  observedUnknownIds : List String := []
  owningRepositoryId : Option String := none
  sourceAssertionIds : List String := []
  assertionPredicate : Option String := none
  predicateSupport : Option String := none

end ConstellationTopology
