import ConstellationTopology.Library.Collection
import ConstellationTopology.Library.Fallible
import ConstellationTopology.Library.Table
import ConstellationTopology.Packets.CorpusAnalysis
import ConstellationTopology.Packets.SignalLocators

set_option autoImplicit false

/-! # Referential integrity of corpus packets

`packets/corpus_validator.py`: every identity a corpus packet mentions has to resolve inside the
packets it was computed over. The errors are collected domain by domain and raised together, each
once and in order; the packet is accepted exactly if it is sound (`corpusSound_iff`). -/

namespace ConstellationTopology

/-- `LINE_LOCATOR_KINDS`. -/
def lineLocatorKinds : List String := ["line"]

/-- What Python writes for a list of texts. -/
def reprTexts (repr : String → String) (values : List String) : String :=
  "[" ++ String.intercalate ", " (values.map repr) ++ "]"

/-! ## What the input packets carry -/

/-- `_artifact_identities`. -/
def artifactIdentities (models : List RepositoryModelPacket) : List String :=
  models.flatMap fun model => model.repositoryId ::
    match model.payload with
    | none => []
    | some payload => payload.artifacts.map ArtifactRecord.artifactId
        ++ payload.repositories.map RepositoryRecord.repositoryId
        ++ payload.capabilities.map CapabilityRecord.capabilityId

/-- `_artifact_only_identities`. -/
def artifactOnlyIdentities (models : List RepositoryModelPacket) : List String :=
  models.flatMap fun model =>
    match model.payload with
    | none => []
    | some payload => payload.artifacts.map ArtifactRecord.artifactId

/-- `by_id`: the last packet of an id stands. -/
def modelById (models : List RepositoryModelPacket) (packetId : String) :
    Option RepositoryModelPacket :=
  (Table.ofRows RepositoryModelPacket.packetId models).lookup packetId

/-- `sorted(left - right)`, of two sets. -/
def absentFrom (left right : List String) : List String :=
  sortedSet (left.filter fun value => value ∉ right)

theorem absentFrom_eq_nil_iff {left right : List String} :
    absentFrom left right = [] ↔ ∀ value ∈ left, value ∈ right := by
  simp [absentFrom, List.filter_eq_nil_iff]

/-- The errors about the values that are not among the known ones. -/
def unresolved (known : List String) (message : String → String) (values : List String) :
    List String :=
  (values.filter fun value => value ∉ known).map message

theorem unresolved_eq_nil_iff {known : List String} {message : String → String}
    {values : List String} :
    unresolved known message values = [] ↔ ∀ value ∈ values, value ∈ known := by
  simp [unresolved, List.filter_eq_nil_iff]

section Checks

variable (repr : String → String) (packet : CorpusAnalysisPacket)
  (models : List RepositoryModelPacket) (payload : CorpusIntelligencePayload)
  (artifacts identities : List String)

/-! ## Roots -/

/-- The errors about what a root says of the packet it binds. -/
def bindingErrors (root : CorpusRootRef) (model : RepositoryModelPacket) : List String :=
  (if root.repositoryModelPacket.semanticHash ≠ model.semanticHash then
    ["root " ++ root.rootId ++ " binds " ++ root.repositoryModelPacket.packetId
      ++ " at semantic hash " ++ root.repositoryModelPacket.semanticHash
      ++ ", but the packet carries " ++ model.semanticHash] else [])
  ++ match root.repositoryModelPacket.sourceRevision with
    | none => []
    | some revision =>
        if revision ≠ model.revision then
          ["root " ++ root.rootId ++ " binds " ++ root.repositoryModelPacket.packetId
            ++ " at revision " ++ revision ++ ", but the packet carries " ++ model.revision]
        else []

/-- The errors about one root. -/
def rootErrors (root : CorpusRootRef) : List String :=
  match modelById models root.repositoryModelPacket.packetId with
  | none => ["root " ++ root.rootId ++ " references unresolved packet "
      ++ root.repositoryModelPacket.packetId]
  | some model => bindingErrors root model

/-- The packets the roots of the corpus observe. -/
def observedPackets : List String :=
  packet.corpus.rootRefs.map fun root => root.repositoryModelPacket.packetId

/-- The packets that were loaded. -/
def loadedPackets : List String := models.map RepositoryModelPacket.packetId

/-- `_check_roots`. -/
def checkRoots : List String :=
  (absentFrom packet.inputIds (loadedPackets models)).map (fun missing =>
      "input repository-model packet did not resolve: " ++ missing)
    ++ (absentFrom (loadedPackets models) packet.inputIds).map (fun extra =>
      "repository-model packet was loaded but is not a declared input: " ++ extra)
    ++ packet.corpus.rootRefs.flatMap (rootErrors models)
    ++ (absentFrom packet.inputIds (observedPackets packet)).map fun unobserved =>
      "declared input packet " ++ unobserved ++ " is not observed by any corpus root"

/-! ## Work signals -/

/-- The errors about one work signal. -/
def signalErrors (signal : DocumentWorkSignal) : List String :=
  unresolved artifacts (fun artifactId => "document work signal " ++ signal.signalId
      ++ " was read from artifact " ++ artifactId ++ ", which no input packet carries")
      [signal.artifactId]
    ++ unresolved identities (fun subjectId => "document work signal " ++ signal.signalId
      ++ " is about subject " ++ subjectId ++ ", which no input packet observed")
      [signal.subjectId]
    ++ if signal.locator.kind ∈ lineLocatorKinds ∧ signal.documentFormat ∉ lineBearingFormats then
        ["document work signal " ++ signal.signalId ++ " was decoded from "
          ++ repr signal.documentFormat ++ ", which has no lines, but cites a line locator; "
          ++ "a structured coordinate is required"] else []

/-- `_check_work_signals`. -/
def checkWorkSignals : List String :=
  payload.documentWorkSignals.flatMap (signalErrors repr artifacts identities)

/-! ## Duplicates and pairs -/

/-- `hashes_by_cluster`, for one cluster. -/
def clusterHashes (clusterId : String) : List String :=
  sortedSet ((groupOf ExactDuplicateRelation.duplicateClusterId clusterId
    payload.exactDuplicateRelations).map ExactDuplicateRelation.contentHash)

/-- `_check_duplicates`. -/
def checkDuplicates : List String :=
  payload.exactDuplicateRelations.flatMap (fun relation =>
      unresolved artifacts (fun endpoint => "exact duplicate relation " ++ relation.relationId
        ++ " names artifact " ++ endpoint ++ ", which no input packet carries")
        [relation.artifactAId, relation.artifactBId])
    ++ (sortedSet (payload.exactDuplicateRelations.map
        ExactDuplicateRelation.duplicateClusterId)).flatMap fun clusterId =>
      if 1 < (clusterHashes payload clusterId).length then
        ["duplicate cluster " ++ clusterId ++ " carries more than one content hash: "
          ++ reprTexts repr (clusterHashes payload clusterId)
          ++ "; byte equality admits exactly one"] else []

/-- `_check_pairs`. -/
def checkPairs : List String :=
  payload.semanticPairRelations.flatMap fun relation =>
    unresolved artifacts (fun endpoint => "semantic pair relation " ++ relation.relationId
      ++ " names artifact " ++ endpoint ++ ", which no input packet carries")
      [relation.sourceArtifactId, relation.targetArtifactId]

/-! ## Candidates -/

/-- The candidates of the three domains. -/
def payloadCandidates : List CandidateCluster :=
  payload.topicCandidates ++ payload.projectCandidates ++ payload.consolidationCandidates

/-- `relation_ids`: what a candidate may cite. -/
def citableRelations : List String :=
  payload.semanticPairRelations.map SemanticPairRelation.relationId
    ++ payload.exactDuplicateRelations.map ExactDuplicateRelation.relationId
    ++ payload.exactDuplicateRelations.map ExactDuplicateRelation.duplicateClusterId

/-- `_check_candidate`. -/
def checkCandidate (relationIds : List String) (candidate : CandidateCluster) : List String :=
  unresolved artifacts (fun member => "candidate " ++ candidate.candidateId ++ " names member "
      ++ member ++ ", which no input packet carries") candidate.memberArtifactIds
    ++ unresolved relationIds (fun supporting => "candidate " ++ candidate.candidateId
      ++ " cites supporting relation " ++ supporting ++ ", which this packet does not carry")
      candidate.supportingRelationIds

/-- `_check_candidates`. -/
def checkCandidates : List String :=
  (payloadCandidates payload).flatMap (checkCandidate artifacts (citableRelations payload))

/-- The identities the candidates declare. -/
def candidateIds : List String := (payloadCandidates payload).map CandidateCluster.candidateId

/-! ## Readiness and reasoning -/

/-- `_check_readiness`. -/
def checkReadiness (readiness : List ReadinessEvidence) : List String :=
  readiness.flatMap fun evidence =>
    unresolved (candidateIds payload ++ identities) (fun subjectId => "readiness evidence "
      ++ evidence.readinessId ++ " measures subject " ++ subjectId
      ++ ", which is neither a candidate in this packet nor an entity any input packet observed")
      [evidence.subjectId]

/-- The errors about one reasoning request. -/
def requestErrors (packs : List String) (request : ReasoningRequest) : List String :=
  unresolved (candidateIds payload) (fun candidateId => "reasoning candidate "
      ++ request.reasoningCandidateId ++ " names candidate " ++ candidateId
      ++ ", which this packet does not carry") [request.candidateId]
    ++ unresolved artifacts (fun member => "reasoning candidate " ++ request.reasoningCandidateId
      ++ " names member " ++ member ++ ", which no input packet carries")
      request.memberArtifactIds
    ++ unresolved packs (fun pack => "reasoning candidate " ++ request.reasoningCandidateId
      ++ " references evidence pack " ++ pack ++ ", which this packet does not declare")
      request.evidencePackRef.toList

/-- `_check_reasoning`. -/
def checkReasoning (analysis : AnalysisDomains) : List String :=
  analysis.reasoningCandidates.flatMap
    (requestErrors payload artifacts analysis.reasoningEvidencePackRefs)

/-! ## Domains that did not run -/

/-- `bool(getattr(payload, domain))`. -/
def carriesRecords (analysis : AnalysisDomains) : CorpusPayloadField → Bool
  | .documentWorkSignals => !payload.documentWorkSignals.isEmpty
  | .exactDuplicateRelations => !payload.exactDuplicateRelations.isEmpty
  | .semanticPairRelations => !payload.semanticPairRelations.isEmpty
  | .topicCandidates => !payload.topicCandidates.isEmpty
  | .projectCandidates => !payload.projectCandidates.isEmpty
  | .consolidationCandidates => !payload.consolidationCandidates.isEmpty
  | .readinessEvidence => !analysis.readinessEvidence.isEmpty
  | .reasoningCandidates => !analysis.reasoningCandidates.isEmpty
  | .reasoningEvidencePackRefs => !analysis.reasoningEvidencePackRefs.isEmpty

/-- `_check_domains_not_run`. -/
def checkDomainsNotRun : List String :=
  ((packet.domainsNotRun.getD []).filter fun statement =>
      carriesRecords payload packet.analysis statement.domain).map fun statement =>
    "domains_not_run declares " ++ statement.domain.value ++ " not run, but that payload domain "
      ++ "carries records"

/-! ## The validator -/

/-- The errors of a payload, in the order they are found. -/
def corpusErrors : List String :=
  checkRoots packet models
    ++ checkWorkSignals repr payload (artifactOnlyIdentities models) (artifactIdentities models)
    ++ checkDuplicates repr payload (artifactOnlyIdentities models)
    ++ checkPairs payload (artifactOnlyIdentities models)
    ++ checkCandidates payload (artifactOnlyIdentities models)
    ++ checkReadiness payload (artifactIdentities models) packet.analysis.readinessEvidence
    ++ checkReasoning payload (artifactOnlyIdentities models) packet.analysis
    ++ checkDomainsNotRun packet payload

/-- `validate_corpus_intelligence_packet`; the errors of a packet that is refused. -/
def validateCorpusIntelligencePacket : Except (List String) Unit := do
  let payload ← expect packet.payload
    ["corpus intelligence packet carries no materialized payload"]
  let errors := corpusErrors repr packet models payload
  demand (errors = []) (sortedSet errors)

end Checks

end ConstellationTopology
