import ConstellationTopology.Library.JsonText
import ConstellationTopology.Publication.Lowering

set_option autoImplicit false

/-! # What one effect key stands for

Two candidates with one key may come from different records, packets and states. The key fixes what
the write says and how strongly (`assemble_key_eq_iff`); other inputs reach the request beside it: the
source trust, the id and the properties of an edge, what the evidence is said to be, the findings about
the subject. So the requests agree exactly when these inputs do (`same_effect_iff`). -/

namespace ConstellationTopology

/-! ## The effect of a request -/

/-- What a reference says of its evidence, apart from when and under which id it was observed. -/
def MemoryEvidenceRef.statement (ref : MemoryEvidenceRef) :
    Option EvidenceKindName × String × Option String × Option MemorySourceLocator :=
  (some ref.kind, ref.description, ref.sourceDigest, ref.sourceLocator)

/-- Two provenances agree, apart from the packet and the time. -/
structure ProvenanceAgrees (a b : MemoryProvenance) : Prop where
  source : a.source = b.source
  sourceAgentId : a.sourceAgentId = b.sourceAgentId
  repository : a.repository = b.repository
  tool : a.tool = b.tool
  extractionMethod : a.extractionMethod = b.extractionMethod
  sourceTrust : a.sourceTrust = b.sourceTrust

/-- Two metadata agree, apart from the packets and the revisions. -/
structure MetadataAgrees (a b : RequestMetadata) : Prop where
  topologyEntityIds : a.topologyEntityIds = b.topologyEntityIds
  candidateKind : a.candidateKind = b.candidateKind
  publicationPolicy : a.publicationPolicy = b.publicationPolicy
  idempotencyAlgorithmVersion : a.idempotencyAlgorithmVersion = b.idempotencyAlgorithmVersion
  loweringContractVersion : a.loweringContractVersion = b.loweringContractVersion
  observedConflictIds : a.observedConflictIds = b.observedConflictIds
  observedUnknownIds : a.observedUnknownIds = b.observedUnknownIds
  sourcePaths : a.sourcePaths = b.sourcePaths
  publicationCandidateId : a.publicationCandidateId = b.publicationCandidateId
  sourceAssertionIds : a.sourceAssertionIds = b.sourceAssertionIds
  assertionPredicate : a.assertionPredicate = b.assertionPredicate
  topologyRelation : a.topologyRelation = b.topologyRelation

/-- Two requests ask for one durable write: every field is the same but the timestamps
    (`transformed_at`, `observed_at`, `calibrated_at`, `valid_from`, `source_observed_at`) and the
    provenance of the snapshot (the id and the hash of the packet and those of its inputs, the source
    revisions, the ids of the evidence and with them its order). -/
structure EffectAgrees (a b : MemoryWriteRequest) : Prop where
  memoryNamespace : a.memoryNamespace = b.memoryNamespace
  memoryClass : a.memoryClass = b.memoryClass
  content : a.content = b.content
  assertion : a.assertion = b.assertion
  provenance : ProvenanceAgrees a.provenance b.provenance
  evidence : (a.evidence.map MemoryEvidenceRef.statement).Perm
    (b.evidence.map MemoryEvidenceRef.statement)
  confidence : a.confidence.semantics = b.confidence.semantics
  tags : a.tags = b.tags
  metadata : MetadataAgrees a.metadata b.metadata
  idempotencyKey : a.idempotencyKey = b.idempotencyKey

/-! ## The inputs outside the key -/

/-- The first entity of a record. -/
def PublishedRecord.subject? (r : PublishedRecord) : Option String := r.fact.entityIds.head?

/-- What of an edge the key does not cover: its id, its properties and what admitted it. -/
def PublishedRecord.unkeyedRelation :
    PublishedRecord → Option (String × Json × Option (List (String × String)))
  | relationship record qualification =>
      some (record.edgeId, (Json.obj record.properties).canonicalData, qualification)
  | _ => none

/-- What a record of evidence is said to be. -/
def EvidenceRecord.statement (policy : PublicationPolicy) (record : EvidenceRecord) :
    Option EvidenceKindName × String × Option String × Option MemorySourceLocator :=
  (policy.evidenceKindByClass.lookup record.evidenceClass.value,
    clip 2000 (describeEvidence record), bareDigest record.sourceRef.contentHash,
    record.sourceRef.locator.map mirrorLocator)

/-- The derivation is cited: the method needs evidence that none of the kept records is. -/
def CitesDerivation (policy : PublicationPolicy) (index : TopologyIndex) (evidenceRefs : List String)
    (method : ConfidenceMethodName) : Prop :=
  resolvedEvidence index evidenceRefs ≠ [] ∧ method ∈ evidenceRequiringMethods ∧
    ∀ record ∈ keptEvidence policy index evidenceRefs, ∀ kind,
      policy.evidenceKindByClass.lookup record.evidenceClass.value = some kind →
        kind ∉ derivationEvidenceKinds

/-- The inputs of a request that its key does not cover are the same for two records: the producer,
    the trust in the authority, the owner of the subject and the findings about it, the edge, the
    assertions behind a claim, the first paths of the referenced evidence, and what the kept evidence
    and the derivation from all of it are said to be. -/
structure UnkeyedAgrees (policy : PublicationPolicy) (packet packet' : TopologyPacket)
    (state state' : TopologyState) (r s : PublishedRecord) : Prop where
  producer : clip 200 packet.producer.name = clip 200 packet'.producer.name
  agent : clip 200 (packet.producer.name ++ "/" ++ packet.producer.version) =
    clip 200 (packet'.producer.name ++ "/" ++ packet'.producer.version)
  trust : sourceTrust policy r.fact.assessment = sourceTrust policy s.fact.assessment
  repository : truthy (r.subject?.bind (TopologyIndex.build state).owner) =
    truthy (s.subject?.bind (TopologyIndex.build state').owner)
  conflicts : r.subject?.map (fun id =>
      ((TopologyIndex.build state).conflictsBySubject id).map ConflictRecord.conflictId) =
    s.subject?.map fun id =>
      ((TopologyIndex.build state').conflictsBySubject id).map ConflictRecord.conflictId
  unknowns : r.subject?.map (fun id =>
      ((TopologyIndex.build state).unknownsBySubject id).map UnknownRecord.unknownId) =
    s.subject?.map fun id =>
      ((TopologyIndex.build state').unknownsBySubject id).map UnknownRecord.unknownId
  relation : r.unkeyedRelation = s.unkeyedRelation
  assertions : r.fact.provenance.sourceAssertionIds = s.fact.provenance.sourceAssertionIds
  predicate : r.fact.provenance.predicate = s.fact.provenance.predicate
  paths : (sourceLocators policy (TopologyIndex.build state) r.fact.evidenceRefs).2 =
    (sourceLocators policy (TopologyIndex.build state') s.fact.evidenceRefs).2
  evidence : ((keptEvidence policy (TopologyIndex.build state) r.fact.evidenceRefs).map
      (EvidenceRecord.statement policy)).Perm
    ((keptEvidence policy (TopologyIndex.build state') s.fact.evidenceRefs).map
      (EvidenceRecord.statement policy))
  derivation : ∀ subjectId ∈ r.subject?, ∀ method,
    confidenceMethod policy r.fact.assessment = .ok method →
      CitesDerivation policy (TopologyIndex.build state) r.fact.evidenceRefs method →
        clip 2000 (describeDerivation subjectId method
            (resolvedEvidence (TopologyIndex.build state) r.fact.evidenceRefs).length) =
          clip 2000 (describeDerivation subjectId method
            (resolvedEvidence (TopologyIndex.build state') s.fact.evidenceRefs).length)

section Lowered

variable {c : Codec} {policy : PublicationPolicy} {packet packet' : TopologyPacket}
  {index index' : TopologyIndex} {publishedAt publishedAt' : Timestamp}

/-! ## The evidence of a request -/

/-- The references state what the kept records are and, where it is cited, the derivation. -/
theorem evidence_statements {fact : TopologyFact} {parts : LoweredParts}
    (h : PartsOf policy packet index publishedAt fact parts) :
    parts.evidence.refs.map MemoryEvidenceRef.statement =
      (keptEvidence policy index fact.evidenceRefs).map (EvidenceRecord.statement policy) ++
        parts.evidence.derivationKind.toList.map fun kind =>
          (some kind, clip 2000 (describeDerivation parts.subjectId parts.method
            (resolvedEvidence index fact.evidenceRefs).length), none, none) := by
  obtain ⟨lowered, hlowered, -, -, hrefs⟩ := lowerEvidence_eq_ok h.evidence
  have hself : (keptEvidence policy index fact.evidenceRefs).mapM
      (fun e => (Except.ok e : Except LoweringFailure EvidenceRecord)) =
        .ok (keptEvidence policy index fact.evidenceRefs) :=
    mapM_eq_ok.2 (List.forall₂_same.2 fun _ _ => rfl)
  have hview : lowered.map MemoryEvidenceRef.statement =
      (keptEvidence policy index fact.evidenceRefs).map (EvidenceRecord.statement policy) := by
    refine mapM_view_eq hlowered hself fun record _ ref record' href heq => ?_
    obtain ⟨hkind, hdigest, hdescription, hlocator⟩ := lowerEvidenceRef_eq_ok href
    rw [← Except.ok.inj heq, EvidenceRecord.statement, MemoryEvidenceRef.statement,
      policyValue_eq_ok.1 hkind, hdigest, hdescription, hlocator]
  rw [hrefs, List.map_append, hview, List.map_map]
  rfl

/-- The derivation is cited where a kind was chosen for it. -/
theorem derivationKind_isSome_iff {fact : TopologyFact} {parts : LoweredParts}
    (h : PartsOf policy packet index publishedAt fact parts) :
    parts.evidence.derivationKind.isSome ↔
      CitesDerivation policy index fact.evidenceRefs parts.method := by
  obtain ⟨lowered, hlowered, -, hderivation, -⟩ := lowerEvidence_eq_ok h.evidence
  have hkinds : lowered.any (·.kind ∈ derivationEvidenceKinds) ↔
      ∃ record ∈ keptEvidence policy index fact.evidenceRefs, ∃ kind,
        policy.evidenceKindByClass.lookup record.evidenceClass.value = some kind ∧
          kind ∈ derivationEvidenceKinds := by
    rw [List.any_eq_true]
    constructor
    · rintro ⟨ref, href, hmem⟩
      obtain ⟨record, hrecord, heq⟩ := exists_of_mem_forall₂ (mapM_eq_ok.1 hlowered) href
      exact ⟨record, hrecord, ref.kind, policyValue_eq_ok.1 (lowerEvidenceRef_eq_ok heq).1,
        of_decide_eq_true hmem⟩
    · rintro ⟨record, hrecord, kind, hlookup, hmem⟩
      obtain ⟨ref, href, heq⟩ := exists_related_of_mem (mapM_eq_ok.1 hlowered) hrecord
      have hkind := policyValue_eq_ok.1 (lowerEvidenceRef_eq_ok heq).1
      rw [hlookup] at hkind
      exact ⟨ref, href, decide_eq_true (Option.some.inj hkind ▸ hmem)⟩
  rw [hderivation, derivationKindOf, CitesDerivation]
  split
  · next hcites =>
      simp only [Option.isSome_some, true_iff]
      exact ⟨hcites.1, hcites.2.1, fun record hrecord kind hlookup hmem =>
        hcites.2.2 (hkinds.2 ⟨record, hrecord, kind, hlookup, hmem⟩)⟩
  · next hcites =>
      simp only [Option.isSome_none, Bool.false_eq_true, false_iff]
      rintro ⟨hresolved, hmethod, hnone⟩
      refine hcites ⟨hresolved, hmethod, fun hany => ?_⟩
      obtain ⟨record, hrecord, kind, hlookup, hmem⟩ := hkinds.1 hany
      exact hnone record hrecord kind hlookup hmem

/-- The kind of a derivation is one of a derivation. -/
theorem mem_derivationEvidenceKinds {fact : TopologyFact} {parts : LoweredParts}
    {kind : EvidenceKindName} (h : PartsOf policy packet index publishedAt fact parts)
    (hkind : parts.evidence.derivationKind = some kind) : kind ∈ derivationEvidenceKinds := by
  obtain ⟨lowered, -, -, hderivation, -⟩ := lowerEvidence_eq_ok h.evidence
  rw [hkind, derivationKindOf] at hderivation
  split at hderivation
  · rw [Option.some.inj hderivation]
    split <;> decide
  · cases hderivation

/-- No kept record is stated as a derivation. -/
theorem derivation_not_mem_statements {evidenceRefs : List String} {method : ConfidenceMethodName}
    {kind : EvidenceKindName} {description : String}
    (h : CitesDerivation policy index evidenceRefs method) (hkind : kind ∈ derivationEvidenceKinds) :
    (some kind, description, none, none) ∉
      (keptEvidence policy index evidenceRefs).map (EvidenceRecord.statement policy) := by
  intro hmem
  obtain ⟨record, hrecord, heq⟩ := List.mem_map.1 hmem
  exact h.2.2 record hrecord kind (congrArg Prod.fst heq) hkind

/-- Two references lists state the same when the kept records and the derivations do: a derivation is
    told from the kept records by its kind. -/
theorem evidence_perm_iff {f g : TopologyFact} {p q : LoweredParts}
    (hp : PartsOf policy packet index publishedAt f p)
    (hq : PartsOf policy packet' index' publishedAt' g q)
    (hsubject : p.subjectId = q.subjectId) (hmethod : p.method = q.method)
    (hderivation : p.evidence.derivationKind = q.evidence.derivationKind) :
    (p.evidence.refs.map MemoryEvidenceRef.statement).Perm
        (q.evidence.refs.map MemoryEvidenceRef.statement) ↔
      ((keptEvidence policy index f.evidenceRefs).map (EvidenceRecord.statement policy)).Perm
          ((keptEvidence policy index' g.evidenceRefs).map (EvidenceRecord.statement policy)) ∧
        (CitesDerivation policy index f.evidenceRefs p.method →
          clip 2000 (describeDerivation p.subjectId p.method
              (resolvedEvidence index f.evidenceRefs).length) =
            clip 2000 (describeDerivation p.subjectId p.method
              (resolvedEvidence index' g.evidenceRefs).length)) := by
  rw [evidence_statements hp, evidence_statements hq, ← derivationKind_isSome_iff hp,
    ← hderivation, ← hsubject, ← hmethod]
  cases hkind : p.evidence.derivationKind with
  | none => simp
  | some kind =>
      have hmem := mem_derivationEvidenceKinds hp hkind
      have hcites := (derivationKind_isSome_iff hq).1 (by rw [← hderivation, hkind]; rfl)
      simp only [Option.toList_some, List.map_cons, List.map_nil, Option.isSome_some,
        forall_const]
      constructor
      · intro hperm
        have hfirst := hperm.mem_iff.1 (List.mem_append_right _ List.mem_cons_self)
        rcases List.mem_append.1 hfirst with hkept | hlast
        · exact absurd hkept (derivation_not_mem_statements hcites hmem)
        · have heq := List.mem_singleton.1 hlast
          rw [heq] at hperm
          exact ⟨(List.perm_append_right_iff _).1 hperm, congrArg (fun x => x.2.1) heq⟩
      · rintro ⟨hperm, heq⟩
        rw [heq]
        exact hperm.append_right _

/-- The key of an assembled candidate, from its parts. -/
theorem assemble_key_eq_iff (hc : c.Faithful) {f g : TopologyFact} {p q : LoweredParts}
    (hf : f.content ≠ "") (hg : g.content ≠ "") :
    (assemble c policy packet index publishedAt f p hf).idempotencyKey =
        (assemble c policy packet' index' publishedAt' g q hg).idempotencyKey ↔
      factIdentity policy index f p.subjectId = factIdentity policy index' g q.subjectId ∧
        p.localEvidence.Perm q.localEvidence ∧ p.confidence.semantics = q.confidence.semantics ∧
          p.evidence.derivationKind = q.evidence.derivationKind := by
  simp only [assemble]
  rw [idempotencyKey_eq_iff hc]
  simp

theorem edgeType_value_length (t : EdgeType) : t.value.toList.length ≤ 200 := by
  cases t <;> decide

theorem edgeType_of_assertion {e e' : EdgeRecord} {q q' : Option (List (String × String))}
    (h : (relationshipFact e q).assertion = (relationshipFact e' q').assertion) :
    e.edgeType.value = e'.edgeType.value := by
  have hpredicate := congrArg MemoryAssertion.predicate (Option.some.inj h)
  simpa only [relationshipAssertion, clip_of_length_le (edgeType_value_length _)] using hpredicate

/-- The content of a relationship names the direction after the endpoints and the type, which the
    rest of the identity fixes. -/
theorem direction_of_content {e e' : EdgeRecord} {q q' : Option (List (String × String))}
    (hids : (relationshipFact e q).entityIds = (relationshipFact e' q').entityIds)
    (hassertion : (relationshipFact e q).assertion = (relationshipFact e' q').assertion)
    (hcontent : (relationshipFact e q).content = (relationshipFact e' q').content) :
    e.direction.value = e'.direction.value := by
  simp only [relationshipFact, List.cons.injEq, and_true] at hids
  obtain ⟨hsource, htarget⟩ := hids
  simp only [relationshipFact, hsource, htarget, edgeType_of_assertion hassertion] at hcontent
  exact append_left_cancel (append_right_cancel hcontent)

/-- Of an edge the key covers the type, the endpoints and the direction. -/
theorem relation_eq_iff {r s : PublishedRecord} {x y : String}
    (h : factIdentity policy index r.fact x = factIdentity policy index' s.fact y) :
    r.fact.relation = s.fact.relation ↔ r.unkeyedRelation = s.unkeyedRelation := by
  have hkind := congrArg CandidateIdentity.candidateKind h
  have hids := congrArg CandidateIdentity.sourceTopologyEntityIds h
  have hassertion := congrArg CandidateIdentity.assertion h
  have hcontent := congrArg CandidateIdentity.content h
  simp only [factIdentity] at hkind hids hassertion hcontent
  cases r with
  | relationship e q =>
      cases s with
      | relationship e' q' =>
          have hdirection := direction_of_content hids hassertion hcontent
          have htype := edgeType_of_assertion hassertion
          simp only [PublishedRecord.fact, relationshipFact, List.cons.injEq, and_true] at hids
          simp [PublishedRecord.fact, relationshipFact, relationMetadata,
            PublishedRecord.unkeyedRelation, hids.1, hids.2, hdirection, htype]
      | repository _ | capability _ | claim _ =>
          simp [PublishedRecord.fact, relationshipFact, repositoryFact, capabilityFact,
            claimFact] at hkind
  | repository _ | capability _ | claim _ =>
      cases s with
      | relationship e' q' =>
          simp [PublishedRecord.fact, relationshipFact, repositoryFact, capabilityFact,
            claimFact] at hkind
      | repository _ | capability _ | claim _ =>
          simp [PublishedRecord.fact, repositoryFact, capabilityFact, claimFact,
            PublishedRecord.unkeyedRelation]

/-- The extraction method is that of the kind of candidate. -/
theorem extractionMethod_of_kind {r s : PublishedRecord}
    (h : r.fact.candidateKind = s.fact.candidateKind) :
    r.fact.extractionMethod = s.fact.extractionMethod := by
  cases r <;> cases s <;> first | rfl | cases h

/-- **One key, one effect.** Two candidates with one key ask for one durable write exactly when the
    inputs outside the key are the same. -/
theorem same_effect_iff (hc : c.Faithful) {state state' : TopologyState} {r s : PublishedRecord}
    {x y : LoweredCandidate}
    (hx : r.lower c policy packet (TopologyIndex.build state) publishedAt = .ok x)
    (hy : s.lower c policy packet' (TopologyIndex.build state') publishedAt' = .ok y)
    (hkey : x.idempotencyKey = y.idempotencyKey) :
    EffectAgrees x.request y.request ↔
      UnkeyedAgrees policy packet packet' state state' r s := by
  obtain ⟨p, hp, hpcontent, rfl⟩ := build_eq_ok.1 (build_of_lower hx)
  obtain ⟨q, hq, hqcontent, rfl⟩ := build_eq_ok.1 (build_of_lower hy)
  have hp := partsOf_of_lowerParts hp
  have hq := partsOf_of_lowerParts hq
  obtain ⟨hidentity, -, hconfidence, hderivation⟩ := (assemble_key_eq_iff hc _ _).1 hkey
  have hprovenance := makeProvenance_eq_ok hp.provenance
  have hprovenance' := makeProvenance_eq_ok hq.provenance
  have hkind := congrArg CandidateIdentity.candidateKind hidentity
  have hids := congrArg CandidateIdentity.sourceTopologyEntityIds hidentity
  have hcontent := congrArg CandidateIdentity.content hidentity
  simp only [factIdentity] at hkind hids hcontent
  have hsubject : p.subjectId = q.subjectId :=
    Option.some.inj (hp.subject.symm.trans ((congrArg List.head? hids).trans hq.subject))
  have hmethod : p.method = q.method := by
    have := congrArg ConfidenceSemantics.method hconfidence
    simpa only [MemoryConfidence.semantics, (makeConfidence_eq_ok hp.confidence).2.1,
      (makeConfidence_eq_ok hq.confidence).2.1] using this
  have hrelation := relation_eq_iff hidentity
  have hevidence := evidence_perm_iff hp hq hsubject hmethod hderivation
  have hfirst : r.subject? = some p.subjectId := hp.subject
  have hsecond : s.subject? = some q.subjectId := hq.subject
  constructor
  · intro h
    exact {
      producer := by rw [← hprovenance.source, ← hprovenance'.source]; exact h.provenance.source
      agent := Option.some.inj (by
        rw [← hprovenance.agent, ← hprovenance'.agent]; exact h.provenance.sourceAgentId)
      trust := by
        rw [hprovenance.trust, hprovenance'.trust]
        exact congrArg Except.ok h.provenance.sourceTrust
      repository := by
        rw [hfirst, hsecond]
        exact hprovenance.repository.symm.trans (h.provenance.repository.trans
          hprovenance'.repository)
      conflicts := by
        rw [hfirst, hsecond]
        exact congrArg some h.metadata.observedConflictIds
      unknowns := by
        rw [hfirst, hsecond]
        exact congrArg some h.metadata.observedUnknownIds
      relation := hrelation.1 h.metadata.topologyRelation
      assertions := h.metadata.sourceAssertionIds
      predicate := h.metadata.assertionPredicate
      paths := h.metadata.sourcePaths
      evidence := (hevidence.1 h.evidence).1
      derivation := by
        intro subjectId hid method hok
        rw [hfirst, Option.mem_some_iff] at hid
        rw [hp.method] at hok
        rw [← hid, ← Except.ok.inj hok]
        exact (hevidence.1 h.evidence).2 }
  · intro h
    have howner := h.repository
    have hconflicts := h.conflicts
    have hunknowns := h.unknowns
    rw [hfirst, hsecond] at howner hconflicts hunknowns
    exact {
      memoryNamespace := congrArg CandidateIdentity.memoryNamespace hidentity
      memoryClass := congrArg CandidateIdentity.memoryClass hidentity
      content := congrArg (clip 64000) hcontent
      assertion := congrArg CandidateIdentity.assertion hidentity
      provenance := {
        source := hprovenance.source.trans (h.producer.trans hprovenance'.source.symm)
        sourceAgentId := hprovenance.agent.trans
          ((congrArg some h.agent).trans hprovenance'.agent.symm)
        repository := hprovenance.repository.trans (howner.trans hprovenance'.repository.symm)
        tool := hprovenance.tool.trans hprovenance'.tool.symm
        extractionMethod := hprovenance.extractionMethod.trans
          ((extractionMethod_of_kind hkind).trans hprovenance'.extractionMethod.symm)
        sourceTrust := Except.ok.inj
          (hprovenance.trust.symm.trans (h.trust.trans hprovenance'.trust)) }
      evidence := hevidence.2 ⟨h.evidence, h.derivation p.subjectId hp.subject p.method hp.method⟩
      confidence := hconfidence
      tags := by simp only [assemble, hkind]
      metadata := {
        topologyEntityIds := hids
        candidateKind := hkind
        publicationPolicy := rfl
        idempotencyAlgorithmVersion := rfl
        loweringContractVersion := rfl
        observedConflictIds := Option.some.inj hconflicts
        observedUnknownIds := Option.some.inj hunknowns
        sourcePaths := h.paths
        publicationCandidateId := congrArg (candidateId c) hidentity
        sourceAssertionIds := h.assertions
        assertionPredicate := h.predicate
        topologyRelation := hrelation.2 h.relation }
      idempotencyKey := hkey }

/-- Parallel edges that differ in their properties only are lowered under one key. -/
theorem parallel_edges_share_key {edge : EdgeRecord} {q : Option (List (String × String))}
    {x : LoweredCandidate} (edgeId : String) (properties : List (String × Json))
    (hx : lowerRelationship c policy packet index publishedAt edge q = .ok x) :
    ∃ y, lowerRelationship c policy packet index publishedAt
        { edge with edgeId := edgeId, properties := properties } q = .ok y ∧
      x.idempotencyKey = y.idempotencyKey ∧
        x.request.metadata.topologyRelation = some (relationMetadata edge q) ∧
          y.request.metadata.topologyRelation =
            some (relationMetadata { edge with edgeId := edgeId, properties := properties } q) := by
  unfold lowerRelationship at hx
  split at hx
  · next hstructured =>
      obtain ⟨parts, hparts, hcontent, rfl⟩ := build_eq_ok.1 hx
      refine ⟨assemble c policy packet index publishedAt (relationshipFact
        { edge with edgeId := edgeId, properties := properties } q) parts hcontent, ?_, rfl, rfl,
        rfl⟩
      exact (if_pos hstructured).trans (build_eq_ok.2 ⟨parts, hparts, hcontent, rfl⟩)
  · cases hx

end Lowered

/-! ## Two declarations of one dependency -/

/-- The policy of the plans. -/
def publicationPolicy : PublicationPolicy where
  id := "foundational-topology-publication"
  version := "2.0.0"
  namespaceRoot := "l9.constellation"
  eligibleEntityKinds := ["repository", "capability", "semantic_claim"]
  eligibleEdgeTypes := ["DEPENDS_ON"]
  entityMemoryClass := .observation
  relationshipMemoryClass := .semantic
  confidenceScoreByLevel := [("low", 3 / 10), ("medium", 3 / 5), ("high", 9 / 10)]
  confidenceConflictCeiling := [("none", 1), ("possible", 1 / 2), ("confirmed", 3 / 10)]
  confidenceMethodByDerivation := [("declared", .extracted), ("deterministic", .aggregated),
    ("cross-record", .aggregated), ("heuristic", .inferred), ("model-assisted", .inferred),
    ("unknown", .inferred)]
  evidenceKindByClass := [("observed", .observation), ("declared", .explicit),
    ("derived", .inference), ("assisted", .inference), ("projected", .inference),
    ("validated", .test), ("committed", .explicit)]
  id_nonempty := by decide
  version_nonempty := by decide
  namespaceRoot_length := by decide
  maximumEvidenceRefs_pos := by decide
  selection_explicit := by simp
  selection_nodup := by simp
  selection_supported := by simp
  eligible_not_declarationOnly := by simp
  declarationOnly_optedIn := by simp

/-- The packet of the topology. -/
def topologyPacket : TopologyPacket where
  packetId := "packet:topology"
  producer := ⟨"l9-constellation-topology", "2.0.0"⟩
  profile := ⟨"foundational", "1.0.0", "sha256:profile"⟩
  inputs := { repositoryModelPackets := [] }
  schemaHash := "sha256:schema"
  payloadRefs := []
  payloadHashes := []
  validation := { status := .passed }
  semanticHash := "sha256:topology"
  artifactHash := "sha256:artifact"
  createdAt := ⟨"1970-01-01T00:00:00Z"⟩

/-- A dependency projected from one claim. -/
def planDependsOnDesign : EdgeRecord where
  edgeId := "edge:1"
  sourceId := "artifact:plan"
  targetId := "artifact:design"
  edgeType := .dependsOn
  properties := [("projected_from_claim_id", .str "claim:1")]
  confidence := .deterministic

/-- The same dependency, projected from another claim of the same document. -/
def planDependsOnDesignAgain : EdgeRecord :=
  { planDependsOnDesign with
    edgeId := "edge:2"
    properties := [("projected_from_claim_id", .str "claim:2")] }

def parallelState : TopologyState where
  edgeRecords := [planDependsOnDesign, planDependsOnDesignAgain]

/-- The two edges, lowered in one plan: one key, two relations. -/
theorem parallel_candidates : ∃ x y,
    PublishedRecord.lower textCodec publicationPolicy topologyPacket
        (TopologyIndex.build parallelState) ⟨"2026-01-01T00:00:00Z"⟩
        (.relationship planDependsOnDesign none) = .ok x ∧
      PublishedRecord.lower textCodec publicationPolicy topologyPacket
        (TopologyIndex.build parallelState) ⟨"2026-01-01T00:00:00Z"⟩
        (.relationship planDependsOnDesignAgain none) = .ok y ∧
      x.idempotencyKey = y.idempotencyKey ∧
      x.request.metadata.topologyRelation = some (relationMetadata planDependsOnDesign none) ∧
      y.request.metadata.topologyRelation =
        some (relationMetadata planDependsOnDesignAgain none) := by
  have hlowers : (lowerRelationship textCodec publicationPolicy topologyPacket
      (TopologyIndex.build parallelState) ⟨"2026-01-01T00:00:00Z"⟩ planDependsOnDesign
      none).isOk = true := by
    decide +kernel
  cases hx : lowerRelationship textCodec publicationPolicy topologyPacket
      (TopologyIndex.build parallelState) ⟨"2026-01-01T00:00:00Z"⟩ planDependsOnDesign none with
  | error failure =>
      rw [hx] at hlowers
      cases hlowers
  | ok x =>
      obtain ⟨y, hy, hkey, hrelation, hrelation'⟩ := parallel_edges_share_key "edge:2"
        [("projected_from_claim_id", .str "claim:2")] hx
      exact ⟨x, y, hx, hy, hkey, hrelation, hrelation'⟩

theorem same_effect_parallel_edges : ∃ x y : LoweredCandidate, x.idempotencyKey = y.idempotencyKey ∧
    (EffectAgrees x.request y.request ↔ UnkeyedAgrees publicationPolicy topologyPacket topologyPacket
      parallelState parallelState (.relationship planDependsOnDesign none)
      (.relationship planDependsOnDesignAgain none)) := by
  obtain ⟨x, y, hx, hy, hkey, -, -⟩ := parallel_candidates
  exact ⟨x, y, hkey, same_effect_iff textCodec_faithful hx hy hkey⟩

/-- The key does not determine the effect. -/
theorem effect_not_determined :
    ¬ ∀ (c : Codec), c.Faithful → ∀ (policy : PublicationPolicy) (packet packet' : TopologyPacket)
      (state state' : TopologyState) (publishedAt publishedAt' : Timestamp)
      (r s : PublishedRecord) (x y : LoweredCandidate),
      r.lower c policy packet (TopologyIndex.build state) publishedAt = .ok x →
      s.lower c policy packet' (TopologyIndex.build state') publishedAt' = .ok y →
      x.idempotencyKey = y.idempotencyKey → EffectAgrees x.request y.request := by
  intro h
  obtain ⟨x, y, hx, hy, hkey, hrelation, hrelation'⟩ := parallel_candidates
  have heffect := (h _ textCodec_faithful _ _ _ _ _ _ _ _ _ x y hx hy hkey).metadata.topologyRelation
  rw [hrelation, hrelation'] at heffect
  have hedge := congrArg TopologyRelation.edgeId (Option.some.inj heffect)
  simp [relationMetadata, planDependsOnDesign, planDependsOnDesignAgain] at hedge

end ConstellationTopology
