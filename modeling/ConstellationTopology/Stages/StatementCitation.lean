import ConstellationTopology.Library.JsonText
import ConstellationTopology.Packets.StatementEvidence

set_option autoImplicit false

/-! # Which statement evidence a claim cites

The evidence index is keyed by subject and assertion id. A claim cites the record the index holds
for each of its statements, so a record that shares its key with another is cited exactly when both
have one evidence id (`statement_evidence_cited_iff`). One assertion carried by two packets is
enough for an orphan. -/

namespace ConstellationTopology

/-- The pool and the claims the compiler makes of statements and raw evidence. -/
structure CompiledStatements where
  evidence : List EvidenceRecord
  claims : List SemanticClaimRecord

/-- `reconcile_evidence` and then `reconcile_assertions` over its pool. -/
def compileStatements (c : Codec) (str : Json → String) (repr : String → String)
    (statements : List SemanticInput) (evidence : List EvidenceRecord) : CompiledStatements :=
  let pool := (ReconcileEvidence.run c str evidence).evidence
  { evidence := pool
    claims := (ReconcileAssertions.run c repr statements pool).claims }

/-- The statement an evidence record was built for, as the index reads it. -/
def statementKey (record : EvidenceRecord) : Option (String × String) :=
  (statementEvidence? record).map StatementEvidence.key

/-- What the index knows a statement by. -/
def SemanticInput.key (statement : SemanticInput) : String × String :=
  (statement.subjectId, statement.inputId)

/-! ## The index over a pool -/

section Index

variable {pool : List EvidenceRecord} {statement : SemanticInput}

theorem statementEvidence?_evidenceId {record : EvidenceRecord} {entry : StatementEvidence}
    (h : statementEvidence? record = some entry) : entry.evidenceId = record.evidenceId := by
  unfold statementEvidence? at h
  split at h
  · cases h
  · split at h
    · rw [← Option.some.inj h]
    · cases h

/-- What the index answers is a record of the statement. -/
theorem mem_of_resolve {evidenceId : String}
    (h : (assertionEvidenceIndex pool).resolve statement = some evidenceId) :
    ∃ record ∈ pool, statementKey record = some statement.key ∧
      record.evidenceId = evidenceId := by
  obtain ⟨entry, hentry, rfl⟩ := Option.map_eq_some_iff.1 h
  obtain ⟨hmem, hkey⟩ := Table.mem_of_lookup_ofRows hentry
  obtain ⟨record, hrecord, hsome⟩ := List.mem_filterMap.1 hmem
  refine ⟨record, hrecord, ?_, (statementEvidence?_evidenceId hsome).symm⟩
  unfold statementKey
  rw [hsome, Option.map_some, hkey]
  rfl

/-- A record of the statement makes the index answer. -/
theorem exists_resolve {record : EvidenceRecord} (hrecord : record ∈ pool)
    (hkey : statementKey record = some statement.key) :
    ∃ evidenceId, (assertionEvidenceIndex pool).resolve statement = some evidenceId := by
  obtain ⟨entry, hentry, hentryKey⟩ := Option.map_eq_some_iff.1 hkey
  have hfound : Table.lookup (assertionEvidenceIndex pool) statement.key ≠ none := by
    intro hnone
    refine Table.lookup_ofRows_eq_none_iff.1 hnone (List.mem_map.2 ⟨entry, ?_, hentryKey⟩)
    exact List.mem_filterMap.2 ⟨record, hrecord, hentry⟩
  obtain ⟨found, hfound⟩ := Option.ne_none_iff_exists'.1 hfound
  exact ⟨found.evidenceId, Option.map_eq_some_iff.2 ⟨found, hfound, rfl⟩⟩

end Index

/-! ## What a claim cites -/

section Citation

variable {c : Codec} {str : Json → String} {repr : String → String}
  {statements : List SemanticInput} {evidence : List EvidenceRecord}

/-- The claim of a statement cites what the index answers for the statements of its triple. -/
theorem cited_iff {statement : SemanticInput} (hstatement : statement ∈ statements)
    (evidenceId : String) :
    let compiled := compileStatements c str repr statements evidence
    (∃ claim ∈ compiled.claims, claim.triple = statement.triple ∧
        evidenceId ∈ claim.evidenceRefs) ↔
      ∃ s ∈ statements, s.triple = statement.triple ∧
        (assertionEvidenceIndex compiled.evidence).resolve s = some evidenceId := by
  have hrefs : ∀ s : SemanticInput, evidenceId ∈
      (groupClaim c (assertionEvidenceIndex (ReconcileEvidence.run c str evidence).evidence)
        s.subjectId s.predicate (ReconcileAssertions.groupAt statements s) s.object).evidenceRefs ↔
      ∃ x ∈ statements, x.triple = s.triple ∧
        (assertionEvidenceIndex (ReconcileEvidence.run c str evidence).evidence).resolve x =
          some evidenceId := by
    intro s
    show evidenceId ∈ sortedSet _ ↔ _
    simp only [mem_sortedSet, List.mem_filterMap, ReconcileAssertions.mem_supporting, and_assoc]
  constructor
  · rintro ⟨claim, hclaim, htriple, hcited⟩
    obtain ⟨s, -, rfl⟩ := (ReconcileAssertions.mem_claims c).1 hclaim
    have hs : s.triple = statement.triple := htriple
    rw [← hs]
    exact (hrefs s).1 hcited
  · intro hresolved
    refine ⟨_, (ReconcileAssertions.mem_claims c).2 ⟨statement, hstatement, rfl⟩, rfl, ?_⟩
    exact (hrefs statement).2 hresolved

/-- Every record of a statement is cited by the claim of the statement. -/
def Cited (statements : List SemanticInput) (compiled : CompiledStatements) : Prop :=
  ∀ statement ∈ statements, ∀ record ∈ compiled.evidence,
    statementKey record = some statement.key →
      ∃ claim ∈ compiled.claims, claim.triple = statement.triple ∧
        record.evidenceId ∈ claim.evidenceRefs

/-- The records of a statement that are all cited are one record. -/
theorem evidenceId_eq_of_cited
    (hcited : Cited statements (compileStatements c str repr statements evidence))
    {statement : SemanticInput} (hstatement : statement ∈ statements)
    {record record' : EvidenceRecord}
    (hrecord : record ∈ (compileStatements c str repr statements evidence).evidence)
    (hrecord' : record' ∈ (compileStatements c str repr statements evidence).evidence)
    (hkey : statementKey record = some statement.key)
    (hkey' : statementKey record' = some statement.key) :
    record.evidenceId = record'.evidenceId := by
  -- a cited record is the one the index answers for its key
  have hanswer : ∀ record ∈ (compileStatements c str repr statements evidence).evidence,
      statementKey record = some statement.key →
        (assertionEvidenceIndex
          (compileStatements c str repr statements evidence).evidence).resolve statement =
            some record.evidenceId := by
    intro record hrecord hkey
    obtain ⟨s, -, -, hresolve⟩ :=
      (cited_iff hstatement _).1 (hcited statement hstatement record hrecord hkey)
    obtain ⟨found, hfound, hfoundKey, hid⟩ := mem_of_resolve hresolve
    have hsame : found = record :=
      @ReconcileEvidence.eq_of_evidenceId c str evidence _ _ hfound hrecord hid
    have hsKey : s.key = statement.key := by
      rw [hsame, hkey] at hfoundKey
      exact (Option.some.inj hfoundKey).symm
    unfold AssertionEvidenceIndex.resolve at hresolve ⊢
    unfold SemanticInput.key at hsKey
    rwa [hsKey] at hresolve
  have heq := hanswer record hrecord hkey
  rw [hanswer record' hrecord' hkey'] at heq
  exact (Option.some.inj heq).symm

/-- **Statement evidence is cited** exactly when no two records of the pool with different evidence
    ids were built for one statement. -/
theorem statement_evidence_cited_iff (c : Codec) (str : Json → String) (repr : String → String)
    (statements : List SemanticInput) (evidence : List EvidenceRecord) :
    let compiled := compileStatements c str repr statements evidence
    Cited statements compiled ↔
      ∀ statement ∈ statements, ∀ record ∈ compiled.evidence, ∀ record' ∈ compiled.evidence,
        statementKey record = some statement.key → statementKey record' = some statement.key →
          record.evidenceId = record'.evidenceId := by
  intro compiled
  constructor
  · intro hcited statement hstatement record hrecord record' hrecord' hkey hkey'
    exact evidenceId_eq_of_cited hcited hstatement hrecord hrecord' hkey hkey'
  · intro hunique statement hstatement record hrecord hkey
    refine (cited_iff hstatement _).2 ⟨statement, hstatement, rfl, ?_⟩
    obtain ⟨evidenceId, hresolve⟩ := exists_resolve hrecord hkey
    obtain ⟨found, hfound, hfoundKey, rfl⟩ := mem_of_resolve hresolve
    rw [hresolve, hunique statement hstatement record hrecord found hfound hkey hfoundKey]

end Citation

/-! ## One assertion in two packets -/

/-- The compiler's path from repository packets to claims. -/
def compileRepositoryStatements (c : Codec) (str : Json → String) (repr : String → String)
    (packets : List RepositoryModelPacket) : Except String CompiledStatements := do
  let evidence ← packets.mapM (adaptedEvidence c)
  pure (compileStatements c str repr (compiledInputs packets []) evidence.flatten)

/-- A record built for an assertion carries its key and the revision of its packet. -/
theorem assertionEvidenceRecord_spec (c : Codec) (packet : RepositoryModelPacket)
    (assertion : RepositoryModelAssertion) {path : String}
    (h : normalizeSourcePath assertion.sourcePath = .ok path) :
    ∃ record, assertionEvidenceRecord c packet assertion = .ok record ∧
      statementKey record = some (assertionSemanticInput assertion).key ∧
      ∃ sourceRef : EvidenceSourceRef, sourceRef.sourceRevision = some packet.revision ∧
        record = makeEvidenceRecord c assertion.subjectId (some assertion.predicate)
          assertionEvidenceStage assertion.evidenceClass.evidenceClass .file sourceRef
          (assertionEvidenceValue assertion)
          (statementConfidence assertion.confidence assertion.authority assertion.evidenceClass)
          packet.producer.name packet.producer.version assertionEvidenceCreatedAt := by
  obtain ⟨sourceRef, hsourceRef, hrevision⟩ :
      ∃ sourceRef, assertionSourceRef assertion packet = .ok sourceRef ∧
        sourceRef.sourceRevision = some packet.revision := by
    unfold assertionSourceRef
    split
    · next herror => rw [h] at herror; cases herror
    · exact ⟨_, rfl, rfl⟩
  refine ⟨_, ?_, ?_, sourceRef, hrevision, rfl⟩
  · unfold assertionEvidenceRecord
    rw [hsourceRef]
    rfl
  · rfl

/-- The revision a record was read at is part of its identity. -/
theorem sourceRevision_of_evidenceId {c : Codec} (h : c.Faithful) {subjectId : String}
    {field : Option String} {stage : String} {evidenceClass : EvidenceClass}
    {sourceType : EvidenceSourceType} {ref ref' : EvidenceSourceRef} {value : Json}
    {confidence : ConfidenceAssessment} {producer producerVersion : String}
    {createdAt : Timestamp}
    (heq : (makeEvidenceRecord c subjectId field stage evidenceClass sourceType ref value
        confidence producer producerVersion createdAt).evidenceId =
      (makeEvidenceRecord c subjectId field stage evidenceClass sourceType ref' value
        confidence producer producerVersion createdAt).evidenceId) :
    ref.sourceRevision = ref'.sourceRevision := by
  have hidentity := (h.stableId_inj "evidence").1 heq
  have href := Json.field_of_semantic_eq hidentity "source_ref" rfl rfl
  have hrevision : "source_revision" ∉ volatileFields := by decide
  exact Json.field_inj Json.str_semantic_inj href hrevision ref.get?_sourceRevision
    ref'.get?_sourceRevision

/-- An assertion one repository makes at every revision. -/
def sharedAssertion : RepositoryModelAssertion where
  assertionId := "assertion:1"
  subjectId := "repo:a"
  predicate := "package.dependency"
  object := "numpy"
  sourcePath := "pyproject.toml"
  startLine := 12
  endLine := 12
  evidenceExcerpt := "numpy>=2"
  sourceContentHash := "sha256:11"
  extractorId := "pyproject"
  evidenceClass := .declared
  authority := "source"
  confidence := "high"
  startLine_positive := by decide
  endLine_positive := by decide

/-- The packet of a revision that carries it. -/
def revisionPacket (packetId revision : String) : RepositoryModelPacket where
  packetId := packetId
  repositoryId := "repo:a"
  revision := revision
  snapshotHash := "sha256:snapshot"
  producer := ⟨"repo-model", "1.0.0"⟩
  profile := ⟨"repo-model", "1.0.0", "sha256:profile"⟩
  schemaHash := "sha256:schema"
  semanticHash := "sha256:" ++ revision
  payload := some { assertions := some [sharedAssertion] }

/-- Two revisions of one repository carry one assertion: only the evidence of one of them is
    cited. -/
theorem statement_evidence_orphaned :
    ∃ compiled, compileRepositoryStatements textCodec (fun _ => "") id
        [revisionPacket "packet:1" "r1", revisionPacket "packet:2" "r2"] = .ok compiled ∧
      ¬ Cited [assertionSemanticInput sharedAssertion, assertionSemanticInput sharedAssertion]
        compiled := by
  have hpath : normalizeSourcePath "pyproject.toml" = .ok "pyproject.toml" :=
    normalizeSourcePath_name (by simp) (by simp) (by simp) (by decide) (by decide) (by decide)
  obtain ⟨first, hfirst, hkey, ref, hrevision, hmake⟩ := assertionEvidenceRecord_spec
    textCodec (revisionPacket "packet:1" "r1") sharedAssertion hpath
  obtain ⟨second, hsecond, hkey', ref', hrevision', hmake'⟩ := assertionEvidenceRecord_spec
    textCodec (revisionPacket "packet:2" "r2") sharedAssertion hpath
  have hne : first.evidenceId ≠ second.evidenceId := by
    intro heq
    rw [hmake, hmake'] at heq
    have hsame := sourceRevision_of_evidenceId textCodec_faithful heq
    rw [hrevision, hrevision'] at hsame
    exact absurd hsame (by decide)
  refine ⟨compileStatements textCodec (fun _ => "") id
    [assertionSemanticInput sharedAssertion, assertionSemanticInput sharedAssertion]
    [first, second], ?_, ?_⟩
  · simp only [compileRepositoryStatements, adaptedEvidence, assertionEvidenceRecords,
      revisionPacket, RepositoryModelPayload.statements, Option.getD_some, List.mapM_cons,
      List.mapM_nil] at hfirst hsecond ⊢
    rw [hfirst, hsecond]
    rfl
  · intro hcited
    have hnodup : ([first, second].map EvidenceRecord.evidenceId).Nodup := by simp [hne]
    have hmem := @ReconcileEvidence.mem_evidence_of_nodup textCodec (fun _ => "") _ hnodup
    refine hne (evidenceId_eq_of_cited hcited List.mem_cons_self (hmem.2 ?_) (hmem.2 ?_) hkey hkey')
    · simp
    · simp

end ConstellationTopology
