import ConstellationTopology.Publication.EffectIdentity
import ConstellationTopology.Stages.EvidenceIdentity
import Mathlib.Data.List.Perm.Basic

set_option autoImplicit false

/-! # Reading the same evidence again

The same evidence bytes, observed at another revision, get other evidence ids. Lowering sorts the
evidence of a fact by id and keeps the first `maximum_evidence_refs_per_candidate` records before it
computes the key, so a key survives the new observation exactly when the records kept under the new
ids are the ones kept under the old ids, in kind, digest and path (`key_local_iff`). Records that
differed in their revision alone get one id and count once. The fact itself keeps its identity in any
case (`candidateId_local`). -/

namespace ConstellationTopology

/-- The identity `make_evidence_record` gives a record with these fields. -/
def EvidenceRecord.identity (record : EvidenceRecord) : Json :=
  evidenceIdentity record.subjectId record.field record.stage record.evidenceClass
    record.sourceType record.sourceRef record.value record.producer record.producerVersion

/-- `e'` is `e` read again: only the revision, the packet, the time and hence the id may differ. -/
structure Reobserved (c : Codec) (e e' : EvidenceRecord) : Prop where
  subjectId : e'.subjectId = e.subjectId
  field : e'.field = e.field
  stage : e'.stage = e.stage
  evidenceClass : e'.evidenceClass = e.evidenceClass
  sourceType : e'.sourceType = e.sourceType
  value : e'.value = e.value
  confidence : e'.confidence = e.confidence
  producer : e'.producer = e.producer
  producerVersion : e'.producerVersion = e.producerVersion
  uri : e'.sourceRef.uri = e.sourceRef.uri
  sourcePath : e'.sourceRef.sourcePath = e.sourceRef.sourcePath
  lineNumber : e'.sourceRef.lineNumber = e.sourceRef.lineNumber
  contentHash : e'.sourceRef.contentHash = e.sourceRef.contentHash
  locator : e'.sourceRef.locator = e.sourceRef.locator
  made : e.evidenceId = c.stableId "evidence" e.identity
  made' : e'.evidenceId = c.stableId "evidence" e'.identity

/-- The ids of the evidence of a state. -/
def TopologyState.evidenceIds (state : TopologyState) : List String :=
  state.evidence.map EvidenceRecord.evidenceId

/-- What of a repository says who owns an entity. -/
def RepositoryRecord.owned (record : RepositoryRecord) : String × List String × List String :=
  (record.repositoryId, record.artifactIds, record.capabilityIds)

/-- The second state holds the evidence of the first one, read again, and nothing else; references
    are renamed as the ids are. Two records may get one id. -/
structure Reobservation (c : Codec) (state state' : TopologyState) (rename : String → String) :
    Prop where
  again : ∀ e ∈ state.evidence, ∃ e' ∈ state'.evidence,
    Reobserved c e e' ∧ rename e.evidenceId = e'.evidenceId
  before : ∀ e' ∈ state'.evidence, ∃ e ∈ state.evidence,
    Reobserved c e e' ∧ rename e.evidenceId = e'.evidenceId
  dangling : ∀ ref ∉ state.evidenceIds, rename ref ∉ state'.evidenceIds
  owners : state'.repositoryRecords.map RepositoryRecord.owned =
    state.repositoryRecords.map RepositoryRecord.owned

/-- The record with its references renamed. -/
def PublishedRecord.renameRefs (rename : String → String) : PublishedRecord → PublishedRecord
  | repository record => repository { record with evidenceRefs := record.evidenceRefs.map rename }
  | capability record => capability { record with evidenceRefs := record.evidenceRefs.map rename }
  | relationship record qualification =>
      relationship { record with evidenceRefs := record.evidenceRefs.map rename } qualification
  | claim record => claim { record with evidenceRefs := record.evidenceRefs.map rename }

/-- A record as it bears on the key. -/
def recordSupport (policy : PublicationPolicy) (record : EvidenceRecord) :
    Option EvidenceKindName × Option String × Option String :=
  (policy.evidenceKindByClass.lookup record.evidenceClass.value,
    bareDigest record.sourceRef.contentHash, stableLocator record)

/-- The records as they stand under the new ids: one for each id, in the order of the ids. -/
def underNewIds (rename : String → String) (records : List EvidenceRecord) : List EvidenceRecord :=
  sortedBy (fun e => rename e.evidenceId)
    (Table.ofRows (fun e => rename e.evidenceId) records).rows

/-- The bound keeps the same support: no more evidence resolves than it admits and no two records get
    one id, or the records with the smallest old ids and those with the smallest new ids agree in
    kind, digest and path. -/
def KeepsSupport (policy : PublicationPolicy) (state : TopologyState) (rename : String → String)
    (refs : List String) : Prop :=
  let resolved := resolvedEvidence (TopologyIndex.build state) refs
  let bound := policy.maximumEvidenceRefsPerCandidate
  (resolved.length ≤ bound ∧ (resolved.map fun e => rename e.evidenceId).Nodup) ∨
    ((resolved.take bound).map (recordSupport policy)).Perm
      (((underNewIds rename resolved).take bound).map (recordSupport policy))

section Reobservation

variable {c : Codec} {policy : PublicationPolicy} {packet packet' : TopologyPacket}
  {publishedAt publishedAt' : Timestamp} {state state' : TopologyState}
  {rename : String → String}

theorem referencedEvidence_nodup (state : TopologyState) (refs : List String) :
    ((referencedEvidence (TopologyIndex.build state) refs).map EvidenceRecord.evidenceId).Nodup := by
  unfold referencedEvidence
  rw [List.map_filterMap]
  refine (List.nodup_dedup refs).filterMap fun a b id ha hb => ?_
  obtain ⟨x, hx, hxid⟩ := Option.map_eq_some_iff.1 ha
  obtain ⟨y, hy, hyid⟩ := Option.map_eq_some_iff.1 hb
  rw [← Table.lookup_key hx, ← Table.lookup_key hy, hxid, hyid]

theorem mem_evidence_of_referenced {refs : List String} {e : EvidenceRecord}
    (h : e ∈ referencedEvidence (TopologyIndex.build state) refs) : e ∈ state.evidence := by
  obtain ⟨ref, -, hlookup⟩ := List.mem_filterMap.1 h
  exact (Table.mem_of_lookup_ofRows hlookup).1

theorem mem_referencedIds {refs : List String} {id : String} :
    id ∈ (referencedEvidence (TopologyIndex.build state) refs).map EvidenceRecord.evidenceId ↔
      id ∈ refs ∧ id ∈ state.evidenceIds := by
  constructor
  · intro h
    obtain ⟨e, he, rfl⟩ := List.mem_map.1 h
    obtain ⟨ref, href, hlookup⟩ := List.mem_filterMap.1 he
    have hid : e.evidenceId = ref := (Table.mem_of_lookup_ofRows hlookup).2
    exact ⟨hid ▸ List.mem_dedup.1 href, List.mem_map_of_mem (mem_evidence_of_referenced he)⟩
  · rintro ⟨href, hid⟩
    cases hlookup : (TopologyIndex.build state).evidenceById.lookup id with
    | none => exact absurd hid (Table.lookup_ofRows_eq_none_iff.1 hlookup)
    | some e =>
        exact List.mem_map.2 ⟨e, List.mem_filterMap.2 ⟨id, List.mem_dedup.2 href, hlookup⟩,
          (Table.mem_of_lookup_ofRows hlookup).2⟩

/-- An id that was assigned by its identity tells what bears on the key. -/
theorem recordSupport_of_evidenceId (hc : c.Faithful) {e e' : EvidenceRecord}
    (he : e.evidenceId = c.stableId "evidence" e.identity)
    (he' : e'.evidenceId = c.stableId "evidence" e'.identity) (h : e.evidenceId = e'.evidenceId) :
    recordSupport policy e = recordSupport policy e' := by
  rw [he, he'] at h
  have hidentity := (hc.stableId_inj "evidence").1 h
  have hclass := Json.field_of_semantic_eq hidentity "evidence_class" rfl rfl
  have hplace := EvidenceSourceRef.semantic_iff.1
    (Json.field_of_semantic_eq hidentity "source_ref" rfl rfl)
  simp only [recordSupport, stableLocator, Json.str_semantic_inj _ _ hclass, hplace.contentHash,
    hplace.sourcePath, hplace.uri]

theorem recordSupport_reobserved {e e' : EvidenceRecord} (h : Reobserved c e e') :
    recordSupport policy e' = recordSupport policy e := by
  simp only [recordSupport, stableLocator, h.evidenceClass, h.contentHash, h.sourcePath, h.uri]

/-- Whatever record stands under a new id, it bears on the key as every record that got the id. -/
theorem recordSupport_rename (hc : c.Faithful) (h : Reobservation c state state' rename)
    {e e' : EvidenceRecord} (he : e ∈ state.evidence) (he' : e' ∈ state'.evidence)
    (hid : e'.evidenceId = rename e.evidenceId) :
    recordSupport policy e' = recordSupport policy e := by
  obtain ⟨first, -, hfirst, -⟩ := h.before e' he'
  obtain ⟨again, -, hagain, hrename⟩ := h.again e he
  rw [← recordSupport_reobserved hagain]
  exact recordSupport_of_evidenceId hc hfirst.made' hagain.made' (hid.trans hrename)

/-- The ids that resolve are the new ids of those that resolved. -/
theorem resolvedIds_rename (h : Reobservation c state state' rename) (refs : List String) :
    (resolvedEvidence (TopologyIndex.build state') (refs.map rename)).map
        EvidenceRecord.evidenceId =
      (underNewIds rename (resolvedEvidence (TopologyIndex.build state) refs)).map
        fun e => rename e.evidenceId := by
  have hperm := sortedBy_perm EvidenceRecord.evidenceId
    (referencedEvidence (TopologyIndex.build state) refs)
  have hnew := sortedBy_perm (fun e : EvidenceRecord => rename e.evidenceId)
    (Table.ofRows (fun e : EvidenceRecord => rename e.evidenceId)
      (resolvedEvidence (TopologyIndex.build state) refs)).rows
  have hids := sortedBy_perm EvidenceRecord.evidenceId
    (referencedEvidence (TopologyIndex.build state') (refs.map rename))
  refine List.Perm.eq_of_pairwise (fun _ _ _ _ => le_antisymm)
    (List.pairwise_map.2 (sortedBy_sorted _ _)) (List.pairwise_map.2 (sortedBy_sorted _ _)) ?_
  refine (List.perm_ext_iff_of_nodup
    ((hids.map _).nodup_iff.2 (referencedEvidence_nodup state' _))
    ((hnew.map _).nodup_iff.2 (Table.keys_nodup _))).2 fun id => ?_
  rw [(hids.map EvidenceRecord.evidenceId).mem_iff, mem_referencedIds,
    (hnew.map fun e : EvidenceRecord => rename e.evidenceId).mem_iff, Table.mem_keys_ofRows,
    show (fun e : EvidenceRecord => rename e.evidenceId) = rename ∘ EvidenceRecord.evidenceId from rfl,
    ← List.map_map, List.mem_map, List.mem_map]
  have hold : ∀ ref, ref ∈ (resolvedEvidence (TopologyIndex.build state) refs).map
      EvidenceRecord.evidenceId ↔ ref ∈ refs ∧ ref ∈ state.evidenceIds := fun ref =>
    (hperm.map EvidenceRecord.evidenceId).mem_iff.trans mem_referencedIds
  constructor
  · rintro ⟨⟨ref, href, rfl⟩, hid⟩
    -- a reference that resolved to nothing before does not resolve now
    exact ⟨ref, (hold ref).2 ⟨href, by_contra fun hnot => h.dangling ref hnot hid⟩, rfl⟩
  · rintro ⟨ref, href, rfl⟩
    obtain ⟨href, hid⟩ := (hold ref).1 href
    obtain ⟨e, he, rfl⟩ := List.mem_map.1 hid
    obtain ⟨e', he', -, hrename⟩ := h.again e he
    rw [hrename]
    exact ⟨⟨_, href, hrename⟩, List.mem_map_of_mem he'⟩

theorem mem_of_underNewIds {records : List EvidenceRecord} {e : EvidenceRecord}
    (h : e ∈ underNewIds rename records) : e ∈ records :=
  Table.mem_of_mem_ofRows (mem_sortedBy.1 h)

theorem underNewIds_eq_nil_iff (rename : String → String) {records : List EvidenceRecord} :
    records = [] ↔ underNewIds rename records = [] := by
  rw [List.eq_nil_iff_forall_not_mem, List.eq_nil_iff_forall_not_mem]
  constructor
  · exact fun h e he => h e (mem_of_underNewIds he)
  · intro h e he
    obtain ⟨e', he', -⟩ := List.mem_map.1 (Table.mem_keys_ofRows.2
      (List.mem_map_of_mem he : rename e.evidenceId ∈ records.map fun e => rename e.evidenceId))
    exact h e' (mem_sortedBy.2 he')

/-- What resolves bears on the key as the old records under the new ids do. -/
theorem resolvedSupport_rename (hc : c.Faithful) (h : Reobservation c state state' rename)
    (refs : List String) :
    (resolvedEvidence (TopologyIndex.build state') (refs.map rename)).map (recordSupport policy) =
      (underNewIds rename (resolvedEvidence (TopologyIndex.build state) refs)).map
        (recordSupport policy) := by
  refine map_eq_of_keys (resolvedIds_rename h refs) fun e' he' e he hid => ?_
  have hmem := mem_sortedBy.1 (mem_of_underNewIds he)
  exact recordSupport_rename hc h (mem_evidence_of_referenced hmem)
    (mem_evidence_of_referenced (mem_sortedBy.1 he')) hid

theorem keptEvidence_rename (hc : c.Faithful) (h : Reobservation c state state' rename)
    (refs : List String) :
    (keptEvidence policy (TopologyIndex.build state') (refs.map rename)).map
        (recordSupport policy) =
      ((underNewIds rename (resolvedEvidence (TopologyIndex.build state) refs)).take
        policy.maximumEvidenceRefsPerCandidate).map (recordSupport policy) := by
  rw [keptEvidence, List.map_take, resolvedSupport_rename hc h, ← List.map_take]

/-- Who owns an entity is read from the repositories alone. -/
theorem owner_rename (h : Reobservation c state state' rename) (entityId : String) :
    (TopologyIndex.build state').owner entityId = (TopologyIndex.build state).owner entityId := by
  have hfold : ∀ (xs ys : List RepositoryRecord) (owning : OwnerTable),
      xs.map RepositoryRecord.owned = ys.map RepositoryRecord.owned →
        xs.foldl ownedBy owning = ys.foldl ownedBy owning := by
    intro xs
    induction xs with
    | nil =>
        intro ys owning heq
        rw [List.map_eq_nil_iff.1 heq.symm]
    | cons x xs ih =>
        intro ys owning heq
        cases ys with
        | nil => cases heq
        | cons y ys =>
            simp only [List.map_cons, List.cons.injEq, RepositoryRecord.owned, Prod.mk.injEq]
              at heq
            obtain ⟨⟨hid, hartifacts, hcapabilities⟩, hrest⟩ := heq
            have hstep : ownedBy owning x = ownedBy owning y := by
              unfold ownedBy
              rw [hid, hartifacts, hcapabilities]
            rw [List.foldl_cons, List.foldl_cons, hstep]
            exact ih ys _ hrest
  unfold TopologyIndex.owner TopologyIndex.build
  rw [hfold _ _ _ h.owners]

/-- Renaming the references of a record changes nothing else of its fact. -/
theorem fact_renameRefs (record : PublishedRecord) :
    (record.renameRefs rename).fact =
      { record.fact with evidenceRefs := record.fact.evidenceRefs.map rename } := by
  cases record with
  | repository record => rfl
  | capability record => rfl
  | relationship record qualification => rfl
  | claim record => rfl

/-- One item of the keyed evidence, as it bears on the key. -/
def EvidenceSemantics.support (evidence : EvidenceSemantics) :
    Option EvidenceKindName × Option String × Option String :=
  (some evidence.evidenceKind, evidence.sourceContentDigest, evidence.stableSourceLocator)

theorem EvidenceSemantics.support_injective : Function.Injective EvidenceSemantics.support := by
  rintro ⟨kind, digest, locator⟩ ⟨kind', digest', locator'⟩ h
  simp only [EvidenceSemantics.support, Prod.mk.injEq, Option.some.injEq] at h
  obtain ⟨rfl, rfl, rfl⟩ := h
  rfl

section Parts

variable {index index' : TopologyIndex} {fact fact' : TopologyFact} {p q : LoweredParts}

/-- The keyed evidence is the kept evidence. -/
theorem localEvidence_support (h : PartsOf policy packet index publishedAt fact p) :
    p.localEvidence.map EvidenceSemantics.support =
      (keptEvidence policy index fact.evidenceRefs).map (recordSupport policy) := by
  obtain ⟨lowered, hlowered, hkept, -, -⟩ := lowerEvidence_eq_ok h.evidence
  have hlocal := h.localEvidence
  rw [hkept] at hlocal
  have hself : (keptEvidence policy index fact.evidenceRefs).mapM
      (fun e => (Except.ok e : Except LoweringFailure EvidenceRecord)) =
        .ok (keptEvidence policy index fact.evidenceRefs) :=
    mapM_eq_ok.2 (List.forall₂_same.2 fun _ _ => rfl)
  refine mapM_view_eq hlocal hself fun e _ evidence e' hevidence heq => ?_
  obtain ⟨hkind, hdigest, hlocator⟩ := recordSemantics_eq_ok.1 hevidence
  rw [← Except.ok.inj heq, recordSupport, policyValue_eq_ok.1 hkind, ← hdigest, ← hlocator]
  rfl

/-- The derivation depends on the method, the kinds of the keyed evidence and on whether anything
    resolves. -/
theorem derivationKind_eq (hp : PartsOf policy packet index publishedAt fact p)
    (hq : PartsOf policy packet' index' publishedAt' fact' q) (hmethod : p.method = q.method)
    (hlocal : p.localEvidence.Perm q.localEvidence)
    (hresolved : resolvedEvidence index fact.evidenceRefs = [] ↔
      resolvedEvidence index' fact'.evidenceRefs = []) :
    p.evidence.derivationKind = q.evidence.derivationKind := by
  have hkinds : ∀ {packet : TopologyPacket} {index : TopologyIndex} {publishedAt : Timestamp}
      {fact : TopologyFact} {parts : LoweredParts},
      PartsOf policy packet index publishedAt fact parts →
      ∃ lowered : List MemoryEvidenceRef,
        lowered.map MemoryEvidenceRef.kind =
          parts.localEvidence.map EvidenceSemantics.evidenceKind ∧
        parts.evidence.derivationKind =
          derivationKindOf (resolvedEvidence index fact.evidenceRefs) parts.method lowered := by
    intro packet index publishedAt fact parts h
    obtain ⟨lowered, hlowered, hkept, hderivation, -⟩ := lowerEvidence_eq_ok h.evidence
    have hparts := h.localEvidence
    rw [hkept] at hparts
    refine ⟨lowered, ?_, hderivation⟩
    refine mapM_view_eq hlowered hparts fun e _ ref evidence href hevidence => ?_
    have hkind := (lowerEvidenceRef_eq_ok href).1
    rw [(recordSemantics_eq_ok.1 hevidence).1] at hkind
    exact (Except.ok.inj hkind).symm
  obtain ⟨lowered, hlowered, hderivation⟩ := hkinds hp
  obtain ⟨lowered', hlowered', hderivation'⟩ := hkinds hq
  have hany : (∃ ref ∈ lowered, ref.kind ∈ derivationEvidenceKinds) ↔
      ∃ ref ∈ lowered', ref.kind ∈ derivationEvidenceKinds := by
    have hperm : (lowered.map MemoryEvidenceRef.kind).Perm
        (lowered'.map MemoryEvidenceRef.kind) := by
      rw [hlowered, hlowered']
      exact hlocal.map _
    have hmem : ∀ xs : List MemoryEvidenceRef,
        (∃ ref ∈ xs, ref.kind ∈ derivationEvidenceKinds) ↔
          ∃ kind ∈ xs.map MemoryEvidenceRef.kind, kind ∈ derivationEvidenceKinds := by
      simp
    rw [hmem, hmem]
    simp only [hperm.mem_iff]
  rw [hderivation, hderivation']
  unfold derivationKindOf
  simp only [List.any_eq_true, decide_eq_true_eq, ne_eq, hresolved, hmethod, hany]

/-- Facts that agree outside their evidence, with one owner and one keyed support, have one key. -/
theorem same_key_of_support (hc : c.Faithful)
    (hp : PartsOf policy packet index publishedAt fact p)
    (hq : PartsOf policy packet' index' publishedAt' fact' q)
    (hassessment : fact'.assessment = fact.assessment)
    (hresolved : resolvedEvidence index fact.evidenceRefs = [] ↔
      resolvedEvidence index' fact'.evidenceRefs = [])
    (hidentity : factIdentity policy index fact p.subjectId =
      factIdentity policy index' fact' q.subjectId)
    (hcontent : fact.content ≠ "") (hcontent' : fact'.content ≠ "") :
    (assemble c policy packet' index' publishedAt' fact' q hcontent').idempotencyKey =
        (assemble c policy packet index publishedAt fact p hcontent).idempotencyKey ↔
      ((keptEvidence policy index fact.evidenceRefs).map (recordSupport policy)).Perm
        ((keptEvidence policy index' fact'.evidenceRefs).map (recordSupport policy)) := by
  rw [eq_comm, assemble_key_eq_iff hc, ← localEvidence_support hp, ← localEvidence_support hq,
    List.map_perm_map_iff EvidenceSemantics.support_injective]
  constructor
  · exact fun h => h.2.1
  · intro hlocal
    have hmethod : p.method = q.method := by
      have h := hq.method
      rw [hassessment, hp.method] at h
      exact Except.ok.inj h
    have hderivation := derivationKind_eq hp hq hmethod hlocal hresolved
    have hlength : p.evidence.refs.length = q.evidence.refs.length := by
      have h := congrArg List.length (evidence_statements hp)
      have h' := congrArg List.length (evidence_statements hq)
      have hkept := congrArg List.length (localEvidence_support hp)
      have hkept' := congrArg List.length (localEvidence_support hq)
      simp only [List.length_map, List.length_append] at h h' hkept hkept'
      rw [h, h', ← hkept, ← hkept', hlocal.length_eq, hderivation]
    obtain ⟨hscore, hpmethod, hpcount, hpversion⟩ := makeConfidence_eq_ok hp.confidence
    obtain ⟨hscore', hqmethod, hqcount, hqversion⟩ := makeConfidence_eq_ok hq.confidence
    rw [hassessment, hscore] at hscore'
    refine ⟨hidentity, hlocal, ?_, hderivation⟩
    simp only [MemoryConfidence.semantics, hpmethod, hpcount, hpversion, hqmethod, hqcount,
      hqversion, hmethod, hlength, Except.ok.inj hscore']

end Parts

/-- The fact keeps its identity. -/
theorem factIdentity_rename (h : Reobservation c state state' rename)
    (record : PublishedRecord) (subjectId : String) :
    factIdentity policy (TopologyIndex.build state') (record.renameRefs rename).fact subjectId =
      factIdentity policy (TopologyIndex.build state) record.fact subjectId := by
  rw [fact_renameRefs]
  simp only [factIdentity, owner_rename h]

theorem subjectId_rename {index index' : TopologyIndex} {p q : LoweredParts}
    {record : PublishedRecord}
    (hp : PartsOf policy packet index publishedAt record.fact p)
    (hq : PartsOf policy packet' index' publishedAt' (record.renameRefs rename).fact q) :
    q.subjectId = p.subjectId := by
  have h := hq.subject
  rw [fact_renameRefs] at h
  exact Option.some.inj (h.symm.trans hp.subject)

/-- Reading the evidence of a record again never changes the candidate's id. -/
theorem candidateId_local (h : Reobservation c state state' rename)
    {record : PublishedRecord} {x y : LoweredCandidate}
    (hx : record.lower c policy packet (TopologyIndex.build state) publishedAt = .ok x)
    (hy : (record.renameRefs rename).lower c policy packet' (TopologyIndex.build state')
      publishedAt' = .ok y) : y.candidateId = x.candidateId := by
  obtain ⟨p, hp, hpcontent, rfl⟩ := build_eq_ok.1 (build_of_lower hx)
  obtain ⟨q, hq, hqcontent, rfl⟩ := build_eq_ok.1 (build_of_lower hy)
  simp only [assemble, subjectId_rename (partsOf_of_lowerParts hp) (partsOf_of_lowerParts hq),
    factIdentity_rename h]

theorem keepsSupport_iff (policy : PublicationPolicy) (state : TopologyState)
    (rename : String → String) (refs : List String) :
    KeepsSupport policy state rename refs ↔
      ((keptEvidence policy (TopologyIndex.build state) refs).map (recordSupport policy)).Perm
        (((underNewIds rename (resolvedEvidence (TopologyIndex.build state) refs)).take
          policy.maximumEvidenceRefsPerCandidate).map (recordSupport policy)) := by
  unfold KeepsSupport
  constructor
  · rintro (⟨hlength, hnodup⟩ | hperm)
    · have hsorted : (underNewIds rename (resolvedEvidence (TopologyIndex.build state) refs)).Perm
          (resolvedEvidence (TopologyIndex.build state) refs) := by
        rw [underNewIds, Table.rows_ofRows_of_nodup hnodup]
        exact sortedBy_perm _ _
      rw [keptEvidence, List.take_of_length_le hlength,
        List.take_of_length_le (hsorted.length_eq.trans_le hlength)]
      exact hsorted.symm.map _
    · exact hperm
  · exact Or.inr

/-- The key after the evidence was read again, against the key before. -/
theorem key_eq_iff_keepsSupport (hc : c.Faithful) (h : Reobservation c state state' rename)
    {record : PublishedRecord} {x y : LoweredCandidate}
    (hx : record.lower c policy packet (TopologyIndex.build state) publishedAt = .ok x)
    (hy : (record.renameRefs rename).lower c policy packet' (TopologyIndex.build state')
      publishedAt' = .ok y) :
    y.idempotencyKey = x.idempotencyKey ↔
      KeepsSupport policy state rename record.fact.evidenceRefs := by
  obtain ⟨p, hp, hpcontent, rfl⟩ := build_eq_ok.1 (build_of_lower hx)
  obtain ⟨q, hq, hqcontent, rfl⟩ := build_eq_ok.1 (build_of_lower hy)
  have hp := partsOf_of_lowerParts hp
  have hq := partsOf_of_lowerParts hq
  have hresolved : resolvedEvidence (TopologyIndex.build state) record.fact.evidenceRefs = [] ↔
      resolvedEvidence (TopologyIndex.build state')
        (record.renameRefs rename).fact.evidenceRefs = [] := by
    have hids := resolvedIds_rename h record.fact.evidenceRefs
    rw [fact_renameRefs, underNewIds_eq_nil_iff rename]
    constructor
    · intro hnil
      rw [hnil] at hids
      exact List.map_eq_nil_iff.1 hids
    · intro hnil
      rw [hnil] at hids
      exact List.map_eq_nil_iff.1 hids.symm
  have hidentity : factIdentity policy (TopologyIndex.build state) record.fact p.subjectId =
      factIdentity policy (TopologyIndex.build state') (record.renameRefs rename).fact
        q.subjectId := by
    rw [factIdentity_rename h, subjectId_rename hp hq]
  have hassessment : (record.renameRefs rename).fact.assessment = record.fact.assessment := by
    rw [fact_renameRefs]
  have hkept : (keptEvidence policy (TopologyIndex.build state')
      (record.renameRefs rename).fact.evidenceRefs).map (recordSupport policy) =
        ((underNewIds rename
          (resolvedEvidence (TopologyIndex.build state) record.fact.evidenceRefs)).take
            policy.maximumEvidenceRefsPerCandidate).map (recordSupport policy) := by
    rw [fact_renameRefs, keptEvidence_rename hc h]
  rw [same_key_of_support hc hp hq hassessment hresolved hidentity hpcontent hqcontent,
    keepsSupport_iff, hkept]

/-- **Effect-key locality.** Reading the evidence again leaves the candidate id and the key unchanged
    exactly when the bound keeps the same support. -/
theorem key_local_iff (hc : c.Faithful) (h : Reobservation c state state' rename)
    {record : PublishedRecord} {x y : LoweredCandidate}
    (hx : record.lower c policy packet (TopologyIndex.build state) publishedAt = .ok x)
    (hy : (record.renameRefs rename).lower c policy packet' (TopologyIndex.build state')
      publishedAt' = .ok y) :
    (y.candidateId = x.candidateId ∧ y.idempotencyKey = x.idempotencyKey) ↔
      KeepsSupport policy state rename record.fact.evidenceRefs := by
  rw [key_eq_iff_keepsSupport hc h hx hy]
  exact and_iff_right (candidateId_local h hx hy)

end Reobservation

/-! ## A new revision -/

/-- A codec under which the listed digests come first in the order of the ids. -/
def frontCodec (front : List String) : Codec :=
  { textCodec with
    sha256 := fun bytes => (if bytesText bytes ∈ front then "0" else "1") ++ bytesText bytes }

theorem frontCodec_faithful (front : List String) : (frontCodec front).Faithful where
  dumps_inj := textCodec_faithful.dumps_inj
  sha256_inj v w h := by
    have htext := congrArg String.toList h
    simp only [frontCodec, String.toList_append] at htext
    have hlength : ∀ bytes : ByteArray,
        (if bytesText bytes ∈ front then "0" else "1").toList.length = 1 :=
      fun bytes => by split <;> rfl
    have hrest := (List.append_inj htext ((hlength v).trans (hlength w).symm)).2
    exact bytesText_injective (String.toList_inj.1 hrest)

/-- The reference to a source file at a revision. -/
def fileAt (path revision : String) (hpath : normalizeSourcePath path = .ok path) :
    EvidenceSourceRef where
  sourcePath := some path
  sourceRevision := some revision
  sourcePath_portable := by simpa using ⟨path, hpath⟩
  lineNumber_positive := noLine_positive
  locator_valid := noLocator_valid
  lineNumber_agrees := noLocator_agrees

/-- An observation of a file that implements the capability. -/
def implementedIn (c : Codec) (path revision : String) (hpath : normalizeSourcePath path = .ok path) :
    EvidenceRecord :=
  makeEvidenceRecord c "capability:search" (some "implemented_by") "observe" .observed .file
    (fileAt path revision hpath) .null .unknown "scanner" "1.0.0" ⟨"2026-01-01T00:00:00Z"⟩

theorem implementedIn_semantic_ne {c : Codec} {path path' revision revision' : String}
    (hpath : normalizeSourcePath path = .ok path) (hpath' : normalizeSourcePath path' = .ok path')
    (h : path ≠ path' ∨ revision ≠ revision') :
    (implementedIn c path revision hpath).identity.semantic ≠
      (implementedIn c path' revision' hpath').identity.semantic := by
  intro heq
  have href := Json.field_of_semantic_eq heq "source_ref" rfl rfl
  rcases h with hne | hne
  · exact hne (Json.str.inj (Json.field_of_semantic_eq href "source_path" rfl rfl))
  · exact hne (Json.str.inj (Json.field_of_semantic_eq href "source_revision" rfl rfl))

theorem normalize_index : normalizeSourcePath "index.py" = .ok "index.py" :=
  normalizeSourcePath_name (by decide) (by decide) (by decide) (by decide) (by decide) (by decide)

theorem normalize_vectors : normalizeSourcePath "vectors.py" = .ok "vectors.py" :=
  normalizeSourcePath_name (by decide) (by decide) (by decide) (by decide) (by decide) (by decide)

/-- Under this codec the index comes first at revision 1 and the vectors at revision 2. -/
def revisionCodec : Codec :=
  frontCodec [textCodec.semanticDigest (implementedIn textCodec "index.py" "1" normalize_index).identity,
    textCodec.semanticDigest (implementedIn textCodec "vectors.py" "2" normalize_vectors).identity]

def indexAt (revision : String) : EvidenceRecord :=
  implementedIn revisionCodec "index.py" revision normalize_index

def vectorsAt (revision : String) : EvidenceRecord :=
  implementedIn revisionCodec "vectors.py" revision normalize_vectors

theorem frontCodec_lt {front : List String} {v w : Json} (hv : textCodec.semanticDigest v ∈ front)
    (hw : textCodec.semanticDigest w ∉ front) :
    (frontCodec front).stableId "evidence" v < (frontCodec front).stableId "evidence" w := by
  have hdigest : ∀ u, (frontCodec front).semanticDigest u =
      (if textCodec.semanticDigest u ∈ front then "0" else "1") ++ textCodec.semanticDigest u :=
    fun _ => rfl
  unfold Codec.stableId
  rw [hdigest, hdigest, if_pos hv, if_neg hw, String.lt_iff_toList_lt]
  simp [List.cons_lt_cons_iff]

theorem indexAt_lt_vectorsAt : (indexAt "1").evidenceId < (vectorsAt "1").evidenceId := by
  refine frontCodec_lt List.mem_cons_self fun hmem => ?_
  simp only [List.mem_cons, List.not_mem_nil, or_false] at hmem
  rcases hmem with h | h
  · exact implementedIn_semantic_ne normalize_vectors normalize_index (Or.inl (by decide))
      (textCodec_faithful.semanticDigest_inj.1 h)
  · exact implementedIn_semantic_ne normalize_vectors normalize_vectors (Or.inr (by decide))
      (textCodec_faithful.semanticDigest_inj.1 h)

theorem vectorsAt_lt_indexAt : (vectorsAt "2").evidenceId < (indexAt "2").evidenceId := by
  refine frontCodec_lt (List.mem_cons_of_mem _ List.mem_cons_self) fun hmem => ?_
  simp only [List.mem_cons, List.not_mem_nil, or_false] at hmem
  rcases hmem with h | h
  · exact implementedIn_semantic_ne normalize_index normalize_index (Or.inr (by decide))
      (textCodec_faithful.semanticDigest_inj.1 h)
  · exact implementedIn_semantic_ne normalize_index normalize_vectors (Or.inl (by decide))
      (textCodec_faithful.semanticDigest_inj.1 h)

/-- A capability that two files implement, with the evidence read at a revision. -/
def searchCapability (revision : String) : CapabilityRecord where
  capabilityId := "capability:search"
  name := "search"
  description := "Search."
  evidenceRefs := [(indexAt revision).evidenceId, (vectorsAt revision).evidenceId]
  confidence := .deterministic

def searchState (revision : String) : TopologyState where
  capabilityRecords := [searchCapability revision]
  evidence := [indexAt revision, vectorsAt revision]

/-- A policy that admits one evidence reference. -/
def oneReferencePolicy : PublicationPolicy :=
  { publicationPolicy with
    maximumEvidenceRefsPerCandidate := 1
    maximumEvidenceRefs_pos := Nat.one_pos }

def renameRevision (ref : String) : String :=
  if ref = (indexAt "1").evidenceId then (indexAt "2").evidenceId
  else if ref = (vectorsAt "1").evidenceId then (vectorsAt "2").evidenceId
  else ""

theorem renameRevision_index : renameRevision (indexAt "1").evidenceId = (indexAt "2").evidenceId :=
  if_pos rfl

theorem renameRevision_vectors :
    renameRevision (vectorsAt "1").evidenceId = (vectorsAt "2").evidenceId :=
  (if_neg indexAt_lt_vectorsAt.ne').trans (if_pos rfl)

theorem index_reobserved : Reobserved revisionCodec (indexAt "1") (indexAt "2") :=
  ⟨rfl, rfl, rfl, rfl, rfl, rfl, rfl, rfl, rfl, rfl, rfl, rfl, rfl, rfl, rfl, rfl⟩

theorem vectors_reobserved : Reobserved revisionCodec (vectorsAt "1") (vectorsAt "2") :=
  ⟨rfl, rfl, rfl, rfl, rfl, rfl, rfl, rfl, rfl, rfl, rfl, rfl, rfl, rfl, rfl, rfl⟩

theorem searchReobservation :
    Reobservation revisionCodec (searchState "1") (searchState "2") renameRevision where
  again e he := by
    simp only [searchState, List.mem_cons, List.not_mem_nil, or_false] at he
    rcases he with rfl | rfl
    · exact ⟨_, List.mem_cons_self, index_reobserved, renameRevision_index⟩
    · exact ⟨_, List.mem_cons_of_mem _ List.mem_cons_self, vectors_reobserved,
        renameRevision_vectors⟩
  before e' he' := by
    simp only [searchState, List.mem_cons, List.not_mem_nil, or_false] at he'
    rcases he' with rfl | rfl
    · exact ⟨_, List.mem_cons_self, index_reobserved, renameRevision_index⟩
    · exact ⟨_, List.mem_cons_of_mem _ List.mem_cons_self, vectors_reobserved,
        renameRevision_vectors⟩
  dangling ref href := by
    simp only [TopologyState.evidenceIds, searchState, List.map_cons, List.map_nil, List.mem_cons,
      List.not_mem_nil, or_false, not_or] at href ⊢
    have hnonempty : ∀ v : Json, "" ≠ revisionCodec.stableId "evidence" v := by
      intro v h
      have htext := congrArg String.toList h
      simp [Codec.stableId] at htext
    rw [renameRevision, if_neg href.1, if_neg href.2]
    exact ⟨hnonempty _, hnonempty _⟩
  owners := rfl

theorem search_distinct (revision : String) :
    (indexAt revision).evidenceId ≠ (vectorsAt revision).evidenceId := by
  intro h
  have hcodec : revisionCodec.Faithful := frontCodec_faithful _
  have hsemantic : (indexAt revision).identity.semantic = (vectorsAt revision).identity.semantic :=
    (hcodec.stableId_inj "evidence").1 h
  exact implementedIn_semantic_ne normalize_index normalize_vectors (Or.inl (by decide)) hsemantic

theorem search_referenced (revision : String) :
    (referencedEvidence (TopologyIndex.build (searchState revision))
      (searchCapability revision).evidenceRefs).Perm [indexAt revision, vectorsAt revision] := by
  have hne := search_distinct revision
  have hnodup : [indexAt revision, vectorsAt revision].Nodup := by
    simpa using fun h : indexAt revision = vectorsAt revision =>
      hne (congrArg EvidenceRecord.evidenceId h)
  rw [List.perm_ext_iff_of_nodup (referencedEvidence_nodup _ _).of_map hnodup]
  refine fun e => ⟨mem_evidence_of_referenced, fun he => ?_⟩
  have hdistinct : ((searchState revision).evidence.map EvidenceRecord.evidenceId).Nodup := by
    simp [searchState, hne]
  obtain ⟨found, hfound, hid⟩ := List.mem_map.1 (mem_referencedIds.2
    ⟨(List.mem_map_of_mem he : e.evidenceId ∈ (searchCapability revision).evidenceRefs),
      (List.mem_map_of_mem he : e.evidenceId ∈ (searchState revision).evidenceIds)⟩)
  rwa [← List.inj_on_of_nodup_map hdistinct (mem_evidence_of_referenced hfound) he hid]

theorem search_lowers (revision : String) : ∃ x,
    (PublishedRecord.capability (searchCapability revision)).lower revisionCodec oneReferencePolicy
      topologyPacket (TopologyIndex.build (searchState revision)) ⟨"2026-01-01T00:00:00Z"⟩ =
        .ok x := by
  have hids : (capabilityFact (searchCapability revision)).entityIds = ["capability:search"] := rfl
  have hmethod : confidenceMethod oneReferencePolicy
      (capabilityFact (searchCapability revision)).assessment = .ok .aggregated :=
    policyValue_eq_ok.2 rfl
  refine exists_build_eq_ok hids ?_ hmethod ?_ ?_ ?_
  · intro h
    have htext := congrArg String.toList h
    simp [capabilityFact] at htext
  · intro e he
    have hmem := (search_referenced revision).mem_iff.1 he
    simp only [List.mem_cons, List.not_mem_nil, or_false] at hmem
    rcases hmem with rfl | rfl
    · exact ⟨_, bind_eq_ok.2 ⟨.observation, policyValue_eq_ok.2 rfl, rfl⟩⟩
    · exact ⟨_, bind_eq_ok.2 ⟨.observation, policyValue_eq_ok.2 rfl, rfl⟩⟩
  · intro count
    have hscore : confidenceScore oneReferencePolicy .deterministic =
        .ok (unitScore (min (3 / 5) 1)) :=
      bind_eq_ok.2 ⟨3 / 5, policyValue_eq_ok.2 rfl, bind_eq_ok.2 ⟨1, policyValue_eq_ok.2 rfl, rfl⟩⟩
    exact ⟨_, bind_eq_ok.2 ⟨_, hscore, dif_pos (by decide)⟩⟩
  · have htrust : sourceTrust oneReferencePolicy .deterministic = .ok (unitScore (9 / 10)) :=
      bind_eq_ok.2 ⟨9 / 10, policyValue_eq_ok.2 rfl, rfl⟩
    exact ⟨_, bind_eq_ok.2 ⟨_, htrust, (dif_pos (by decide)).trans (dif_pos (by
      intro id hid
      cases hid))⟩⟩

theorem search_resolved :
    resolvedEvidence (TopologyIndex.build (searchState "1")) (searchCapability "1").evidenceRefs =
      [indexAt "1", vectorsAt "1"] := by
  have hnodup := referencedEvidence_nodup (searchState "1") (searchCapability "1").evidenceRefs
  have hid : ∀ x ∈ referencedEvidence (TopologyIndex.build (searchState "1"))
      (searchCapability "1").evidenceRefs, ∀ y ∈ referencedEvidence
        (TopologyIndex.build (searchState "1")) (searchCapability "1").evidenceRefs,
        x.evidenceId = y.evidenceId → x = y :=
    fun x hx y hy heq => List.inj_on_of_nodup_map hnodup hx hy heq
  rw [resolvedEvidence, sortedBy_congr hid (search_referenced "1")]
  simp [sortedBy, indexAt_lt_vectorsAt.le]

/-- One reference is kept: the index at revision 1, the vectors at revision 2. -/
theorem search_not_keepsSupport : ¬ KeepsSupport oneReferencePolicy (searchState "1") renameRevision
    (searchCapability "1").evidenceRefs := by
  have hunder : underNewIds renameRevision [indexAt "1", vectorsAt "1"] =
      [vectorsAt "1", indexAt "1"] := by
    have hne := search_distinct "2"
    have hnodup : ([indexAt "1", vectorsAt "1"].map fun e =>
        renameRevision e.evidenceId).Nodup := by
      simp [renameRevision_index, renameRevision_vectors, hne]
    rw [underNewIds, Table.rows_ofRows_of_nodup hnodup]
    simp [sortedBy, renameRevision_index, renameRevision_vectors, not_le.2 vectorsAt_lt_indexAt]
  have hbound : oneReferencePolicy.maximumEvidenceRefsPerCandidate = 1 := rfl
  rw [keepsSupport_iff, keptEvidence, search_resolved, hunder, hbound]
  simp only [List.take_succ_cons, List.take_zero, List.map_cons, List.map_nil]
  intro hperm
  have hsupport := List.singleton_perm_singleton.1 hperm
  have hlocator : stableLocator (indexAt "1") = stableLocator (vectorsAt "1") :=
    congrArg (fun support => support.2.2) hsupport
  simp [stableLocator, orElse, indexAt, vectorsAt, implementedIn, makeEvidenceRecord, fileAt]
    at hlocator

theorem search_renamed : (PublishedRecord.capability (searchCapability "1")).renameRefs
    renameRevision = .capability (searchCapability "2") := by
  simp [PublishedRecord.renameRefs, searchCapability, renameRevision_index, renameRevision_vectors]

theorem key_local_new_revision : ∃ x y : LoweredCandidate,
    (y.candidateId = x.candidateId ∧ y.idempotencyKey = x.idempotencyKey) ↔
      KeepsSupport oneReferencePolicy (searchState "1") renameRevision
        (searchCapability "1").evidenceRefs := by
  obtain ⟨x, hx⟩ := search_lowers "1"
  obtain ⟨y, hy⟩ := search_lowers "2"
  rw [← search_renamed] at hy
  have hcodec : revisionCodec.Faithful := frontCodec_faithful _
  have hlocal := key_local_iff hcodec searchReobservation hx hy
  exact ⟨x, y, hlocal⟩

/-- The key is not local to the evidence bytes. -/
theorem key_not_local :
    ¬ ∀ (c : Codec), c.Faithful → ∀ (policy : PublicationPolicy) (packet packet' : TopologyPacket)
      (publishedAt publishedAt' : Timestamp) (state state' : TopologyState)
      (rename : String → String),
      Reobservation c state state' rename → ∀ record ∈ state.capabilityRecords, ∀ x y,
      (PublishedRecord.capability record).lower c policy packet (TopologyIndex.build state)
        publishedAt = .ok x →
      ((PublishedRecord.capability record).renameRefs rename).lower c policy packet'
        (TopologyIndex.build state') publishedAt' = .ok y →
      y.candidateId = x.candidateId ∧ y.idempotencyKey = x.idempotencyKey := by
  intro h
  obtain ⟨x, hx⟩ := search_lowers "1"
  obtain ⟨y, hy⟩ := search_lowers "2"
  rw [← search_renamed] at hy
  have hcodec : revisionCodec.Faithful := frontCodec_faithful _
  have hkey := (h _ hcodec _ _ _ _ _ _ _ _ searchReobservation _ List.mem_cons_self x y hx hy).2
  exact search_not_keepsSupport
    ((key_eq_iff_keepsSupport hcodec searchReobservation hx hy).1 hkey)

end ConstellationTopology
