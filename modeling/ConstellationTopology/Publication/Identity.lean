import ConstellationTopology.Library.Collection
import ConstellationTopology.Publication.Contracts

set_option autoImplicit false

/-! # Identity of facts and effects

`publication/identity.py`: `candidate_id` names the logical fact, the effect key the exact durable
write requested for it. Under a faithful codec the key says what it was computed from, and nothing
else (`idempotencyKey_eq_iff`). -/

namespace ConstellationTopology

/-- `PUBLICATION_EXCLUDED_FIELDS`. -/
def publicationExcludedFields : List String :=
  volatileFields ++ ["calibrated_at", "observed_at", "published_at", "source_observed_at",
    "transformed_at", "valid_from", "plan_id"]

/-- The hexadecimal part of `publication_semantic_hash`. -/
def Codec.publicationDigest (c : Codec) (value : Json) : String :=
  c.sha256 (c.canonicalBytes (value.dropKeys publicationExcludedFields))

/-- `publication_semantic_hash`. -/
def Codec.publicationSemanticHash (c : Codec) (value : Json) : String :=
  "sha256:" ++ c.publicationDigest value

/-- `bare_digest`. -/
def bareDigest (value : Option String) : Option String :=
  value.bind fun text =>
    let candidate := lowerAscii (strip (removeMarker "sha256:" text))
    if IsSha256Hex candidate then some candidate else none

theorem bareDigest_hex {value : Option String} {digest : String} (h : bareDigest value = some digest) :
    IsSha256Hex digest := by
  unfold bareDigest at h
  rw [Option.bind_eq_some_iff] at h
  obtain ⟨text, -, h⟩ := h
  dsimp only at h
  split at h
  · next hhex => rwa [← Option.some.inj h]
  · cases h

/-! ## The fact -/

/-- `candidate_identity`. -/
structure CandidateIdentity where
  operation : String
  candidateKind : CandidateKind
  memoryNamespace : String
  memoryClass : MemoryClassName
  content : String
  assertion : Option MemoryAssertion
  sourceTopologyEntityIds : List String
  deriving DecidableEq, Repr

/-- The dumped assertion. -/
def MemoryAssertion.toJson (assertion : MemoryAssertion) : Json :=
  .obj [("subject", .str assertion.subject), ("predicate", .str assertion.predicate),
    ("object", .str assertion.object)]

/-- A value that may be `None`, in a plain dictionary. -/
def nullable {α : Type*} (toJson : α → Json) : Option α → Json
  | none => .null
  | some value => toJson value

/-- The dumped identity. -/
def CandidateIdentity.toJson (identity : CandidateIdentity) : Json :=
  .obj [("operation", .str identity.operation),
    ("candidate_kind", .str identity.candidateKind.value),
    ("namespace", .str identity.memoryNamespace),
    ("memory_class", .str identity.memoryClass.value),
    ("content", .str identity.content),
    ("assertion", nullable MemoryAssertion.toJson identity.assertion),
    ("source_topology_entity_ids", Json.strings identity.sourceTopologyEntityIds)]

/-- The id of a candidate. -/
def candidateId (c : Codec) (identity : CandidateIdentity) : String :=
  "publication-candidate:" ++ c.publicationDigest identity.toJson

/-! ## The effect -/

/-- `confidence_semantics`. -/
structure ConfidenceSemantics where
  score : ℚ
  method : ConfidenceMethodName
  evidenceCount : ℕ
  confidencePolicyVersion : String
  deriving DecidableEq

/-- The dumped confidence. -/
def ConfidenceSemantics.toJson (confidence : ConfidenceSemantics) : Json :=
  .obj [("score", .float confidence.score),
    ("method", .str confidence.method.value),
    ("evidence_count", .int confidence.evidenceCount),
    ("confidence_policy_version", .str confidence.confidencePolicyVersion)]

/-- `evidence_semantics`. -/
structure EvidenceSemantics where
  evidenceKind : EvidenceKindName
  sourceContentDigest : Option String
  stableSourceLocator : Option String
  deriving DecidableEq, Repr

/-- The dumped evidence. -/
def EvidenceSemantics.toJson (evidence : EvidenceSemantics) : Json :=
  .obj [("evidence_kind", .str evidence.evidenceKind.value),
    ("source_content_digest", nullable .str evidence.sourceContentDigest),
    ("stable_source_locator", nullable .str evidence.stableSourceLocator)]

variable (c : Codec)

/-- `effect_identity`. -/
def effectIdentity (identity : CandidateIdentity) (contractVersion : String)
    (localEvidence : List EvidenceSemantics) (confidence : ConfidenceSemantics)
    (derivationKind : Option EvidenceKindName) : Json :=
  .obj [("domain", .str "l9.memory-effect-id/v3"),
    ("candidate_id", .str (candidateId c identity)),
    ("lowering_contract_version", .str contractVersion),
    ("local_evidence_semantics", .arr ((sortedBy
      (fun item => c.publicationSemanticHash item.toJson) localEvidence).map
        EvidenceSemantics.toJson)),
    ("derivation_kind", nullable (fun kind => .str kind.value) derivationKind),
    ("confidence_semantics", confidence.toJson)]

/-- `IDEMPOTENCY_ALGORITHM_VERSION`. -/
def idempotencyAlgorithmVersion : String := "v3"

/-- The key of a candidate under a version of the contract. -/
def idempotencyKey (identity : CandidateIdentity) (contractVersion : String)
    (localEvidence : List EvidenceSemantics) (confidence : ConfidenceSemantics)
    (derivationKind : Option EvidenceKindName) : String :=
  "l9-topology-publication/" ++ idempotencyAlgorithmVersion ++ ":" ++ c.publicationDigest
    (effectIdentity c identity contractVersion localEvidence confidence derivationKind)

/-! ## What a digest says -/

/-- What `publication_semantic_hash` sees of a value. -/
def Json.publicationView (value : Json) : Json :=
  (value.dropKeys publicationExcludedFields).canonicalData

section View

open Json

theorem get?_publicationView {key : String} (value : Json)
    (h : key ∉ publicationExcludedFields) :
    value.publicationView.get? key = (value.get? key).map publicationView := by
  unfold publicationView
  rw [get?_canonicalData, get?_dropKeys _ _ _ h, Option.map_map]
  rfl

@[simp] theorem publicationView_str (text : String) : (str text).publicationView = str text := rfl

@[simp] theorem publicationView_int (n : ℤ) : (int n).publicationView = int n := rfl

@[simp] theorem publicationView_float (q : ℚ) : (float q).publicationView = float q := rfl

@[simp] theorem publicationView_null : null.publicationView = null := rfl

@[simp] theorem publicationView_arr (items : List Json) :
    (arr items).publicationView = arr (items.map publicationView) := by
  rw [publicationView, dropKeys, dropKeysItems_eq_map, canonicalData, canonicalItems_eq_map,
    List.map_map]
  rfl

/-- Objects with one view have one view of each field. -/
theorem field_eq_of_view_eq (key : String) (hkey : key ∉ publicationExcludedFields) {v w x y : Json}
    (h : v.publicationView = w.publicationView) (hx : v.get? key = some x)
    (hy : w.get? key = some y) : x.publicationView = y.publicationView := by
  have hfield := congrArg (Json.get? key) h
  rw [get?_publicationView _ hkey, get?_publicationView _ hkey, hx, hy] at hfield
  exact Option.some.inj hfield

theorem publicationView_strings_inj {xs ys : List String}
    (h : (strings xs).publicationView = (strings ys).publicationView) : xs = ys := by
  simp only [strings, publicationView_arr, arr.injEq, List.map_map] at h
  have hstr : Function.Injective (publicationView ∘ str) := fun _ _ heq => str.inj heq
  exact List.map_injective_iff.2 hstr h

theorem publicationView_nullable_inj {α : Type*} (toJson : α → Json) {x y : Option α}
    (hnull : ∀ v, (toJson v).publicationView ≠ null)
    (hinj : ∀ v w, (toJson v).publicationView = (toJson w).publicationView → v = w)
    (h : (nullable toJson x).publicationView = (nullable toJson y).publicationView) : x = y := by
  cases x with
  | none =>
      cases y with
      | none => rfl
      | some w => exact absurd h.symm (hnull w)
  | some v =>
      cases y with
      | none => exact absurd h (hnull v)
      | some w => rw [hinj v w h]

theorem MemoryAssertion.view_inj (v w : MemoryAssertion)
    (h : v.toJson.publicationView = w.toJson.publicationView) : v = w := by
  have hsubject := field_eq_of_view_eq "subject" (by decide) h rfl rfl
  have hpredicate := field_eq_of_view_eq "predicate" (by decide) h rfl rfl
  have hobject := field_eq_of_view_eq "object" (by decide) h rfl rfl
  obtain ⟨subject, predicate, object⟩ := v
  obtain ⟨subject', predicate', object'⟩ := w
  cases hsubject
  cases hpredicate
  cases hobject
  rfl

theorem CandidateIdentity.view_inj (v w : CandidateIdentity)
    (h : v.toJson.publicationView = w.toJson.publicationView) : v = w := by
  have hoperation := field_eq_of_view_eq "operation" (by decide) h rfl rfl
  have hkind := field_eq_of_view_eq "candidate_kind" (by decide) h rfl rfl
  have hnamespace := field_eq_of_view_eq "namespace" (by decide) h rfl rfl
  have hclass := field_eq_of_view_eq "memory_class" (by decide) h rfl rfl
  have hcontent := field_eq_of_view_eq "content" (by decide) h rfl rfl
  have hassertion := publicationView_nullable_inj MemoryAssertion.toJson (fun _ => nofun)
    MemoryAssertion.view_inj
    (field_eq_of_view_eq "assertion" (by decide) h rfl rfl)
  have hids := publicationView_strings_inj
    (field_eq_of_view_eq "source_topology_entity_ids" (by decide) h rfl rfl)
  have hkind := CandidateKind.value_injective (str.inj hkind)
  have hclass := MemoryClassName.value_injective (str.inj hclass)
  obtain ⟨operation, kind, memoryNamespace, memoryClass, content, assertion, ids⟩ := v
  obtain ⟨operation', kind', memoryNamespace', memoryClass', content', assertion', ids'⟩ := w
  cases hoperation
  cases hnamespace
  cases hcontent
  cases hkind
  cases hclass
  cases hassertion
  cases hids
  rfl

theorem EvidenceSemantics.view_inj (v w : EvidenceSemantics)
    (h : v.toJson.publicationView = w.toJson.publicationView) : v = w := by
  have hkind := field_eq_of_view_eq "evidence_kind" (by decide) h rfl rfl
  have hdigest := publicationView_nullable_inj str (fun _ => nofun) (fun _ _ => str.inj)
    (field_eq_of_view_eq "source_content_digest" (by decide) h rfl rfl)
  have hlocator := publicationView_nullable_inj str (fun _ => nofun) (fun _ _ => str.inj)
    (field_eq_of_view_eq "stable_source_locator" (by decide) h rfl rfl)
  have hkind := EvidenceKindName.value_injective (str.inj hkind)
  obtain ⟨kind, digest, locator⟩ := v
  obtain ⟨kind', digest', locator'⟩ := w
  cases hkind
  cases hdigest
  cases hlocator
  rfl

theorem ConfidenceSemantics.view_inj (v w : ConfidenceSemantics)
    (h : v.toJson.publicationView = w.toJson.publicationView) : v = w := by
  have hscore := field_eq_of_view_eq "score" (by decide) h rfl rfl
  have hmethod := field_eq_of_view_eq "method" (by decide) h rfl rfl
  have hcount := field_eq_of_view_eq "evidence_count" (by decide) h rfl rfl
  have hversion := field_eq_of_view_eq "confidence_policy_version" (by decide) h rfl rfl
  have hmethod := ConfidenceMethodName.value_injective (str.inj hmethod)
  have hcount := Int.ofNat.inj (int.inj hcount)
  obtain ⟨score, method, count, version⟩ := v
  obtain ⟨score', method', count', version'⟩ := w
  cases hscore
  cases hmethod
  cases hcount
  cases hversion
  rfl

end View

/-! ## What the key says -/

section Key

variable {c}

theorem Codec.Faithful.publicationDigest_inj (hc : c.Faithful) {v w : Json} :
    c.publicationDigest v = c.publicationDigest w ↔ v.publicationView = w.publicationView := by
  unfold Codec.publicationDigest Json.publicationView
  rw [hc.sha256_inj.eq_iff, hc.canonicalBytes_inj]

theorem candidateId_inj (hc : c.Faithful) {v w : CandidateIdentity} :
    candidateId c v = candidateId c w ↔ v = w := by
  constructor
  · intro h
    exact v.view_inj w (hc.publicationDigest_inj.1 (append_left_cancel h))
  · exact fun h => by rw [h]

/-- The order in which evidence was resolved is not in the key. -/
theorem sortedBy_hash_eq_iff (hc : c.Faithful) {xs ys : List EvidenceSemantics} :
    sortedBy (fun item : EvidenceSemantics => c.publicationSemanticHash item.toJson) xs =
        sortedBy (fun item : EvidenceSemantics => c.publicationSemanticHash item.toJson) ys ↔
      xs.Perm ys := by
  constructor
  · intro h
    exact (sortedBy_perm _ xs).symm.trans (h ▸ sortedBy_perm _ ys)
  · refine sortedBy_congr fun x _ y _ h => ?_
    exact x.view_inj y (hc.publicationDigest_inj.1 (append_left_cancel h))

/-- **The key.** Two keys are the same exactly when they were computed from the same fact, the same
    lowering contract, the same evidence in any order, and the same confidence. -/
theorem idempotencyKey_eq_iff (hc : c.Faithful) {v w : CandidateIdentity} {m n : String}
    {xs ys : List EvidenceSemantics} {p q : ConfidenceSemantics} {k l : Option EvidenceKindName} :
    idempotencyKey c v m xs p k = idempotencyKey c w n ys q l ↔
      v = w ∧ m = n ∧ xs.Perm ys ∧ p = q ∧ k = l := by
  constructor
  · intro h
    have hview := hc.publicationDigest_inj.1 (append_left_cancel h)
    have hid := field_eq_of_view_eq "candidate_id" (by decide) hview rfl rfl
    have hversion := field_eq_of_view_eq "lowering_contract_version" (by decide) hview rfl rfl
    have hevidence := field_eq_of_view_eq "local_evidence_semantics" (by decide) hview rfl rfl
    have hkind := field_eq_of_view_eq "derivation_kind" (by decide) hview rfl rfl
    have hconfidence := field_eq_of_view_eq "confidence_semantics" (by decide) hview rfl rfl
    have hitems : Function.Injective (Json.publicationView ∘ EvidenceSemantics.toJson) :=
      EvidenceSemantics.view_inj
    simp only [publicationView_arr, Json.arr.injEq, List.map_map] at hevidence
    refine ⟨(candidateId_inj hc).1 (Json.str.inj hid), Json.str.inj hversion, ?_,
      p.view_inj q hconfidence, ?_⟩
    · exact (sortedBy_hash_eq_iff hc).1 (List.map_injective_iff.2 hitems hevidence)
    · exact publicationView_nullable_inj (fun kind : EvidenceKindName => .str kind.value)
        (fun _ => nofun) (fun _ _ heq => EvidenceKindName.value_injective (Json.str.inj heq)) hkind
  · rintro ⟨rfl, rfl, hperm, rfl, rfl⟩
    unfold idempotencyKey effectIdentity
    rw [(sortedBy_hash_eq_iff hc).2 hperm]

end Key

end ConstellationTopology
