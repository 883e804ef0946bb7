import ConstellationTopology.Domain.Claim

set_option autoImplicit false

/-! # The predicate registry

`reconciliation/predicates.py`: the predicates the compiler has a rule for, and the arity the rule
gives them. -/

namespace ConstellationTopology

/-! ## Governed header fields -/

/-- A field of a declared header: its name, category and kind of value. -/
structure HeaderField where
  field : String
  category : String
  valueKind : String

/-- `HEADER_SCHEMA_NAMESPACES`. -/
def headerSchemaNamespaces : List String := ["l9v1", "l9v2"]

/-- `HEADER_FIELDS`. -/
def headerFields : List HeaderField :=
  [⟨"id", "identity", "label"⟩,
    ⟨"origin", "identity", "label"⟩,
    ⟨"engine", "identity", "label"⟩,
    ⟨"namespace", "identity", "label"⟩,
    ⟨"component", "identity", "label"⟩,
    ⟨"canonical_path", "identity", "path"⟩,
    ⟨"version", "identity", "label"⟩,
    ⟨"title", "identity", "text"⟩,
    ⟨"source_repo", "identity", "text"⟩,
    ⟨"source_file", "identity", "text"⟩,
    ⟨"source_adr", "identity", "label"⟩,
    ⟨"layer", "classification", "label_list"⟩,
    ⟨"tags", "classification", "label_list"⟩,
    ⟨"artifact_type", "classification", "label"⟩,
    ⟨"status", "classification", "label"⟩,
    ⟨"ring", "classification", "label"⟩,
    ⟨"category", "classification", "label"⟩,
    ⟨"owner", "governance", "label"⟩,
    ⟨"ssot_for", "governance", "label_list"⟩,
    ⟨"canonical", "governance", "label"⟩,
    ⟨"canonical_source", "governance", "url"⟩,
    ⟨"single_source_rule", "governance", "text"⟩,
    ⟨"retrieval", "retrieval", "label"⟩,
    ⟨"load_when", "retrieval", "label_list"⟩,
    ⟨"load_condition", "retrieval", "text"⟩,
    ⟨"references", "retrieval", "reference_list"⟩,
    ⟨"requires", "retrieval", "reference_list"⟩,
    ⟨"amplifies", "retrieval", "reference_list"⟩,
    ⟨"retrieval_keys", "retrieval", "text"⟩,
    ⟨"token_estimate", "retrieval", "count"⟩]

/-- `_SET_VALUE_KINDS`. -/
def setValueKinds : List String := ["label_list", "reference_list"]

/-- The predicates of the header fields that pass the test, in every schema namespace. -/
def headerPredicates (test : HeaderField → Bool) : List String :=
  headerSchemaNamespaces.flatMap fun headerNamespace =>
    (headerFields.filter test).map fun field =>
      "meta." ++ headerNamespace ++ "." ++ field.category ++ "." ++ field.field

/-- The field may have several values. -/
def HeaderField.setValued (field : HeaderField) : Bool := field.valueKind ∈ setValueKinds

/-- `HEADER_STRUCTURE_PREDICATES`. -/
def headerStructurePredicates : List String :=
  ["meta.declaration.carrier", "meta.declaration.schema"]

/-- `MANAGED_HEADER_FIELDS`. -/
def managedHeaderFields : List HeaderField :=
  [⟨"id", "identity", "label"⟩,
    ⟨"title", "identity", "text"⟩,
    ⟨"namespace", "identity", "label"⟩,
    ⟨"source_path", "identity", "path"⟩,
    ⟨"artifact_type", "classification", "label"⟩,
    ⟨"family", "classification", "label"⟩,
    ⟨"mcp_primitive", "classification", "label"⟩,
    ⟨"callable", "classification", "boolean"⟩,
    ⟨"retrievable", "classification", "boolean"⟩,
    ⟨"injectable", "classification", "boolean"⟩,
    ⟨"authority", "governance", "label"⟩,
    ⟨"owner", "governance", "label"⟩,
    ⟨"sharing_scope", "governance", "label"⟩]

/-- The keys of `MANAGED_DECLARATION_PREDICATES`. -/
def managedDeclarationPredicates : List String :=
  managedHeaderFields.map fun field => "meta.managed." ++ field.category ++ "." ++ field.field

/-- `FIELD_OBSERVATION_NAMESPACES`. -/
def fieldObservationNamespaces : List String := headerSchemaNamespaces ++ ["managed"]

/-- `UNRESOLVED_FIELD_PREDICATES`. -/
def unresolvedFieldPredicates : List String :=
  fieldObservationNamespaces.map fun fieldNamespace => "meta." ++ fieldNamespace ++ ".unresolved_field"

/-- `UNSUPPORTED_FIELD_PREDICATES`. -/
def unsupportedFieldPredicates : List String :=
  (fieldObservationNamespaces.map fun fieldNamespace =>
    "meta." ++ fieldNamespace ++ ".unsupported_field") ++ ["meta.unversioned.field"]

/-- `FIELD_OBSERVATION_PREDICATES`. -/
def fieldObservationPredicates : List String :=
  unresolvedFieldPredicates ++ unsupportedFieldPredicates

/-- `DECLARATION_ONLY_PREDICATES`. -/
def declarationOnlyPredicates : List String :=
  headerPredicates (fun _ => true) ++ managedDeclarationPredicates ++ headerStructurePredicates
    ++ fieldObservationPredicates

/-! ## The three classes -/

/-- `SET_VALUED_PREDICATES`. -/
def setValuedPredicates : List String :=
  ["authority.canonical_contract",
    "contract.invariant",
    "http.handler_body_marker",
    "http.route",
    "http.route_handler",
    "package.dependency",
    "repository.disclaimed_role",
    "repository.self_described_role",
    "service.action",
    "document.heading",
    "work.task.open",
    "work.task.completed",
    "work.milestone",
    "work.depends_on",
    "work.blocked_by",
    "work.references",
    "work.supersedes",
    "work.superseded_by"]
  ++ headerPredicates HeaderField.setValued

/-- `SINGLE_VALUED_PREDICATES`. -/
def singleValuedPredicates : List String :=
  ["authority.canonical_contract_count",
    "package.build_backend",
    "package.framework",
    "package.name",
    "package.packaging_system",
    "package.python_constraint",
    "package.server",
    "package.version",
    "repository.replaced_by",
    "repository.status",
    "service.name",
    "service.version",
    "document.title",
    "work.status",
    "work.kind"]
  ++ headerPredicates (fun field => ¬ field.setValued)
  ++ managedDeclarationPredicates

/-- `AUXILIARY_PREDICATES`. -/
def auxiliaryPredicates : List String :=
  ["authority.unresolved_reference", "contract.declares_invariants"]
  ++ headerStructurePredicates ++ fieldObservationPredicates

/-- `UNSUPPORTED_PREDICATE_REASON`. -/
def unsupportedPredicateReason : String :=
  "assertion predicate has no declared rule in the predicate registry, so its claims " ++
  "were preserved with their evidence but neither aggregated, treated as a " ++
  "contradiction, nor projected into stronger topology semantics"

/-- `UNSUPPORTED_PREDICATE_CODE`. -/
def unsupportedPredicateCode : String := "assertion-predicate-unsupported"

/-- `SUPPORTED_PREDICATES`. -/
def supportedPredicates : List String :=
  setValuedPredicates ++ singleValuedPredicates ++ auxiliaryPredicates

/-- Whether a rule is declared for the predicate. -/
def predicateSupport (predicate : String) : PredicateSupport :=
  if predicate ∈ setValuedPredicates then .set
  else if predicate ∈ singleValuedPredicates then .single
  else if predicate ∈ auxiliaryPredicates then .auxiliary
  else .unsupported

/-- The arity of a class. -/
def PredicateSupport.cardinality : PredicateSupport → Cardinality
  | set | auxiliary => .set
  | single => .single
  | unsupported => .unknown

/-- How many answers a question of the predicate has. -/
def predicateCardinality (predicate : String) : Cardinality :=
  (predicateSupport predicate).cardinality

/-- `PROJECTION_WITHHELD_CONFLICT_STATUSES`. -/
def projectionWithheldConflictStatuses : List ConflictStatus := [.possible, .confirmed]

/-- `is_projectable`. -/
def isProjectable (predicate : String) : Bool :=
  predicate ∉ declarationOnlyPredicates ∧
    predicateSupport predicate ∈ [PredicateSupport.set, PredicateSupport.single]

/-- The check the module makes at import: no predicate is declared with two classifications. -/
theorem classified_disjoint :
    List.Disjoint setValuedPredicates singleValuedPredicates ∧
      List.Disjoint setValuedPredicates auxiliaryPredicates ∧
      List.Disjoint singleValuedPredicates auxiliaryPredicates := by
  have hdisjoint : (∀ p ∈ setValuedPredicates, p ∉ singleValuedPredicates) ∧
      (∀ p ∈ setValuedPredicates, p ∉ auxiliaryPredicates) ∧
      ∀ p ∈ singleValuedPredicates, p ∉ auxiliaryPredicates := by
    decide +kernel
  exact ⟨fun p hp => hdisjoint.1 p hp, fun p hp => hdisjoint.2.1 p hp,
    fun p hp => hdisjoint.2.2 p hp⟩

/-- A predicate without a rule is exactly one of unknown arity. -/
theorem predicateCardinality_eq_unknown_iff (predicate : String) :
    predicateCardinality predicate = .unknown ↔ predicateSupport predicate = .unsupported := by
  unfold predicateCardinality
  cases predicateSupport predicate <;> simp [PredicateSupport.cardinality]

end ConstellationTopology
