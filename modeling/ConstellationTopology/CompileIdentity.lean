import ConstellationTopology.CompileAcceptance
import ConstellationTopology.Packets.PacketRoundTrip
import ConstellationTopology.Run.SemanticFields

set_option autoImplicit false

/-! # What a compiled packet stands for

The id of a packet stands for the payload bytes, the policies and the inputs, and not for the moment
of the compile. -/

namespace ConstellationTopology

variable {env : CompileEnvironment} {configuration : ResolvedConfiguration}
  {inputs : List RepositoryInput} {corpora : List CorpusAnalysisPacket}

/-! ## The moment of a compile -/

/-- The schema engine reads the moment of a packet as a text, whatever it says. -/
def SchemaEngine.TimeBlind (engine : SchemaEngine) : Prop :=
  ∀ packet createdAt, engine.packetErrors { packet with createdAt } = engine.packetErrors packet

/-- The files of a bundle that carry a moment. -/
def timedPaths : List String :=
  ["manifest.json", "packet.json", "receipts/validation-receipt.json"]

/-- Two results differ in their moments and in what is hashed with them. -/
structure SameTopology {c : Codec} (result result' : CompilationResult c) : Prop where
  state : result'.state = result.state
  packet : result'.packet = { result.packet with
    createdAt := result'.packet.createdAt, artifactHash := result'.packet.artifactHash }
  receipt : result'.receipt = { result.receipt with createdAt := result'.receipt.createdAt }
  paths : result'.artifacts.map RenderedArtifact.destinationPath =
    result.artifacts.map RenderedArtifact.destinationPath
  payloads : ∀ artifact ∈ result.artifacts, artifact.destinationPath ∉ timedPaths →
    artifact ∈ result'.artifacts

/-- Two compiles end alike: with the same topology, or with the same error. -/
def SameOutcome {c : Codec} : Except CompileError (CompilationResult c) →
    Except CompileError (CompilationResult c) → Prop
  | .ok result, .ok result' => SameTopology result result'
  | .error (.raised message), .error (.raised message') => message' = message
  | .error (.corpusInvalid errors), .error (.corpusInvalid errors') => errors' = errors
  | .error (.validationFailed receipt), .error (.validationFailed receipt') =>
      receipt' = { receipt with createdAt := receipt'.createdAt }
  | _, _ => False

section Moment

variable {engine : SchemaEngine} {profile : ProfileRef} {timestamp timestamp' : Timestamp}
  {state : TopologyState}

theorem invariantChecks_createdAt (c : Codec) (packet : TopologyPacket) :
    invariantChecks c { packet with createdAt := timestamp' } state =
      invariantChecks c packet state := rfl

theorem crossReferenceChecks_createdAt (packet : TopologyPacket)
    (inputBundles : List RepositoryModelBundle) (corpusBundles : List CorpusIntelligenceBundle) :
    crossReferenceChecks { packet with createdAt := timestamp' } state inputBundles corpusBundles =
      crossReferenceChecks packet state inputBundles corpusBundles := rfl

theorem identified_createdAt (c : Codec) (candidate : TopologyPacket) :
    ({ candidate with createdAt := timestamp' } : TopologyPacket).identified c =
      { candidate.identified c with createdAt := timestamp' } := rfl

/-- The receipt of some checks, before it has an identity. -/
def receiptOfChecks (packet : TopologyPacket) (schema invariant evidence crossReference :
    List ValidationCheck) (createdAt : Timestamp) : ValidationReceipt where
  receiptId := "receipt:pending"
  subjectPacketId := packet.packetId
  subjectSemanticHash := packet.semanticHash
  validator := ⟨"l9-constellation-topology", "2.0.0"⟩
  status := if ∃ check ∈ schema ++ invariant ++ evidence ++ crossReference,
    check.status = .failed then .failed else .passed
  schemaResults := schema
  invariantResults := invariant
  evidenceResults := evidence
  crossReferenceResults := crossReference
  createdAt := createdAt
  semanticHash := "sha256:pending"

theorem validateTopology_eq (packet : TopologyPacket) (inputBundles : List RepositoryModelBundle)
    (corpusBundles : List CorpusIntelligenceBundle) (c : Codec) :
    validateTopology packet state inputBundles corpusBundles c engine timestamp =
      finalizeValidationReceipt c (receiptOfChecks packet (schemaChecks engine packet state)
        (invariantChecks c packet state) (evidenceChecks state)
        (crossReferenceChecks packet state inputBundles corpusBundles) timestamp) := rfl

/-- A packet and its receipt pass alike, and under the same identity, at another moment. -/
theorem validateTopology_createdAt (hblind : engine.TimeBlind) (timestamp timestamp' : Timestamp)
    (packet : TopologyPacket)
    (inputBundles : List RepositoryModelBundle) (corpusBundles : List CorpusIntelligenceBundle)
    (c : Codec) :
    validateTopology { packet with createdAt := timestamp' } state inputBundles corpusBundles c
        engine timestamp' =
      { validateTopology packet state inputBundles corpusBundles c engine timestamp with
        createdAt := timestamp' } := by
  have hschema : schemaChecks engine { packet with createdAt := timestamp' } state =
      schemaChecks engine packet state := by
    simp only [schemaChecks, hblind packet timestamp']
  rw [validateTopology_eq, validateTopology_eq, hschema, invariantChecks_createdAt,
    crossReferenceChecks_createdAt]
  generalize schemaChecks engine packet state = schema
  generalize invariantChecks c packet state = invariant
  generalize evidenceChecks state = evidence
  generalize crossReferenceChecks packet state inputBundles corpusBundles = crossReference
  rfl

theorem validateState_createdAt (hblind : env.engine.TimeBlind)
    (configuration : ResolvedConfiguration) (profile : ProfileRef)
    (inputs : List RepositoryInput) (corpora : List CorpusAnalysisPacket)
    (timestamp timestamp' : Timestamp) (state : TopologyState) :
    validateState env configuration profile inputs corpora timestamp' state =
      ({ (validateState env configuration profile inputs corpora timestamp state).1 with
          createdAt := timestamp' },
        { (validateState env configuration profile inputs corpora timestamp state).2 with
          createdAt := timestamp' }) := by
  have hpending : pendingPacket env configuration profile (topologyInputs inputs corpora) state
      timestamp' = { pendingPacket env configuration profile (topologyInputs inputs corpora) state
        timestamp with createdAt := timestamp' } := rfl
  simp only [validateState]
  rw [hpending, identified_createdAt, validateTopology_createdAt hblind timestamp timestamp']

/-- A payload document does not depend on when its packet was made. -/
theorem bundleDocuments_payload {packet packet' : TopologyPacket}
    {receipt receipt' : ValidationReceipt} {documents documents' : List BundleDocument}
    (hhashes : packet'.payloadHashes = packet.payloadHashes)
    (hid : packet'.packetId = packet.packetId)
    (h : bundleDocuments packet state receipt = .ok documents)
    (h' : bundleDocuments packet' state receipt' = .ok documents') :
    ∃ payloads, documents = payloads ++ coreDocuments packet receipt ∧
      documents' = payloads ++ coreDocuments packet' receipt' := by
  have hpayload : payloadDocument packet' = payloadDocument packet := by
    funext domain
    simp only [payloadDocument, hhashes, hid]
  obtain ⟨payloads, hpayloads, rfl⟩ := map_eq_ok.1 h
  obtain ⟨payloads', hpayloads', rfl⟩ := map_eq_ok.1 h'
  rw [hpayload] at hpayloads'
  obtain rfl := Except.ok.inj (hpayloads.symm.trans hpayloads')
  exact ⟨payloads, rfl, rfl⟩

/-- The artifacts of two moments: the same paths, and the same payload files. -/
theorem artifacts_createdAt {c : Codec} {packet packet' : TopologyPacket}
    {receipt receipt' : ValidationReceipt} {artifacts artifacts' : List (RenderedArtifact c)}
    (h : buildTopologyBundleArtifacts c packet state receipt timestamp = .ok artifacts)
    (h' : buildTopologyBundleArtifacts c packet' state receipt' timestamp' = .ok artifacts')
    (hhashes : packet'.payloadHashes = packet.payloadHashes)
    (hid : packet'.packetId = packet.packetId) :
    artifacts'.map RenderedArtifact.destinationPath =
        artifacts.map RenderedArtifact.destinationPath ∧
      ∀ artifact ∈ artifacts, artifact.destinationPath ∉ timedPaths → artifact ∈ artifacts' := by
  obtain ⟨documents, contents, manifest, h⟩ := buildTopologyBundleArtifacts_eq_ok.1 h
  obtain ⟨documents', contents', manifest', h'⟩ := buildTopologyBundleArtifacts_eq_ok.1 h'
  refine ⟨h.paths.trans h'.paths.symm |>.symm, fun artifact hmem huntimed => ?_⟩
  obtain ⟨payloads, rfl, rfl⟩ := bundleDocuments_payload hhashes hid h.documents_eq h'.documents_eq
  obtain ⟨files, core, hfiles, hcore, hcontents⟩ := renders_append h.contents_render
  obtain ⟨files', core', hfiles', -, hcontents'⟩ := renders_append h'.contents_render
  obtain rfl := renders_unique hfiles hfiles'
  rw [h.artifacts_eq, mem_sortedBy, hcontents, List.append_assoc, List.mem_append] at hmem
  rw [h'.artifacts_eq, mem_sortedBy, hcontents', List.append_assoc, List.mem_append]
  refine .inl (hmem.resolve_right fun hmem => huntimed ?_)
  -- what is left are the packet, the receipt and the manifest
  have hpath := List.mem_map_of_mem (f := RenderedArtifact.destinationPath) hmem
  rw [List.map_append, map_path_of_renders hcore, List.map_singleton,
    h.manifest_renders.destinationPath] at hpath
  simp only [coreDocuments, manifestDocument, List.map_cons, List.map_nil, List.mem_append,
    List.mem_cons, List.not_mem_nil, or_false] at hpath
  simp only [timedPaths, List.mem_cons, List.not_mem_nil, or_false]
  tauto

end Moment

section Outcome

variable {c : Codec}

theorem SameOutcome.error (e : CompileError) :
    SameOutcome (.error e : Except CompileError (CompilationResult c)) (.error e) := by
  cases e with
  | raised message => exact rfl
  | corpusInvalid errors => exact rfl
  | validationFailed receipt => exact rfl

/-- A step that does not read the moment keeps the outcomes alike. -/
theorem SameOutcome.bind {α : Type} (x : Except CompileError α)
    {f g : α → Except CompileError (CompilationResult c)}
    (h : ∀ a, SameOutcome (f a) (g a)) : SameOutcome (x >>= f) (x >>= g) := by
  cases x with
  | error e => exact SameOutcome.error e
  | ok a => exact h a

end Outcome

theorem finishCompilation_createdAt (hblind : env.engine.TimeBlind)
    (timestamp timestamp' : Timestamp) (profile : ProfileRef) (state : TopologyState) :
    SameOutcome (finishCompilation env configuration inputs corpora timestamp profile state)
      (finishCompilation env configuration inputs corpora timestamp' profile state) := by
  have hvalidated := validateState_createdAt hblind configuration profile inputs corpora timestamp
    timestamp' state
  have hnames := validateState_names env configuration profile inputs corpora timestamp state
  simp only [finishCompilation, hvalidated]
  generalize validateState env configuration profile inputs corpora timestamp state = validated
    at hnames
  obtain ⟨packet, receipt⟩ := validated
  dsimp only at hnames ⊢
  by_cases hpassed : receipt.status = .passed
  · -- both are rendered
    obtain ⟨artifacts, h⟩ := exists_artifacts env.codec (packet.validated.sealed env) state receipt
      timestamp hpassed hnames
    obtain ⟨artifacts', h'⟩ := exists_artifacts env.codec
      (({ packet with createdAt := timestamp' } : TopologyPacket).validated.sealed env) state
      { receipt with createdAt := timestamp' } timestamp' hpassed hnames
    rw [demand, if_pos hpassed, demand, if_pos hpassed, h, h']
    obtain ⟨hpaths, hpayloads⟩ := artifacts_createdAt h h' rfl rfl
    exact SameTopology.mk rfl rfl rfl hpaths hpayloads
  · rw [demand, if_neg hpassed, demand, if_neg hpassed]
    exact rfl

theorem sameOutcome_createdAt (hblind : env.engine.TimeBlind)
    (createdAt createdAt' : Option Timestamp) :
    SameOutcome (compileTopology env configuration inputs corpora createdAt)
      (compileTopology env configuration inputs corpora createdAt') := by
  unfold compileTopology
  exact SameOutcome.bind _ fun _ => SameOutcome.bind _ fun _ => SameOutcome.bind _ fun state =>
    SameOutcome.bind _ fun profile => finishCompilation_createdAt hblind _ _ profile state

/-- The seal of a packet fixes its moment. -/
theorem sealed_createdAt_iff (hc : env.codec.Faithful) (packet : TopologyPacket)
    (timestamp timestamp' : Timestamp) :
    (({ packet with createdAt := timestamp } : TopologyPacket).sealed env).artifactHash =
        (({ packet with createdAt := timestamp' } : TopologyPacket).sealed env).artifactHash ↔
      timestamp = timestamp' := by
  constructor
  · intro h
    have hdata := hc.canonicalBytes_inj.1 (hc.artifactHash_inj.1 h)
    have hfield := congrArg (Json.get? "created_at") hdata
    rw [Json.get?_canonicalData, Json.get?_canonicalData] at hfield
    have htext := Json.str.inj (Option.some.inj hfield)
    exact Timestamp.mk.injEq .. |>.mpr htext
  · rintro rfl
    rfl

/-- **The moment of a compile is outside its meaning.** Two compiles of the same inputs end alike
whatever `created_at` they are given, with one state, one packet id and one receipt id; the artifact
hash of the packet is the same exactly if the moments are. -/
theorem compile_createdAt (env : CompileEnvironment) (hc : env.codec.Faithful)
    (hblind : env.engine.TimeBlind) (configuration : ResolvedConfiguration)
    (inputs : List RepositoryInput) (corpora : List CorpusAnalysisPacket)
    (createdAt createdAt' : Option Timestamp) :
    SameOutcome (compileTopology env configuration inputs corpora createdAt)
        (compileTopology env configuration inputs corpora createdAt') ∧
      ∀ result result', compileTopology env configuration inputs corpora createdAt = .ok result →
        compileTopology env configuration inputs corpora createdAt' = .ok result' →
          (result.packet.artifactHash = result'.packet.artifactHash ↔
            createdAt.getD canonicalCreatedAt = createdAt'.getD canonicalCreatedAt) := by
  refine ⟨sameOutcome_createdAt hblind createdAt createdAt', fun result result' h h' => ?_⟩
  obtain ⟨profile, h⟩ := compileTopology_eq_ok.1 h
  obtain ⟨profile', h'⟩ := compileTopology_eq_ok.1 h'
  obtain rfl := Except.ok.inj (h.profile_eq.symm.trans h'.profile_eq)
  rw [h.packet_eq, h'.packet_eq, Except.ok.inj (h'.state_eq.symm.trans h.state_eq)]
  exact sealed_createdAt_iff hc (validateState env configuration profile inputs corpora
    canonicalCreatedAt result.state).1.validated _ _

theorem compile_createdAt_notes :
    ∃ result result', compileTopology plainEnvironment plainConfiguration [planInput textCodec]
        [proposedNotes textCodec] none = .ok result ∧
      compileTopology plainEnvironment plainConfiguration [planInput textCodec]
        [proposedNotes textCodec] (some ⟨"2024-01-01T00:00:00Z"⟩) = .ok result' ∧
      SameTopology result result' ∧
      result.packet.artifactHash ≠ result'.packet.artifactHash := by
  obtain ⟨result, h⟩ : ∃ result, compileTopology plainEnvironment plainConfiguration
    [planInput textCodec] [proposedNotes textCodec] none = .ok result :=
      notes_compiled textCodec _ _ plainEnvironment.policies textCodec_faithful none
  obtain ⟨result', h'⟩ : ∃ result, compileTopology plainEnvironment plainConfiguration
    [planInput textCodec] [proposedNotes textCodec] (some ⟨"2024-01-01T00:00:00Z"⟩) = .ok result :=
      notes_compiled textCodec _ _ plainEnvironment.policies textCodec_faithful _
  have hboth := compile_createdAt plainEnvironment textCodec_faithful (fun _ _ => rfl)
    plainConfiguration [planInput textCodec] [proposedNotes textCodec] none
    (some ⟨"2024-01-01T00:00:00Z"⟩)
  rw [h, h'] at hboth
  refine ⟨result, result', h, h', hboth.1, fun heq => ?_⟩
  have hmoments := (hboth.2 result result' rfl rfl).1 heq
  exact absurd hmoments (by decide)

/-! ## The identity -/

theorem ValidationStatus.value_injective : Function.Injective ValidationStatus.value := by
  intro a b
  cases a <;> cases b <;> decide

/-- Two references name one input, in one validation status, of one subject and revision. -/
structure PacketRef.Names (ref ref' : PacketRef) : Prop where
  packetType : ref.packetType = ref'.packetType
  packetVersion : ref.packetVersion = ref'.packetVersion
  uri : ref.uri = ref'.uri
  validationStatus : ref.validationStatus = ref'.validationStatus
  subjectId : ref.subjectId = ref'.subjectId
  sourceRevision : ref.sourceRevision = ref'.sourceRevision

namespace PacketRef

/-- The ids and hashes of a packet are volatile: its identity is seen through the address alone. -/
theorem semantic_iff {ref ref' : PacketRef} :
    ref.toJson.semantic = ref'.toJson.semantic ↔ ref.Names ref' := by
  constructor
  · intro h
    have htext : ∀ (key : String) (x y : Option String), key ∉ volatileFields →
        ref.toJson.get? key = x.map .str → ref'.toJson.get? key = y.map .str → x = y :=
      fun _ _ _ hkey => Json.field_inj Json.str_semantic_inj h hkey
    have hstr : ∀ (key x y : String), key ∉ volatileFields →
        ref.toJson.get? key = some (.str x) → ref'.toJson.get? key = some (.str y) → x = y :=
      fun key x y hkey hx hy => Option.some.inj (htext key (some x) (some y) hkey hx hy)
    constructor
    · exact hstr "packet_type" _ _ (by decide) (get?_toJson _ _) (get?_toJson _ _)
    · exact hstr "packet_version" _ _ (by decide) (get?_toJson _ _) (get?_toJson _ _)
    · exact hstr "uri" _ _ (by decide) (get?_toJson _ _) (get?_toJson _ _)
    · exact ValidationStatus.value_injective
        (hstr "validation_status" _ _ (by decide) (get?_toJson _ _) (get?_toJson _ _))
    · exact htext "subject_id" _ _ (by decide) (get?_toJson _ _) (get?_toJson _ _)
    · exact htext "source_revision" _ _ (by decide) (get?_toJson _ _) (get?_toJson _ _)
  · intro h
    have hartifact : ∀ value : Option Json,
        ((optionalField "artifact_hash" value).filter fun field => field.1 ∉ volatileFields) =
          [] := by
      intro value
      cases value <;> simp [optionalField, volatileFields]
    unfold toJson
    rw [Json.semantic_obj, Json.semantic_obj]
    simp only [List.filter_append, List.filter_cons, hartifact, h.packetType, h.packetVersion,
      h.uri, h.validationStatus, h.subjectId, h.sourceRevision]
    simp [volatileFields]

end PacketRef

theorem semantic_arr_map {α : Type} (toJson : α → Json) (values : List α) :
    (Json.arr (values.map toJson)).semantic =
      .arr (values.map fun value => (toJson value).semantic) := by
  rw [Json.semantic, Json.dropKeys, Json.dropKeysItems_eq_map, Json.canonicalData,
    Json.canonicalItems_eq_map, List.map_map, List.map_map]
  rfl

/-- Two lists are alike to the hash if their elements are, one by one. -/
theorem semantic_arr_iff {α : Type} {toJson : α → Json} {R : α → α → Prop}
    (hR : ∀ a b, (toJson a).semantic = (toJson b).semantic ↔ R a b) {xs ys : List α} :
    (Json.arr (xs.map toJson)).semantic = (Json.arr (ys.map toJson)).semantic ↔
      List.Forall₂ R xs ys := by
  rw [semantic_arr_map, semantic_arr_map, Json.arr.injEq]
  induction xs generalizing ys with
  | nil => cases ys <;> simp
  | cons x xs ih =>
      cases ys with
      | nil => simp
      | cons y ys => simp [hR, ih]

/-- Rows with the same keys, and the same value for each, are the same rows. -/
theorem eq_of_lookup {rows rows' : List (String × String)}
    (hkeys : rows'.map Prod.fst = rows.map Prod.fst) (hnodup : (rows.map Prod.fst).Nodup)
    (h : ∀ key ∈ rows.map Prod.fst, rows.lookup key = rows'.lookup key) : rows = rows' := by
  induction rows generalizing rows' with
  | nil => exact (List.map_eq_nil_iff.1 hkeys).symm
  | cons row rows ih =>
      obtain ⟨key, value⟩ := row
      cases rows' with
      | nil => cases hkeys
      | cons row' rows' =>
          obtain ⟨key', value'⟩ := row'
          simp only [List.map_cons, List.cons.injEq] at hkeys
          obtain ⟨rfl, hkeys⟩ := hkeys
          rw [List.map_cons, List.nodup_cons] at hnodup
          have hvalue := h key' List.mem_cons_self
          simp only [List.lookup_cons_self, Option.some.injEq] at hvalue
          rw [hvalue, ih hkeys hnodup.2 fun other hother => ?_]
          have hne : other ≠ key' := fun heq => hnodup.1 (heq ▸ hother)
          have hother := h other (List.mem_cons_of_mem _ hother)
          simpa [List.lookup_cons, beq_false_of_ne hne] using hother

/-- Dictionaries of one text with plain keys are alike to the hash only if they are the same. -/
theorem semantic_textFields_iff {fields fields' : List (String × String)}
    (hkeys : fields'.map Prod.fst = fields.map Prod.fst)
    (hstable : ∀ key ∈ fields.map Prod.fst, key ∉ volatileFields)
    (hnodup : (fields.map Prod.fst).Nodup) :
    (textFields fields).semantic = (textFields fields').semantic ↔ fields = fields' := by
  constructor
  · intro h
    refine eq_of_lookup hkeys hnodup fun key hkey => ?_
    have hget := Json.get?_of_semantic_eq h (hstable key hkey)
    rw [get?_textFields, get?_textFields, Option.map_map, Option.map_map] at hget
    exact Option.map_injective (fun a b => Json.str_semantic_inj a b) hget
  · rintro rfl
    rfl

/-- Two packets of one version and compiler have one meaning. -/
structure TopologyPacket.Means (packet packet' : TopologyPacket) : Prop where
  profile : packet.profile = packet'.profile
  repositories : List.Forall₂ PacketRef.Names packet.inputs.repositoryModelPackets
    packet'.inputs.repositoryModelPackets
  corpora : List.Forall₂ PacketRef.Names packet.inputs.corpusIntelligencePackets
    packet'.inputs.corpusIntelligencePackets
  schemaHash : packet.schemaHash = packet'.schemaHash
  policyHashes : packet.policyHashes = packet'.policyHashes
  payloadHashes : packet.payloadHashes = packet'.payloadHashes

/-- What every compiled packet has. -/
structure TopologyPacket.FromCompiler (packet : TopologyPacket) : Prop where
  packetVersion : packet.packetVersion = "1.1.0"
  producer : packet.producer = compilerProducer
  payloadRefs : packet.payloadRefs = topologyPayloadRefs
  policies : packet.policyHashes.map Prod.fst = ["topology", "risk", "maturity", "report", "packet",
    "output", "reconciliation", "edge_taxonomy", "assertion_predicates"]
  domains : packet.payloadHashes.map Prod.fst = (topologyPayloads {}).map Prod.fst
  addresses : ∀ ref ∈
      packet.inputs.repositoryModelPackets ++ packet.inputs.corpusIntelligencePackets,
    ref.uri = "packet://" ++ ref.packetId
  lineage : packet.lineage =
    { parentPacketIds := sortedBy id ((packet.inputs.repositoryModelPackets
        ++ packet.inputs.corpusIntelligencePackets).map PacketRef.packetId)
      generation := 1 }

theorem Compiled.fromCompiler {timestamp : Timestamp} {profile : ProfileRef}
    {result : CompilationResult env.codec}
    (h : Compiled env configuration inputs corpora timestamp profile result) :
    result.packet.FromCompiler := by
  rw [h.packet_eq]
  constructor
  · rfl
  · rfl
  · rfl
  · rfl
  · rfl
  · intro ref href
    rcases List.mem_append.1 href with href | href
    · obtain ⟨input, -, rfl⟩ := List.mem_map.1 (mem_sortedBy.1 href)
      rfl
    · obtain ⟨corpus, -, rfl⟩ := List.mem_map.1 (mem_sortedBy.1 href)
      rfl
  · rfl

theorem ProfileRef.semantic_inj (profile profile' : ProfileRef)
    (h : profile.toJson.semantic = profile'.toJson.semantic) : profile = profile' := by
  have hid := Json.str.inj (Json.field_of_semantic_eq h "id" rfl rfl)
  have hversion := Json.str.inj (Json.field_of_semantic_eq h "version" rfl rfl)
  have hhash := Json.str.inj (Json.field_of_semantic_eq h "hash" rfl rfl)
  cases profile
  cases profile'
  simp_all

theorem packetIds_of_names {refs refs' : List PacketRef}
    (h : List.Forall₂ PacketRef.Names refs refs')
    (hrefs : ∀ ref ∈ refs, ref.uri = "packet://" ++ ref.packetId)
    (hrefs' : ∀ ref ∈ refs', ref.uri = "packet://" ++ ref.packetId) :
    refs.map PacketRef.packetId = refs'.map PacketRef.packetId := by
  induction h with
  | nil => rfl
  | cons hnames _ ih =>
      obtain ⟨huri, hrefs⟩ := List.forall_mem_cons.1 hrefs
      obtain ⟨huri', hrefs'⟩ := List.forall_mem_cons.1 hrefs'
      rw [List.map_cons, List.map_cons, ih hrefs hrefs',
        append_left_cancel (huri.symm.trans (hnames.uri.trans huri'))]

theorem semanticView_iff {packet packet' : TopologyPacket} (h : packet.FromCompiler)
    (h' : packet'.FromCompiler) :
    (topologyPacketSemanticView packet).semantic = (topologyPacketSemanticView packet').semantic ↔
      packet.Means packet' := by
  constructor
  · intro hview
    have hinputs := Json.field_of_semantic_eq hview "inputs" rfl rfl
    constructor
    · exact ProfileRef.semantic_inj _ _ (Json.field_of_semantic_eq hview "profile" rfl rfl)
    · exact (semantic_arr_iff fun _ _ => PacketRef.semantic_iff).1
        (Json.field_of_semantic_eq hinputs "repository_model_packets" rfl rfl)
    · exact (semantic_arr_iff fun _ _ => PacketRef.semantic_iff).1
        (Json.field_of_semantic_eq hinputs "corpus_intelligence_packets" rfl rfl)
    · exact Json.str.inj (Json.field_of_semantic_eq hview "schema_hash" rfl rfl)
    · refine (semantic_textFields_iff ?_ ?_ ?_).1
        (Json.field_of_semantic_eq hview "policy_hashes" rfl rfl)
      · rw [h.policies, h'.policies]
      · rw [h.policies]
        decide
      · rw [h.policies]
        decide
    · refine (semantic_textFields_iff ?_ ?_ ?_).1
        (Json.field_of_semantic_eq hview "payload_hashes" rfl rfl)
      · rw [h.domains, h'.domains]
      · rw [h.domains]
        decide
      · rw [h.domains]
        decide
  · intro hmeans
    have hinputs : packet.inputs.toJson.semantic = packet'.inputs.toJson.semantic := by
      have hrepositories := (semantic_arr_iff fun _ _ => PacketRef.semantic_iff).2
        hmeans.repositories
      have hcorpora := (semantic_arr_iff fun _ _ => PacketRef.semantic_iff).2 hmeans.corpora
      exact Json.semantic_obj_congr (.cons ⟨rfl, hrepositories⟩ (.cons ⟨rfl, hcorpora⟩ .nil))
    have hlineage : packet.lineage = packet'.lineage := by
      rw [h.lineage, h'.lineage, List.map_append, List.map_append]
      obtain ⟨haddresses, haddresses'⟩ := List.forall_mem_append.1 h.addresses
      obtain ⟨hother, hother'⟩ := List.forall_mem_append.1 h'.addresses
      rw [packetIds_of_names hmeans.repositories haddresses hother,
        packetIds_of_names hmeans.corpora haddresses' hother']
    unfold topologyPacketSemanticView
    rw [h.packetVersion, h'.packetVersion, h.producer, h'.producer, h.payloadRefs, h'.payloadRefs,
      hlineage, hmeans.profile, hmeans.schemaHash, hmeans.policyHashes, hmeans.payloadHashes]
    exact Json.semantic_obj_congr (.cons ⟨rfl, rfl⟩ (.cons ⟨rfl, rfl⟩ (.cons ⟨rfl, rfl⟩
      (.cons ⟨rfl, rfl⟩ (.cons ⟨rfl, hinputs⟩ (.cons ⟨rfl, rfl⟩ (.cons ⟨rfl, rfl⟩
        (.cons ⟨rfl, rfl⟩ (.cons ⟨rfl, rfl⟩ (.cons ⟨rfl, rfl⟩ .nil))))))))))

theorem removeMarker_append (marker text : String) :
    removeMarker marker (marker ++ text) = text := by
  unfold removeMarker
  rw [String.toList_append, List.isPrefixOf?_eq_some_iff_append_eq.2 rfl]
  exact String.ofList_toList

theorem payloadHashes_inj {c : Codec} (hc : c.Faithful) {state state' : TopologyState} :
    topologyPayloadHashes c state = topologyPayloadHashes c state' ↔
      topologyPayloadBytes c state = topologyPayloadBytes c state' := by
  constructor
  · refine fun h => List.map_injective_iff.2 (fun a b hab => ?_) h
    obtain ⟨hkey, hhash⟩ := Prod.mk.inj hab
    exact Prod.ext hkey (hc.artifactHash_inj.1 hhash)
  · intro h
    rw [topologyPayloadHashes, h, topologyPayloadHashes]

/-- Two results are about one topology: the same profile, inputs, contract and policies, and the
same payload, byte for byte. -/
structure OneTopology {c : Codec} (result result' : CompilationResult c) : Prop where
  profile : result.packet.profile = result'.packet.profile
  repositories : List.Forall₂ PacketRef.Names result.packet.inputs.repositoryModelPackets
    result'.packet.inputs.repositoryModelPackets
  corpora : List.Forall₂ PacketRef.Names result.packet.inputs.corpusIntelligencePackets
    result'.packet.inputs.corpusIntelligencePackets
  schemaHash : result.packet.schemaHash = result'.packet.schemaHash
  policyHashes : result.packet.policyHashes = result'.packet.policyHashes
  payload : topologyPayloadBytes c result.state = topologyPayloadBytes c result'.state

/-- **The id of a packet stands for its topology.** Every hash of a result is that of what it holds,
and two results, of whatever inputs, configurations, policies and moments, have one packet id
exactly if they are about one topology. -/
theorem packetId_eq_iff (hc : env.codec.Faithful) {policies : CompilerPolicies}
    {configuration' : ResolvedConfiguration} {inputs' : List RepositoryInput}
    {corpora' : List CorpusAnalysisPacket} {createdAt createdAt' : Option Timestamp}
    {result result' : CompilationResult env.codec}
    (h : compileTopology env configuration inputs corpora createdAt = .ok result)
    (h' : compileTopology { env with policies } configuration' inputs' corpora' createdAt' =
      .ok result') :
    SelfConsistent env.codec result ∧
      (result.packet.packetId = result'.packet.packetId ↔ OneTopology result result') := by
  obtain ⟨profile, h⟩ := compileTopology_eq_ok.1 h
  obtain ⟨profile', h'⟩ := compileTopology_eq_ok.1 h'
  refine ⟨h.selfConsistent, ?_⟩
  have hself := h.selfConsistent
  have hself' : SelfConsistent env.codec result' := h'.selfConsistent
  have hids : result.packet.packetId = result'.packet.packetId ↔
      (topologyPacketSemanticView result.packet).semantic =
        (topologyPacketSemanticView result'.packet).semantic := by
    rw [← hc.semanticDigest_inj, hself.packetId, hself'.packetId, expectedPacketId,
      expectedPacketId, hself.semanticHash, hself'.semanticHash]
    unfold calculateTopologySemanticHash Codec.semanticHash Codec.sha256Bytes
    rw [removeMarker_append, removeMarker_append, String.append_right_inj]
    rfl
  rw [hids, semanticView_iff h.fromCompiler h'.fromCompiler]
  constructor
  · intro hmeans
    refine ⟨hmeans.profile, hmeans.repositories, hmeans.corpora, hmeans.schemaHash,
      hmeans.policyHashes, ?_⟩
    rw [← payloadHashes_inj hc, ← hself.payloadHashes, ← hself'.payloadHashes]
    exact hmeans.payloadHashes
  · intro hone
    refine ⟨hone.profile, hone.repositories, hone.corpora, hone.schemaHash, hone.policyHashes, ?_⟩
    rw [hself.payloadHashes, hself'.payloadHashes]
    exact (payloadHashes_inj hc).2 hone.payload

theorem packetId_eq_iff_policies :
    ∃ result result', compileTopology plainEnvironment plainConfiguration [planInput textCodec]
        [proposedNotes textCodec] none = .ok result ∧
      compileTopology { plainEnvironment with
        policies := ⟨"sha256:other", "sha256:taxonomy", "sha256:predicates"⟩ } plainConfiguration
          [planInput textCodec] [proposedNotes textCodec] none = .ok result' ∧
      result.packet.packetId ≠ result'.packet.packetId := by
  obtain ⟨result, h⟩ := notes_compiled textCodec _ (.refl _) plainEnvironment.policies
    textCodec_faithful none
  obtain ⟨result', h'⟩ := notes_compiled textCodec _ (.refl _)
    ⟨"sha256:other", "sha256:taxonomy", "sha256:predicates"⟩ textCodec_faithful none
  refine ⟨result, result', h, h', fun heq => ?_⟩
  have hone := (packetId_eq_iff textCodec_faithful h h').2.1 heq
  obtain ⟨profile, hcompiled⟩ := compileTopology_eq_ok.1 h
  obtain ⟨profile', hcompiled'⟩ := compileTopology_eq_ok.1 h'
  -- the two packets bind different reconciliation policies
  have hpolicies := hone.policyHashes
  rw [hcompiled.packet_eq, hcompiled'.packet_eq] at hpolicies
  have hlookup := congrArg (List.lookup "reconciliation") hpolicies
  change some "sha256:reconciliation" = some "sha256:other" at hlookup
  exact absurd hlookup (by decide)

end ConstellationTopology
