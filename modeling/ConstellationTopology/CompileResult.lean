import ConstellationTopology.CompileTopology
import ConstellationTopology.Packets.BundleRendering
import ConstellationTopology.Validation.ReferenceClosure

set_option autoImplicit false

/-! # The result of a compile

A result of `compile_topology` carries its own proof of identity: every hash in it can be computed
again from the rest. What a compile makes after validation cannot fail. -/

namespace ConstellationTopology

variable {env : CompileEnvironment} {configuration : ResolvedConfiguration}
  {inputs : List RepositoryInput} {corpora : List CorpusAnalysisPacket}

/-! ## A successful compile -/

/-- What a result was made of. -/
structure Compiled (env : CompileEnvironment) (configuration : ResolvedConfiguration)
    (inputs : List RepositoryInput) (corpora : List CorpusAnalysisPacket) (timestamp : Timestamp)
    (profile : ProfileRef) (result : CompilationResult env.codec) : Prop where
  inputs_nonempty : inputs ≠ []
  checked : checkCorpusInputs env corpora (inputs.map fun input => input.packet) = .ok ()
  state_eq : compileState env configuration inputs corpora = .ok result.state
  profile_eq : profileRef env configuration = .ok profile
  receipt_eq : result.receipt =
    (validateState env configuration profile inputs corpora timestamp result.state).2
  passed : result.receipt.status = .passed
  packet_eq : result.packet =
    ((validateState env configuration profile inputs corpora timestamp
      result.state).1.validated).sealed env
  artifacts_eq : buildTopologyBundleArtifacts env.codec result.packet result.state result.receipt
    timestamp = .ok result.artifacts

theorem finishCompilation_eq_ok {timestamp : Timestamp} {profile : ProfileRef}
    {state : TopologyState} {result : CompilationResult env.codec} :
    finishCompilation env configuration inputs corpora timestamp profile state = .ok result ↔
      (validateState env configuration profile inputs corpora timestamp state).2.status = .passed ∧
        ∃ artifacts, buildTopologyBundleArtifacts env.codec
            ((validateState env configuration profile inputs corpora timestamp
              state).1.validated.sealed env) state
            (validateState env configuration profile inputs corpora timestamp state).2
              timestamp = .ok artifacts ∧
          result =
            { packet := (validateState env configuration profile inputs corpora timestamp
                state).1.validated.sealed env
              state := state
              receipt := (validateState env configuration profile inputs corpora timestamp state).2
              artifacts := artifacts } := by
  simp only [finishCompilation, bind_eq_ok, demand_eq_ok, mapError_eq_ok, pure_eq_ok]
  constructor
  · rintro ⟨_, hpassed, artifacts, hartifacts, rfl⟩
    exact ⟨hpassed, artifacts, hartifacts, rfl⟩
  · rintro ⟨hpassed, artifacts, hartifacts, rfl⟩
    exact ⟨(), hpassed, artifacts, hartifacts, rfl⟩

theorem compileTopology_eq_ok {createdAt : Option Timestamp}
    {result : CompilationResult env.codec} :
    compileTopology env configuration inputs corpora createdAt = .ok result ↔
      ∃ profile, Compiled env configuration inputs corpora (createdAt.getD canonicalCreatedAt)
        profile result := by
  simp only [compileTopology, bind_eq_ok, demand_eq_ok, mapError_eq_ok]
  constructor
  · rintro ⟨_, hinputs, _, hchecked, state, hstate, profile, hprofile, h⟩
    obtain ⟨hpassed, artifacts, hartifacts, rfl⟩ := finishCompilation_eq_ok.1 h
    exact ⟨profile, hinputs, hchecked, hstate, hprofile, rfl, hpassed, rfl, hartifacts⟩
  · rintro ⟨profile, h⟩
    obtain ⟨packet, state, receipt, artifacts⟩ := result
    have hreceipt := h.receipt_eq
    have hpacket := h.packet_eq
    dsimp only at hreceipt hpacket
    subst hreceipt hpacket
    exact ⟨(), h.inputs_nonempty, (), h.checked, state, h.state_eq, profile, h.profile_eq,
      finishCompilation_eq_ok.2 ⟨h.passed, artifacts, h.artifacts_eq, rfl⟩⟩

/-! ## Every hash can be computed again -/

/-- The hashes of a result are those of what it holds. -/
structure SelfConsistent (c : Codec) (result : CompilationResult c) : Prop where
  semanticHash : result.packet.semanticHash = calculateTopologySemanticHash c result.packet
  packetId : result.packet.packetId = expectedPacketId result.packet
  payloadHashes : result.packet.payloadHashes = topologyPayloadHashes c result.state
  artifactHash : result.packet.artifactHash =
    c.artifactHash (c.canonicalBytes result.packet.coreDump)
  receipt : validateValidationReceipt c result.receipt = .ok ()
  subject : result.receipt.subjectPacketId = result.packet.packetId ∧
    result.receipt.subjectSemanticHash = result.packet.semanticHash

theorem identified_semanticHash (c : Codec) (candidate : TopologyPacket) :
    (candidate.identified c).semanticHash =
      calculateTopologySemanticHash c (candidate.identified c) := rfl

theorem identified_packetId (c : Codec) (candidate : TopologyPacket) :
    (candidate.identified c).packetId = expectedPacketId (candidate.identified c) := rfl

theorem validateValidationReceipt_finalized (c : Codec) (candidate : ValidationReceipt) :
    validateValidationReceipt c (finalizeValidationReceipt c candidate) = .ok () := by
  have hview : validationReceiptSemanticView (finalizeValidationReceipt c candidate) =
      validationReceiptSemanticView candidate := rfl
  simp only [validateValidationReceipt, hview]
  rw [if_neg (fun hne => hne rfl), if_neg (fun hne => hne rfl)]

theorem Compiled.selfConsistent {timestamp : Timestamp} {profile : ProfileRef}
    {result : CompilationResult env.codec}
    (h : Compiled env configuration inputs corpora timestamp profile result) :
    SelfConsistent env.codec result := by
  obtain ⟨packet, state, receipt, artifacts⟩ := result
  have hreceipt := h.receipt_eq
  have hpacket := h.packet_eq
  dsimp only at hreceipt hpacket
  subst hreceipt hpacket
  exact ⟨identified_semanticHash _ _, identified_packetId _ _, rfl, rfl,
    validateValidationReceipt_finalized _ _, rfl, rfl⟩

theorem map_fst_topologyPayloadHashes (c : Codec) (state : TopologyState) :
    (topologyPayloadHashes c state).map Prod.fst = (topologyPayloads {}).map Prod.fst := rfl

theorem namesDomains_of_hashes {c : Codec} {packet : TopologyPacket} {state : TopologyState}
    (h : packet.payloadHashes = topologyPayloadHashes c state) : NamesDomains packet := by
  intro domain hmem
  rw [payloadDomains, mem_sortedBy, ← map_fst_topologyPayloadHashes c state] at hmem
  obtain ⟨entry, hentry, rfl⟩ := List.mem_map.1 hmem
  rw [h]
  cases hlookup : (topologyPayloadHashes c state).lookup entry.1 with
  | some digest => exact ⟨digest, rfl⟩
  | none => exact absurd (List.lookup_eq_none_iff.1 hlookup entry hentry) (by simp)

theorem validateState_names (env : CompileEnvironment) (configuration : ResolvedConfiguration)
    (profile : ProfileRef) (inputs : List RepositoryInput) (corpora : List CorpusAnalysisPacket)
    (timestamp : Timestamp) (state : TopologyState) :
    NamesDomains (validateState env configuration profile inputs corpora timestamp state).1 := by
  have hhashes : (validateState env configuration profile inputs corpora timestamp
      state).1.payloadHashes = topologyPayloadHashes env.codec state := rfl
  exact namesDomains_of_hashes hhashes

/-- A compile returns a result exactly if its corpora are sound, its stages and its profile do not
raise, and what they make passes validation: nothing fails after that. -/
theorem exists_result_iff {createdAt : Option Timestamp} :
    (∃ result, compileTopology env configuration inputs corpora createdAt = .ok result) ↔
      inputs ≠ [] ∧
        checkCorpusInputs env corpora (inputs.map fun input => input.packet) = .ok () ∧
        ∃ state, compileState env configuration inputs corpora = .ok state ∧
          ∃ profile, profileRef env configuration = .ok profile ∧
            (validateState env configuration profile inputs corpora
              (createdAt.getD canonicalCreatedAt) state).2.status = .passed := by
  constructor
  · rintro ⟨result, h⟩
    obtain ⟨profile, h⟩ := compileTopology_eq_ok.1 h
    refine ⟨h.inputs_nonempty, h.checked, result.state, h.state_eq, profile, h.profile_eq, ?_⟩
    rw [← h.receipt_eq]
    exact h.passed
  · rintro ⟨hinputs, hchecked, state, hstate, profile, hprofile, hpassed⟩
    have hnames := validateState_names env configuration profile inputs corpora
      (createdAt.getD canonicalCreatedAt) state
    obtain ⟨artifacts, hartifacts⟩ := exists_artifacts env.codec
      ((validateState env configuration profile inputs corpora (createdAt.getD canonicalCreatedAt)
        state).1.validated.sealed env) state
      (validateState env configuration profile inputs corpora (createdAt.getD canonicalCreatedAt)
        state).2 (createdAt.getD canonicalCreatedAt) hpassed hnames
    simp only [compileTopology, bind_eq_ok, demand_eq_ok, mapError_eq_ok]
    exact ⟨_, (), hinputs, (), hchecked, state, hstate, profile, hprofile,
      finishCompilation_eq_ok.2 ⟨hpassed, artifacts, hartifacts, rfl⟩⟩

/-! ## The references of the inputs -/

section References

variable {packet : TopologyPacket} {inputs : List RepositoryInput}
  {corpora : List CorpusAnalysisPacket}

/-- The input that stands for a packet id: the last one loaded under it. -/
def standingInput (inputs : List RepositoryInput) (packetId : String) : Option RepositoryInput :=
  (groupOf (fun input : RepositoryInput => input.packet.packetId) packetId inputs).getLast?

theorem lookup_packetRefs (h : packet.inputs = topologyInputs inputs corpora) (packetId : String) :
    (packetRefs packet).lookup packetId = (standingInput inputs packetId).map packetRef := by
  rw [packetRefs, Table.lookup_ofRows, h]
  show (groupOf PacketRef.packetId packetId
    (sortedBy PacketRef.packetId (inputs.map packetRef))).getLast? = _
  rw [groupOf_sortedBy, groupOf, List.filter_map, List.getLast?_map]
  rfl

theorem lookup_bundleRefs (packetId : String) :
    (bundleRefs (inputs.map RepositoryInput.toRepositoryModelBundle)).lookup packetId =
      (standingInput inputs packetId).map RepositoryInput.toRepositoryModelBundle := by
  rw [bundleRefs, Table.lookup_ofRows, List.filter_map, List.getLast?_map]
  rfl

theorem inputMismatch_eq_nil (h : packet.inputs = topologyInputs inputs corpora) :
    inputMismatch packet (inputs.map RepositoryInput.toRepositoryModelBundle) = [] := by
  have hsame : ∀ packetId, packetId ∈ (packetRefs packet).rows.map PacketRef.packetId ↔
      packetId ∈ (bundleRefs (inputs.map RepositoryInput.toRepositoryModelBundle)).rows.map
        fun bundle => bundle.packet.packetId := by
    intro packetId
    rw [packetRefs, bundleRefs, Table.mem_keys_ofRows, Table.mem_keys_ofRows, h]
    simp only [topologyInputs, List.mem_map, mem_sortedBy, exists_exists_and_eq_and]
    rfl
  simp only [inputMismatch, sortedSet_eq_nil_iff, List.append_eq_nil_iff, List.filter_eq_nil_iff,
    decide_not, Bool.not_eq_true', decide_eq_false_iff_not, not_not]
  exact ⟨fun packetId => (hsame packetId).1, fun packetId => (hsame packetId).2⟩

theorem failedParents_eq_nil_iff :
    failedParents (inputs.map RepositoryInput.toRepositoryModelBundle) = [] ↔
      ∀ input ∈ inputs, input.packet.validation.status = .passed ∧
        input.receipt.status = .passed := by
  rw [failedParents, ← List.length_eq_zero_iff, (sortedBy_perm _ _).length_eq,
    List.length_eq_zero_iff, List.map_eq_nil_iff, List.filter_eq_nil_iff, List.forall_mem_map]
  simp only [decide_eq_true_eq, not_or, not_not]

/-- A reference is made of the bundle it stands for, so only its status can be wrong. -/
theorem referenceMismatches_eq_nil (h : packet.inputs = topologyInputs inputs corpora)
    (hpassed : ∀ input ∈ inputs, input.packet.validation.status = .passed) :
    referenceMismatches packet (inputs.map RepositoryInput.toRepositoryModelBundle) = [] := by
  refine List.flatMap_eq_nil_iff.2 fun reference hmem => ?_
  rw [mem_sortedBy, Table.mem_rows_iff, lookup_packetRefs h] at hmem
  obtain ⟨input, hinput, rfl⟩ := Option.map_eq_some_iff.1 hmem
  have hloaded := (mem_groupOf.1 (List.mem_of_getLast? hinput)).1
  rw [lookup_bundleRefs, hinput]
  show referenceMismatch (packetRef input) input.toRepositoryModelBundle = []
  simp [referenceMismatch, packetRef, hpassed input hloaded]

end References

end ConstellationTopology
