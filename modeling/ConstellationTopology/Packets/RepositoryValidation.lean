import ConstellationTopology.Library.Fallible
import ConstellationTopology.Packets.PayloadStorage

set_option autoImplicit false

/-! # What an adapted packet has passed

`packets/validator.py` as `RepositoryModelV1Adapter.adapt` calls it on a packet in hand. The loader
of a bundle makes the same checks of a document (`validateRepositoryModelPacket`). -/

namespace ConstellationTopology

/-- `SUPPORTED_REPOSITORY_MODEL_VERSIONS`. -/
def supportedRepositoryModelVersions : List String := ["1.0.0", "1.1.0"]

/-- The dumped profile. -/
def InterpretationProfileRef.toJson (profile : InterpretationProfileRef) : Json :=
  .obj [("profile_id", .str profile.profileId),
    ("profile_version", .str profile.profileVersion),
    ("profile_hash", .str profile.profileHash),
    ("extractor_versions", textFields profile.extractorVersions)]

/-- `repository_model_semantic_view`: the interpretation profile is there exactly if it ran. -/
def repositoryModelSemanticView (packet : RepositoryModelPacket) : Json :=
  .obj ([("packet_type", .str "l9.repository-model"),
      ("packet_version", .str packet.packetVersion),
      ("subject", .obj [("repository_id", .str packet.repositoryId)]),
      ("source_snapshot", .obj [("revision", .str packet.revision),
        ("semantic_hash", .str packet.snapshotHash)]),
      ("producer", packet.producer.toJson),
      ("profile", packet.profile.toJson),
      ("schema_hash", .str packet.schemaHash),
      ("payload_refs", textFields packet.payloadRefs),
      ("payload", (packet.payload.map RepositoryModelPayload.toJson).getD .null)]
    ++ optionalField "interpretation_profile"
      (packet.interpretationProfile.map InterpretationProfileRef.toJson))

namespace RepositoryModelV1Adapter

variable (c : Codec) (repr : String → String)

/-- `validate_repository_model_packet`, with the text of its `PacketValidationError`. -/
def validateRepositoryModelPacket (packet : RepositoryModelPacket) : Except String Unit := do
  demand (packet.packetVersion ∈ supportedRepositoryModelVersions)
    ("unsupported-contract-version: repository model packet version " ++ repr packet.packetVersion
      ++ " is not supported")
  demand (packet.validation.status = .passed)
    ("input-validation-failed: parent packet validation status is "
      ++ repr packet.validation.status.value)
  demand (packet.revision ≠ "") "missing-source-revision: source revision is required"
  demand packet.payload.isSome "missing-payload: repository model payload is unresolved"
  let calculated := c.semanticHash (repositoryModelSemanticView packet)
  demand (calculated = packet.semanticHash)
    ("semantic-hash-mismatch: expected " ++ packet.semanticHash ++ ", calculated " ++ calculated)

/-- What a packet is asked for before it is adapted. -/
structure Accepts (packet : RepositoryModelPacket) : Prop where
  version : packet.packetVersion ∈ supportedRepositoryModelVersions
  passed : packet.validation.status = .passed
  revision : packet.revision ≠ ""
  payload : packet.payload.isSome = true
  semanticHash : c.semanticHash (repositoryModelSemanticView packet) = packet.semanticHash

variable {c repr} {packet : RepositoryModelPacket}

theorem validateRepositoryModelPacket_eq_ok {u : Unit} :
    validateRepositoryModelPacket c repr packet = .ok u ↔ Accepts c packet := by
  simp only [validateRepositoryModelPacket, bind_eq_ok, demand_eq_ok]
  constructor
  · rintro ⟨_, hversion, _, hpassed, _, hrevision, _, hpayload, hhash⟩
    exact ⟨hversion, hpassed, hrevision, hpayload, hhash⟩
  · intro h
    exact ⟨(), h.version, (), h.passed, (), h.revision, (), h.payload, h.semanticHash⟩

end RepositoryModelV1Adapter

/-- The packet under the hash of what it says. -/
def RepositoryModelPacket.identified (c : Codec) (packet : RepositoryModelPacket) :
    RepositoryModelPacket :=
  { packet with semanticHash := c.semanticHash (repositoryModelSemanticView packet) }

/-- The hash is not part of what a packet says. -/
theorem RepositoryModelPacket.accepts_identified (c : Codec) {packet : RepositoryModelPacket}
    (hversion : packet.packetVersion ∈ supportedRepositoryModelVersions)
    (hpassed : packet.validation.status = .passed) (hrevision : packet.revision ≠ "")
    (hpayload : packet.payload.isSome = true) :
    RepositoryModelV1Adapter.Accepts c (packet.identified c) :=
  ⟨hversion, hpassed, hrevision, hpayload, rfl⟩

end ConstellationTopology
