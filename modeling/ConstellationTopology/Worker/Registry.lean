import ConstellationTopology.Library.Table
import ConstellationTopology.Worker.Contracts

set_option autoImplicit false

/-! # The local packet registry

`LocalPacketRegistry`: one row for each idempotency key with the packet it maps to. Each operation
is one transaction; a `fault` is the text of an `sqlite3.Error` after which nothing has changed. -/

namespace ConstellationTopology

/-- Whether a publication was acknowledged. -/
inductive RegistryStatus
  | published
  | acknowledged
  deriving DecidableEq, Repr

/-- What the registry holds for a key. -/
structure RegistryEntry where
  idempotencyKey : String
  packetRef : PacketRef
  validationReceiptUri : String
  commitReceiptUri : String
  status : RegistryStatus := .published
  metadata : List (String × String) := []
  deriving DecidableEq, Repr

/-- A row of `packet_registry`; `entry` is what `entry_json` serializes. -/
structure RegistryRow where
  idempotencyKey : String
  packetId : String
  entry : RegistryEntry
  status : RegistryStatus
  deriving DecidableEq, Repr

/-- The table `packet_registry`. -/
abbrev PacketRegistry := Table RegistryRow.idempotencyKey

/-- The registry cannot be read. -/
def packetRegistryReadFailed (exc : String) : WorkerError where
  code := "packet-registry-read-failed"
  message := exc
  retryable := true

/-- The registry cannot be written. -/
def packetRegistryWriteFailed (exc : String) : WorkerError where
  code := "packet-registry-write-failed"
  message := exc
  retryable := true

/-- The key is bound to another packet. -/
def idempotencyCollision : WorkerError where
  code := "idempotency-collision"
  message := "idempotency key already maps to a different packet"
  blocked := true

/-- The key is not in the registry. -/
def packetRegistryEntryMissing (idempotencyKey : String) : WorkerError where
  code := "packet-registry-entry-missing"
  message := "cannot acknowledge unknown idempotency key: " ++ idempotencyKey
  blocked := true

namespace PacketRegistry

/-- `get`. -/
def getEntry (registry : PacketRegistry) (idempotencyKey : String) (fault : Option String) :
    Except WorkerError (Option RegistryEntry) :=
  match fault with
  | some exc => .error (packetRegistryReadFailed exc)
  | none => .ok ((Table.lookup registry idempotencyKey).map RegistryRow.entry)

/-- `register`. -/
def register (registry : PacketRegistry) (entry : RegistryEntry) (fault : Option String) :
    Except WorkerError Unit × PacketRegistry :=
  match fault with
  | some exc => (.error (packetRegistryWriteFailed exc), registry)
  | none =>
      match Table.lookup registry entry.idempotencyKey with
      | some row =>
          if row.packetId ≠ entry.packetRef.packetId then (.error idempotencyCollision, registry)
          else (.ok (), Table.upsert registry
            ⟨entry.idempotencyKey, entry.packetRef.packetId, entry, entry.status⟩)
      | none => (.ok (), Table.upsert registry
          ⟨entry.idempotencyKey, entry.packetRef.packetId, entry, entry.status⟩)

/-- `acknowledge`. -/
def acknowledge (registry : PacketRegistry) (idempotencyKey : String) (fault : Option String) :
    Except WorkerError RegistryEntry × PacketRegistry :=
  match fault with
  | some exc => (.error (packetRegistryWriteFailed exc), registry)
  | none =>
      match Table.lookup registry idempotencyKey with
      | none => (.error (packetRegistryEntryMissing idempotencyKey), registry)
      | some row =>
          let acknowledged := { row.entry with status := .acknowledged }
          (.ok acknowledged,
            Table.upsert registry { row with entry := acknowledged, status := .acknowledged })

/-- The registry holds an entry for the key. -/
def Holds (registry : PacketRegistry) (idempotencyKey : String) : Prop :=
  ∃ row, Table.lookup registry idempotencyKey = some row

theorem not_holds_of_getEntry {registry : PacketRegistry} {k : String} {fault : Option String}
    (h : registry.getEntry k fault = .ok none) : ¬ registry.Holds k := by
  rintro ⟨row, hrow⟩
  unfold getEntry at h
  split at h
  · cases h
  · simp [hrow] at h

/-- The only error of `get` is sqlite's. -/
theorem getEntry_error {registry : PacketRegistry} {k : String} {fault : Option String}
    {e : WorkerError} (h : registry.getEntry k fault = .error e) :
    ∃ exc, e = packetRegistryReadFailed exc := by
  unfold getEntry at h
  split at h
  · next exc => exact ⟨exc, (Except.error.inj h).symm⟩
  · cases h

theorem holds_upsert {registry : PacketRegistry} {k : String} (row : RegistryRow)
    (h : registry.Holds k) : PacketRegistry.Holds (Table.upsert registry row) k := by
  obtain ⟨old, hold⟩ := h
  unfold Holds
  rw [Table.lookup_upsert]
  split
  · exact ⟨row, rfl⟩
  · exact ⟨old, hold⟩

/-- A registration keeps every entry, and leaves one for its own key unless it fails. -/
theorem register_spec (registry : PacketRegistry) (entry : RegistryEntry)
    (fault : Option String) :
    (∀ k, registry.Holds k → (registry.register entry fault).2.Holds k) ∧
      ((registry.register entry fault).1 = .ok () →
        (registry.register entry fault).2.Holds entry.idempotencyKey) := by
  have hself : ∀ row : RegistryRow, PacketRegistry.Holds (Table.upsert registry row)
      row.idempotencyKey := fun row => ⟨row, Table.lookup_upsert_self registry row⟩
  unfold register
  split
  · exact ⟨fun _ h => h, fun h => by cases h⟩
  split
  · split
    · exact ⟨fun _ h => h, fun h => by cases h⟩
    · exact ⟨fun _ h => holds_upsert _ h, fun _ => hself ⟨_, _, _, _⟩⟩
  · exact ⟨fun _ h => holds_upsert _ h, fun _ => hself ⟨_, _, _, _⟩⟩

theorem acknowledge_holds {registry : PacketRegistry} {k key : String} {fault : Option String}
    (h : registry.Holds k) : (registry.acknowledge key fault).2.Holds k := by
  unfold acknowledge
  split
  · exact h
  split
  · exact h
  · exact holds_upsert _ h

end PacketRegistry

end ConstellationTopology
