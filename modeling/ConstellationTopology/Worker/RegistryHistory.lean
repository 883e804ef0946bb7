import ConstellationTopology.Library.Transition
import ConstellationTopology.Worker.Registry

set_option autoImplicit false

/-! # The local packet registry over whole runs

Any callers register, acknowledge and look up in any order, and any of the transactions may fail. A
run is the list of their calls. `perform_cases` says once what a call can do; the invariants of the
rows and the exact condition under which an acknowledgement stays follow from it. -/

namespace ConstellationTopology

/-! ## What is stored -/

/-- The name of the status. -/
def RegistryStatus.value : RegistryStatus → String
  | published => "published"
  | acknowledged => "acknowledged"

/-- The stored entry. -/
def RegistryEntry.toJson (entry : RegistryEntry) : Json :=
  .obj [("idempotency_key", .str entry.idempotencyKey),
    ("packet_ref", entry.packetRef.toJson),
    ("validation_receipt_uri", .str entry.validationReceiptUri),
    ("commit_receipt_uri", .str entry.commitReceiptUri),
    ("status", .str entry.status.value),
    ("metadata", textFields entry.metadata)]

/-- What the text of `entry_json` stands for. -/
def RegistryRow.entryJson (row : RegistryRow) : Json := row.entry.toJson.canonicalData

theorem RegistryRow.get?_entryJson (row : RegistryRow) (key : String) :
    row.entryJson.get? key = (row.entry.toJson.get? key).map Json.canonicalData :=
  Json.get?_canonicalData key _

/-- The entry of a row says what its columns say. -/
structure RegistryRow.Agrees (row : RegistryRow) : Prop where
  key : row.entryJson.get? "idempotency_key" = some (.str row.idempotencyKey)
  packet : row.entry.packetRef.packetId = row.packetId
  status : row.entryJson.get? "status" = some (.str row.status.value)

/-! ## Calls -/

/-- One call on the registry, with the sqlite error it runs into, if any. -/
inductive RegistryCall
  | get (idempotencyKey : String) (fault : Option String := none)
  | register (entry : RegistryEntry) (fault : Option String := none)
  | acknowledge (idempotencyKey : String) (fault : Option String := none)
  deriving DecidableEq

namespace PacketRegistry

/-- The answer of a call and the registry after it. -/
def perform (registry : PacketRegistry) :
    RegistryCall → Except WorkerError (Option RegistryEntry) × PacketRegistry
  | .get key fault => (registry.getEntry key fault, registry)
  | .register entry fault =>
      ((registry.register entry fault).1.map fun _ => none, (registry.register entry fault).2)
  | .acknowledge key fault =>
      ((registry.acknowledge key fault).1.map some, (registry.acknowledge key fault).2)

/-- A registration that goes through: the key is free or maps to the entry's packet. -/
def Registers (registry : PacketRegistry) (entry : RegistryEntry) : Prop :=
  ∀ row, Table.lookup registry entry.idempotencyKey = some row →
    row.packetId = entry.packetRef.packetId

/-- The row a registration writes. -/
def registeredRow (entry : RegistryEntry) : RegistryRow :=
  ⟨entry.idempotencyKey, entry.packetRef.packetId, entry, entry.status⟩

/-- The row an acknowledgement writes. -/
def acknowledgedRow (row : RegistryRow) : RegistryRow :=
  { row with entry := { row.entry with status := .acknowledged }, status := .acknowledged }

theorem register_of_registers {registry : PacketRegistry} {entry : RegistryEntry}
    (h : registry.Registers entry) :
    registry.register entry none = (.ok (), Table.upsert registry (registeredRow entry)) := by
  unfold register
  simp only
  cases hrow : Table.lookup registry entry.idempotencyKey with
  | none => rfl
  | some row =>
      simp only
      rw [if_neg (not_not.2 (h row hrow))]
      rfl

/-- **Step lemma.** A call leaves the registry alone, or it registers an entry under a key that is
    free or has the entry's packet, or it acknowledges a stored row. -/
theorem perform_cases (registry : PacketRegistry) (call : RegistryCall) :
    (registry.perform call).2 = registry ∨
      (∃ entry, call = .register entry none ∧ registry.Registers entry ∧
        registry.perform call = (.ok none, Table.upsert registry (registeredRow entry))) ∨
      ∃ key row, call = .acknowledge key none ∧ Table.lookup registry key = some row ∧
        registry.perform call =
          (.ok (some (acknowledgedRow row).entry),
            Table.upsert registry (acknowledgedRow row)) := by
  cases call with
  | get key fault => exact Or.inl rfl
  | register entry fault =>
      cases fault with
      | some exc => exact Or.inl rfl
      | none =>
          by_cases h : registry.Registers entry
          · refine Or.inr (Or.inl ⟨entry, rfl, h, ?_⟩)
            unfold perform
            simp only [register_of_registers h]
            rfl
          · left
            unfold Registers at h
            simp only [not_forall] at h
            obtain ⟨row, hrow, hother⟩ := h
            simp [perform, register, hrow, hother]
  | acknowledge key fault =>
      cases fault with
      | some exc => exact Or.inl rfl
      | none =>
          cases hrow : Table.lookup registry key with
          | none =>
              left
              simp [perform, acknowledge, hrow]
          | some row =>
              refine Or.inr (Or.inr ⟨key, row, rfl, hrow, ?_⟩)
              simp [perform, acknowledge, hrow, acknowledgedRow, Except.map]

/-- A call that fails changes nothing. -/
theorem perform_failed {registry : PacketRegistry} {call : RegistryCall} {e : WorkerError}
    (h : (registry.perform call).1 = .error e) : (registry.perform call).2 = registry := by
  rcases perform_cases registry call with hsame | ⟨_, _, _, hwrite⟩ | ⟨_, _, _, _, hwrite⟩
  · exact hsame
  · rw [hwrite] at h
    cases h
  · rw [hwrite] at h
    cases h

/-! ## The rows -/

/-- Every row agrees with its own entry. -/
def Agrees (registry : PacketRegistry) : Prop := ∀ row ∈ registry.rows, row.Agrees

theorem agrees_registeredRow (entry : RegistryEntry) : (registeredRow entry).Agrees where
  key := RegistryRow.get?_entryJson _ _
  packet := rfl
  status := RegistryRow.get?_entryJson _ _

theorem agrees_acknowledgedRow {row : RegistryRow} (h : row.Agrees) :
    (acknowledgedRow row).Agrees where
  key := by
    have hkey := h.key
    rw [RegistryRow.get?_entryJson] at hkey ⊢
    exact hkey
  packet := h.packet
  status := RegistryRow.get?_entryJson _ _

theorem agrees_upsert {registry : PacketRegistry} {row : RegistryRow} (h : registry.Agrees)
    (hrow : row.Agrees) : PacketRegistry.Agrees (Table.upsert registry row) := by
  intro r hr
  rcases (Table.mem_upsert _ _ _).1 hr with rfl | ⟨hr, -⟩
  · exact hrow
  · exact h r hr

theorem agrees_perform {registry : PacketRegistry} (h : registry.Agrees) (call : RegistryCall) :
    (registry.perform call).2.Agrees := by
  rcases perform_cases registry call with
    hsame | ⟨entry, -, -, hwrite⟩ | ⟨key, row, -, hrow, hwrite⟩
  · rwa [hsame]
  · rw [hwrite]
    exact agrees_upsert h (agrees_registeredRow entry)
  · rw [hwrite]
    exact agrees_upsert h (agrees_acknowledgedRow (h row (Table.lookup_mem hrow)))

/-- The packet a key maps to. -/
def Maps (registry : PacketRegistry) (key packetId : String) : Prop :=
  ∃ row, Table.lookup registry key = some row ∧ row.packetId = packetId

/-- The key has an entry that has been acknowledged. -/
def Acknowledged (registry : PacketRegistry) (key : String) : Prop :=
  ∃ row, Table.lookup registry key = some row ∧ row.status = .acknowledged

theorem maps_upsert {registry : PacketRegistry} {row : RegistryRow} {key packetId : String}
    (h : registry.Maps key packetId) (hrow : row.idempotencyKey = key → row.packetId = packetId) :
    PacketRegistry.Maps (Table.upsert registry row) key packetId := by
  obtain ⟨old, hold, hpacket⟩ := h
  unfold Maps
  rw [Table.lookup_upsert]
  split
  · next hkey => exact ⟨row, rfl, hrow hkey.symm⟩
  · exact ⟨old, hold, hpacket⟩

theorem acknowledged_upsert {registry : PacketRegistry} {row : RegistryRow} {key : String}
    (h : registry.Acknowledged key) (hrow : row.idempotencyKey = key → row.status = .acknowledged) :
    PacketRegistry.Acknowledged (Table.upsert registry row) key := by
  obtain ⟨old, hold, hstatus⟩ := h
  unfold Acknowledged
  rw [Table.lookup_upsert]
  split
  · next hkey => exact ⟨row, rfl, hrow hkey.symm⟩
  · exact ⟨old, hold, hstatus⟩

theorem maps_perform {registry : PacketRegistry} {key packetId : String}
    (h : registry.Maps key packetId) (call : RegistryCall) :
    (registry.perform call).2.Maps key packetId := by
  rcases perform_cases registry call with
    hsame | ⟨entry, -, hregisters, hwrite⟩ | ⟨key', row, -, hrow, hwrite⟩
  · rwa [hsame]
  · rw [hwrite]
    refine maps_upsert h fun hkey => ?_
    obtain ⟨old, hold, hpacket⟩ := h
    rw [← hkey] at hold
    rw [← hpacket, hregisters old hold]
    rfl
  · rw [hwrite]
    refine maps_upsert h fun hkey => ?_
    obtain ⟨old, hold, hpacket⟩ := h
    -- the acknowledged row is the stored one
    have hold' : Table.lookup registry key' = some old := by
      rw [← Table.lookup_key hrow]
      exact hkey ▸ hold
    rw [← hpacket, ← Option.some.inj (hrow.symm.trans hold')]
    rfl

/-- The call hands in no `published` entry under a key whose entry, of the same packet, has been
    acknowledged. -/
def KeepsStatus (registry : PacketRegistry) : RegistryCall → Prop
  | .register entry none => entry.status = .published → registry.Registers entry →
      ¬ registry.Acknowledged entry.idempotencyKey
  | _ => True

/-- One call keeps every acknowledgement if and only if it hands in no such entry. -/
theorem acknowledged_perform_iff (registry : PacketRegistry) (call : RegistryCall) :
    (∀ key, registry.Acknowledged key → (registry.perform call).2.Acknowledged key) ↔
      registry.KeepsStatus call := by
  constructor
  · intro h
    unfold KeepsStatus
    split
    · next entry =>
        intro hpublished hregisters hacknowledged
        obtain ⟨row, hrow, hstatus⟩ := h _ hacknowledged
        have hwritten : (registry.perform (.register entry none)).2 =
            Table.upsert registry (registeredRow entry) := by
          unfold perform
          simp only [register_of_registers hregisters]
        rw [hwritten, show entry.idempotencyKey = (registeredRow entry).idempotencyKey from rfl,
          Table.lookup_upsert_self] at hrow
        cases hrow
        rw [show (registeredRow entry).status = entry.status from rfl, hpublished] at hstatus
        cases hstatus
    · trivial
  · intro h key hacknowledged
    rcases perform_cases registry call with
      hsame | ⟨entry, hcall, hregisters, hwrite⟩ | ⟨key', row, -, -, hwrite⟩
    · rwa [hsame]
    · rw [hwrite]
      refine acknowledged_upsert hacknowledged fun hkey => ?_
      cases hstatus : entry.status with
      | acknowledged => exact hstatus
      | published =>
          have hown : registry.Acknowledged entry.idempotencyKey := by
            rwa [show entry.idempotencyKey = key from hkey]
          rw [hcall] at h
          exact absurd hown (h hstatus hregisters)
    · rw [hwrite]
      exact acknowledged_upsert hacknowledged fun _ => rfl

end PacketRegistry

/-! ## Runs -/

namespace RegistryHistory

open PacketRegistry

/-- Every run from the table that `_initialize` creates. -/
def system : TransitionSystem PacketRegistry RegistryCall where
  init := Table.empty
  step registry call := some (registry.perform call).2

/-- The run is in `s` and, at that point or later, in `s'`. -/
def Passes (calls : List RegistryCall) (s s' : PacketRegistry) : Prop :=
  ∃ before between after, calls = before ++ between ++ after ∧
    system.run before = some s ∧ system.runFrom s between = some s'

/-- What the registry promises of a run. -/
structure Sound (calls : List RegistryCall) : Prop where
  mapping : ∀ s s', Passes calls s s' → ∀ key packetId, s.Maps key packetId →
    s'.Maps key packetId
  failed : ∀ s s', Passes calls s s' → ∀ call e, (s'.perform call).1 = .error e →
    (s'.perform call).2 = s'
  agrees : ∀ s s', Passes calls s s' → s'.Agrees
  acknowledged : ∀ s s', Passes calls s s' → ∀ key, s.Acknowledged key → s'.Acknowledged key

theorem step_eq {s s' : PacketRegistry} {call : RegistryCall}
    (h : system.step s call = some s') : (s.perform call).2 = s' := Option.some.inj h

theorem agrees_of_reachable {s : PacketRegistry} (h : system.Reachable s) : s.Agrees := by
  refine h.invariant (fun row hrow => by cases hrow) ?_
  intro s call s' hagrees hstep
  rw [← step_eq hstep]
  exact agrees_perform hagrees call

theorem maps_run {s s' : PacketRegistry} {calls : List RegistryCall} {key packetId : String}
    (h : s.Maps key packetId) (hrun : system.runFrom s calls = some s') : s'.Maps key packetId := by
  refine TransitionSystem.runFrom_invariant (I := fun s => s.Maps key packetId) h ?_ hrun
  intro s call s' hmaps hstep
  rw [← step_eq hstep]
  exact maps_perform hmaps call

theorem Passes.reachable {calls : List RegistryCall} {s s' : PacketRegistry}
    (h : Passes calls s s') : system.Reachable s' := by
  obtain ⟨before, between, after, -, hbefore, hbetween⟩ := h
  refine ⟨before ++ between, ?_⟩
  unfold TransitionSystem.run at hbefore ⊢
  rw [TransitionSystem.runFrom_append, hbefore]
  exact hbetween

/-- Between two points of a run whose calls all keep the status, no acknowledgement is lost. -/
theorem acknowledged_of_guarded {calls : List RegistryCall} {s s' : PacketRegistry} {key : String}
    (hguarded : system.Guarded KeepsStatus system.init calls) (hpasses : Passes calls s s')
    (h : s.Acknowledged key) : s'.Acknowledged key := by
  obtain ⟨before, between, after, rfl, hbefore, hbetween⟩ := hpasses
  rw [TransitionSystem.guarded_iff_forall] at hguarded
  have hmiddle : system.Guarded KeepsStatus s between := by
    rw [TransitionSystem.guarded_iff_forall]
    intro first call rest mid hsplit hfirst
    refine hguarded (before ++ first) call (rest ++ after) mid (by simp [hsplit]) ?_
    rw [TransitionSystem.runFrom_append,
      show system.runFrom system.init before = some s from hbefore]
    exact hfirst
  refine TransitionSystem.runFrom_guarded (I := fun s => s.Acknowledged key) h ?_ hmiddle hbetween
  intro s call s' hacknowledged hkeeps hstep
  rw [← step_eq hstep]
  exact (acknowledged_perform_iff s call).2 hkeeps key hacknowledged

/-- **Registry histories.** In every run the mapping of keys to packets only grows, a failed call
    changes nothing and every stored entry agrees with the columns beside it; acknowledgements stay
    if and only if no call of the run hands in a `published` entry for an acknowledged one. -/
theorem registry_sound_iff (calls : List RegistryCall) :
    Sound calls ↔ system.Guarded KeepsStatus system.init calls := by
  constructor
  · intro h
    rw [TransitionSystem.guarded_iff_forall]
    intro before call after mid hsplit hbefore
    rw [← acknowledged_perform_iff]
    exact h.acknowledged mid _ ⟨before, [call], after, by simp [hsplit], hbefore, rfl⟩
  · intro h
    constructor
    · rintro s s' ⟨_, _, _, _, _, hbetween⟩ key packetId hmaps
      exact maps_run hmaps hbetween
    · intro s s' _ call e hfailed
      exact perform_failed hfailed
    · intro s s' hpasses
      exact agrees_of_reachable hpasses.reachable
    · intro s s' hpasses key hacknowledged
      exact acknowledged_of_guarded h hpasses hacknowledged

/-! ## A retried registration -/

def retriedEntry : RegistryEntry where
  idempotencyKey := "sha256:k"
  packetRef :=
    { packetId := "packet:p", packetType := "l9.topology", packetVersion := "1.1.0"
      uri := "file:///store/p", semanticHash := "sha256:s", validationStatus := .passed }
  validationReceiptUri := "file:///store/p#receipts/validation-receipt.json"
  commitReceiptUri := "file:///store/commit.json"

/-- The entry is registered, acknowledged and registered again as it was the first time. -/
def retriedCalls : List RegistryCall :=
  [.register retriedEntry, .acknowledge "sha256:k", .register retriedEntry]

theorem acknowledgement_lost : ¬ ∀ calls, Sound calls := by
  intro h
  have hpasses : Passes retriedCalls
      (Table.upsert Table.empty (acknowledgedRow (registeredRow retriedEntry)))
      (Table.upsert Table.empty (registeredRow retriedEntry)) :=
    ⟨retriedCalls.take 2, retriedCalls.drop 2, [], rfl, rfl, rfl⟩
  obtain ⟨row, hrow, hstatus⟩ :=
    (h retriedCalls).acknowledged _ _ hpasses "sha256:k" ⟨_, rfl, rfl⟩
  cases hrow
  cases hstatus

end RegistryHistory

end ConstellationTopology
