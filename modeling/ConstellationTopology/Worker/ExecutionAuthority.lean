import ConstellationTopology.Library.Table
import ConstellationTopology.Worker.Contracts

set_option autoImplicit false

/-! # The execution lease store

`SqliteExecutionAuthority`: one row for each idempotency key, a dispatch nonce that no two rows
share, and the state machine `CLAIMED → PUBLISHED → ACKNOWLEDGED` (or `FAILED`). Each operation is
one `BEGIN IMMEDIATE` transaction, so it is a function from the store to its answer and the new
store. Two things come from outside: the `secrets` a claim draws, and a `fault`, the text of an
`sqlite3.Error` that a statement raises and after which the transaction is rolled back. -/

namespace ConstellationTopology

/-! ## Rows, permits and the two UNIQUE constraints -/

/-- The state of a lease. -/
inductive LeaseState
  | claimed
  | published
  | acknowledged
  | failed
  deriving DecidableEq, Repr

/-- The text stored in the `state` column. -/
def LeaseState.text : LeaseState → String
  | claimed => "CLAIMED"
  | published => "PUBLISHED"
  | acknowledged => "ACKNOWLEDGED"
  | failed => "FAILED"

/-- A capability to perform one stage's protected side effects. -/
structure ExecutionPermit where
  idempotencyKey : String
  dispatchNonce : String
  stageId : String
  packetId : String
  leaseId : String
  fenceToken : String
  deriving DecidableEq, Repr

/-- Either a fresh permit or a reuse signal. -/
structure AcquireOutcome where
  permit : Option ExecutionPermit := none
  reuse : Bool := false
  deriving DecidableEq, Repr

/-- A row of `execution_lease`; `result` is what `result_json` serializes. -/
structure LeaseRow where
  idempotencyKey : String
  dispatchNonce : String
  stageId : String
  packetId : String
  leaseId : String
  fenceToken : String
  state : LeaseState
  result : Option PacketRef
  deriving DecidableEq, Repr

/-- The keyword arguments of `acquire`. -/
structure AcquireRequest where
  idempotencyKey : String
  packetId : String
  dispatchNonce : String
  stageId : String
  deriving DecidableEq, Repr

/-- What `secrets.token_hex` returns to a claim. -/
structure Secrets where
  leaseId : String
  fenceToken : String
  deriving DecidableEq, Repr

/-- `execution_lease` with `PRIMARY KEY(idempotency_key)` and `UNIQUE(dispatch_nonce)`. -/
structure LeaseStore extends Table LeaseRow.idempotencyKey where
  nonces_nodup : (rows.map LeaseRow.dispatchNonce).Nodup

/-- The text of the `sqlite3.Error` an operation runs into, if any. -/
abbrev SqliteFault := Option String

namespace LeaseStore

/-- No lease was ever taken. -/
def empty : LeaseStore := ⟨Table.empty, List.nodup_nil⟩

/-- No row of another key has this nonce. -/
def NonceFree (s : LeaseStore) (idempotencyKey dispatchNonce : String) : Prop :=
  ∀ r ∈ s.rows, r.dispatchNonce = dispatchNonce → r.idempotencyKey = idempotencyKey

instance (s : LeaseStore) (k n : String) : Decidable (s.NonceFree k n) :=
  inferInstanceAs (Decidable (∀ r ∈ s.rows, _))

/-- Write a whole row; the error is the text of sqlite's `IntegrityError`. -/
def update (s : LeaseStore) (row : LeaseRow) : Except String LeaseStore :=
  if h : s.NonceFree row.idempotencyKey row.dispatchNonce then
    .ok ⟨s.upsert row, upsertRows_column_nodup s.keys_nodup s.nonces_nodup h⟩
  else .error "UNIQUE constraint failed: execution_lease.dispatch_nonce"

/-- `INSERT`: the key must be new as well. -/
def insert (s : LeaseStore) (row : LeaseRow) : Except String LeaseStore :=
  match s.lookup row.idempotencyKey with
  | some _ => .error "UNIQUE constraint failed: execution_lease.idempotency_key"
  | none => s.update row

end LeaseStore

/-! ## Errors of the authority -/

/-- The nonce was used before. -/
def dispatchNonceReplayed : WorkerError where
  code := "dispatch-nonce-replayed"
  message := "dispatch nonce has already been used for a different stage claim"
  blocked := true

/-- Another worker holds the lease. -/
def executionLeaseContended (message : String) : WorkerError where
  code := "execution-lease-contended"
  message := message
  retryable := true

/-- The worker does not hold the lease any more. -/
def executionLeaseLost (message : String) : WorkerError where
  code := "execution-lease-lost"
  message := message
  blocked := true

/-- The store cannot be read. -/
def executionAuthorityReadFailed (exc : String) : WorkerError where
  code := "execution-authority-read-failed"
  message := exc
  retryable := true

/-- The store cannot be written. -/
def executionAuthorityWriteFailed (message : String) : WorkerError where
  code := "execution-authority-write-failed"
  message := message
  retryable := true

/-- No lease goes from the one state to the other. -/
def executionLeaseInvalidTransition (source target : LeaseState) : WorkerError where
  code := "execution-lease-invalid-transition"
  message := "cannot move lease from " ++ source.text ++ " to " ++ target.text
  blocked := true

/-! ## The five operations -/

/-- The permit a successful claim hands out. -/
def AcquireRequest.permit (request : AcquireRequest) (secrets : Secrets) : ExecutionPermit where
  idempotencyKey := request.idempotencyKey
  dispatchNonce := request.dispatchNonce
  stageId := request.stageId
  packetId := request.packetId
  leaseId := secrets.leaseId
  fenceToken := secrets.fenceToken

/-- The row a successful claim writes. -/
def AcquireRequest.claimedRow (request : AcquireRequest) (secrets : Secrets) : LeaseRow where
  idempotencyKey := request.idempotencyKey
  dispatchNonce := request.dispatchNonce
  stageId := request.stageId
  packetId := request.packetId
  leaseId := secrets.leaseId
  fenceToken := secrets.fenceToken
  state := .claimed
  result := none

namespace LeaseStore

/-- `_resume_existing`: `acquire` when the key already has a row. -/
def resumeExisting (s : LeaseStore) (row : LeaseRow) (request : AcquireRequest)
    (secrets : Secrets) : Except WorkerError AcquireOutcome × LeaseStore :=
  match row.state with
  | .published | .acknowledged => (.ok { reuse := true }, s)
  | .claimed =>
      (.error (executionLeaseContended
        "another worker holds an active lease for this idempotency key"), s)
  | .failed =>
      -- a nonce other than the row's own must not belong to another key's row
      let nonceHolder :=
        if row.dispatchNonce = request.dispatchNonce then none
        else (s.lookupBy LeaseRow.dispatchNonce request.dispatchNonce).filter
          fun holder => holder.idempotencyKey ≠ row.idempotencyKey
      match nonceHolder with
      | some _ => (.error dispatchNonceReplayed, s)
      | none =>
          let request := { request with idempotencyKey := row.idempotencyKey }
          match s.update (request.claimedRow secrets) with
          | .error exc =>
              (.error (executionLeaseContended
                ("execution lease is already held for this claim: " ++ exc)), s)
          | .ok s' => (.ok { permit := some (request.permit secrets) }, s')

/-- `acquire`. -/
def acquire (s : LeaseStore) (request : AcquireRequest) (secrets : Secrets)
    (fault : SqliteFault) : Except WorkerError AcquireOutcome × LeaseStore :=
  match fault with
  | some exc => (.error (executionAuthorityWriteFailed exc), s)
  | none =>
      match s.lookup request.idempotencyKey with
      | some row => s.resumeExisting row request secrets
      | none =>
          match s.lookupBy LeaseRow.dispatchNonce request.dispatchNonce with
          | some _ => (.error dispatchNonceReplayed, s)
          | none =>
              match s.insert (request.claimedRow secrets) with
              | .error exc =>
                  (.error (executionLeaseContended
                    ("execution lease is already held for this claim: " ++ exc)), s)
              | .ok s' => (.ok { permit := some (request.permit secrets) }, s')

/-- `_load_active`: the row of the permit's key, if it carries the permit's secrets. -/
def loadActive (s : LeaseStore) (permit : ExecutionPermit) : Except WorkerError LeaseRow :=
  match s.lookup permit.idempotencyKey with
  | none => .error (executionLeaseLost "execution lease is no longer held by this worker")
  | some row =>
      if row.leaseId ≠ permit.leaseId ∨ row.fenceToken ≠ permit.fenceToken then
        .error (executionLeaseLost "execution lease is no longer held by this worker")
      else .ok row

/-- `assert_active`. -/
def assertActive (s : LeaseStore) (permit : ExecutionPermit) (fault : SqliteFault) :
    Except WorkerError Unit :=
  match fault with
  | some exc => .error (executionAuthorityReadFailed exc)
  | none =>
      match s.loadActive permit with
      | .error e => .error e
      | .ok row =>
          if row.state ≠ .claimed then
            .error (executionLeaseLost
              ("execution lease is not active: state=" ++ row.state.text))
          else .ok ()

/-- `_transition`; a `result` is written only when one is given. -/
def transition (s : LeaseStore) (permit : ExecutionPermit) (expected target : LeaseState)
    (result : Option PacketRef) (fault : SqliteFault) : Except WorkerError Unit × LeaseStore :=
  match fault with
  | some exc => (.error (executionAuthorityWriteFailed exc), s)
  | none =>
      match s.loadActive permit with
      | .error e => (.error e, s)
      | .ok row =>
          if row.state ≠ expected then
            (.error (executionLeaseInvalidTransition row.state target), s)
          else
            match s.update { row with state := target, result := result.or row.result } with
            | .error exc => (.error (executionAuthorityWriteFailed exc), s)
            | .ok s' => (.ok (), s')

/-- `finalize`. -/
def finalize (s : LeaseStore) (permit : ExecutionPermit) (result : PacketRef)
    (fault : SqliteFault) : Except WorkerError Unit × LeaseStore :=
  s.transition permit .claimed .published (some result) fault

/-- `release`. -/
def release (s : LeaseStore) (permit : ExecutionPermit) (fault : SqliteFault) :
    Except WorkerError Unit × LeaseStore :=
  s.transition permit .published .acknowledged none fault

/-- Best-effort release of a claimed lease; anything but the permit's own `CLAIMED` row is left
    alone, without an error. -/
def fail (s : LeaseStore) (permit : ExecutionPermit) (reason : String) (fault : SqliteFault) :
    Except WorkerError Unit × LeaseStore :=
  match fault with
  | some exc =>
      (.error (executionAuthorityWriteFailed
        (if reason ≠ "" then reason ++ ": " ++ exc else exc)), s)
  | none =>
      match s.lookup permit.idempotencyKey with
      | none => (.ok (), s)
      | some row =>
          if row.leaseId ≠ permit.leaseId ∨ row.fenceToken ≠ permit.fenceToken
              ∨ row.state ≠ .claimed then (.ok (), s)
          else
            match s.update { row with state := .failed } with
            | .error exc =>
                (.error (executionAuthorityWriteFailed
                  (if reason ≠ "" then reason ++ ": " ++ exc else exc)), s)
            | .ok s' => (.ok (), s')

/-! ## What each operation can do

One lemma for each operation, guards included; the safety proofs use these and never unfold an
operation. -/

theorem update_of_nonceFree {s : LeaseStore} (row : LeaseRow)
    (h : s.NonceFree row.idempotencyKey row.dispatchNonce) :
    ∃ s', s.update row = .ok s' ∧ s'.toTable = s.upsert row := by
  refine ⟨_, dif_pos h, rfl⟩

/-- A stored row may always be rewritten under its own nonce. -/
theorem nonceFree_of_lookup {s : LeaseStore} {k : String} {row : LeaseRow}
    (h : s.lookup k = some row) : s.NonceFree row.idempotencyKey row.dispatchNonce := by
  intro r hr heq
  rw [List.inj_on_of_nodup_map s.nonces_nodup hr (Table.lookup_mem h) heq]

/-- The claim guard: the key has no row or a `FAILED` one, and no other key holds the nonce. -/
def Claimable (s : LeaseStore) (request : AcquireRequest) : Prop :=
  (∀ row, s.lookup request.idempotencyKey = some row → row.state = .failed) ∧
    s.NonceFree request.idempotencyKey request.dispatchNonce

/-- The nonce check of `_resume_existing` is exactly `NonceFree`. -/
theorem nonceHolder_eq_none_iff {s : LeaseStore} {k n : String} {row : LeaseRow}
    (h : s.lookup k = some row) :
    (if row.dispatchNonce = n then none
      else (s.lookupBy LeaseRow.dispatchNonce n).filter
        fun holder => holder.idempotencyKey ≠ row.idempotencyKey) = none ↔ s.NonceFree k n := by
  have hk : row.idempotencyKey = k := Table.lookup_key h
  constructor
  · intro hnone r hr hrn
    by_cases hown : row.dispatchNonce = n
    · exact hk ▸ nonceFree_of_lookup h r hr (hrn.trans hown.symm)
    · rw [if_neg hown,
        (Table.lookupBy_eq_some_iff s.toTable n r s.nonces_nodup).2 ⟨hr, hrn⟩] at hnone
      simpa [hk] using hnone
  · intro hfree
    split
    · rfl
    · cases hf : s.lookupBy LeaseRow.dispatchNonce n with
      | none => rfl
      | some r =>
          obtain ⟨hr, hrn⟩ := (Table.lookupBy_eq_some_iff s.toTable n r s.nonces_nodup).1 hf
          simp [hfree r hr hrn, hk]

/-- `acquire` grants a fresh claim when the guard holds and sqlite does not fail. -/
theorem acquire_of_claimable {s : LeaseStore} {request : AcquireRequest} (secrets : Secrets)
    (h : s.Claimable request) :
    (s.acquire request secrets none).1 = .ok { permit := some (request.permit secrets) } ∧
      (s.acquire request secrets none).2.toTable = s.upsert (request.claimedRow secrets) := by
  obtain ⟨hfailed, hfree⟩ := h
  obtain ⟨s', hs', htable⟩ := update_of_nonceFree (request.claimedRow secrets) hfree
  cases hrow : s.lookup request.idempotencyKey with
  | some row =>
      have hk : row.idempotencyKey = request.idempotencyKey := Table.lookup_key hrow
      have hself : { request with idempotencyKey := row.idempotencyKey } = request := by rw [hk]
      simp only [acquire, hrow, resumeExisting, hfailed row hrow,
        (nonceHolder_eq_none_iff hrow).2 hfree, hself, hs']
      exact ⟨trivial, htable⟩
  | none =>
      have hholder : s.lookupBy LeaseRow.dispatchNonce request.dispatchNonce = none := by
        rw [Table.lookupBy_eq_none_iff]
        intro r hr hrn
        exact (Table.lookup_eq_none_iff s.toTable _).1 hrow r hr (hfree r hr hrn)
      have hinsert : s.insert (request.claimedRow secrets) = .ok s' := by
        have hnone : s.lookup (request.claimedRow secrets).idempotencyKey = none := hrow
        simp only [insert, hnone, hs']
      simp only [acquire, hrow, hholder, hinsert]
      exact ⟨trivial, htable⟩

/-- Otherwise it grants nothing and leaves the store alone. -/
theorem acquire_of_not_claimable {s : LeaseStore} {request : AcquireRequest} (secrets : Secrets)
    {fault : SqliteFault} (h : ¬ (fault = none ∧ s.Claimable request)) :
    (s.acquire request secrets fault).2 = s ∧
      ∀ outcome, (s.acquire request secrets fault).1 = .ok outcome → outcome.permit = none := by
  cases fault with
  | some exc => simp [acquire]
  | none =>
      have hnot : ¬ s.Claimable request := fun hc => h ⟨rfl, hc⟩
      cases hrow : s.lookup request.idempotencyKey with
      | none =>
          cases hholder : s.lookupBy LeaseRow.dispatchNonce request.dispatchNonce with
          | some r => simp [acquire, hrow, hholder]
          | none =>
              refine absurd ⟨?_, ?_⟩ hnot
              · simp [hrow]
              · intro r hr hrn
                exact absurd hrn ((Table.lookupBy_eq_none_iff s.toTable _ _).1 hholder r hr)
      | some row =>
          simp only [acquire, hrow]
          unfold resumeExisting
          cases hstate : row.state with
          | published => simp
          | acknowledged => simp
          | claimed => simp
          | failed =>
              have hheld : ¬ s.NonceFree request.idempotencyKey request.dispatchNonce := by
                intro hfree
                refine hnot ⟨?_, hfree⟩
                intro row' hrow'
                rw [hrow] at hrow'
                cases hrow'
                exact hstate
              have hholder := mt (nonceHolder_eq_none_iff hrow).1 hheld
              obtain ⟨r, hr⟩ := Option.ne_none_iff_exists'.1 hholder
              simp only [hr]
              exact ⟨trivial, fun outcome hout => by cases hout⟩

/-- The key's protected work is finalized: its row is `PUBLISHED` or `ACKNOWLEDGED`. -/
def Settled (s : LeaseStore) (k : String) : Prop :=
  ∃ row, s.lookup k = some row ∧ (row.state = .published ∨ row.state = .acknowledged)

/-- `acquire` answers reuse exactly for a settled key. -/
theorem acquire_reuse_iff {s : LeaseStore} {request : AcquireRequest} {secrets : Secrets}
    {fault : SqliteFault} :
    (∃ outcome, (s.acquire request secrets fault).1 = .ok outcome ∧ outcome.permit = none) ↔
      fault = none ∧ s.Settled request.idempotencyKey := by
  constructor
  · rintro ⟨outcome, hout, hpermit⟩
    by_cases hc : fault = none ∧ s.Claimable request
    · obtain ⟨rfl, hc⟩ := hc
      rw [(acquire_of_claimable secrets hc).1] at hout
      cases hout
      cases hpermit
    · cases fault with
      | some exc => simp [acquire] at hout
      | none =>
          refine ⟨rfl, ?_⟩
          cases hrow : s.lookup request.idempotencyKey with
          | none =>
              simp only [acquire, hrow] at hout
              split at hout
              · cases hout
              · split at hout
                · cases hout
                · cases hout
                  cases hpermit
          | some row =>
              refine ⟨row, hrow, ?_⟩
              simp only [acquire, hrow] at hout
              unfold resumeExisting at hout
              cases hstate : row.state with
              | published => exact Or.inl rfl
              | acknowledged => exact Or.inr rfl
              | claimed => simp [hstate] at hout
              | failed =>
                  simp only [hstate] at hout
                  split at hout
                  · cases hout
                  · split at hout
                    · cases hout
                    · cases hout
                      cases hpermit
  · rintro ⟨rfl, row, hrow, hstate⟩
    refine ⟨{ reuse := true }, ?_, rfl⟩
    simp only [acquire, hrow]
    unfold resumeExisting
    rcases hstate with hstate | hstate <;> simp [hstate]

/-- The row carries the permit's key and secrets. -/
def Holds (s : LeaseStore) (permit : ExecutionPermit) (row : LeaseRow) : Prop :=
  s.lookup permit.idempotencyKey = some row ∧ row.leaseId = permit.leaseId ∧
    row.fenceToken = permit.fenceToken

/-- A granted permit is for the requested key, and its row is claimed. -/
theorem acquire_granted {s : LeaseStore} {request : AcquireRequest} {secrets : Secrets}
    {fault : SqliteFault} {permit : ExecutionPermit} {reuse : Bool}
    (h : (s.acquire request secrets fault).1 = .ok { permit := some permit, reuse }) :
    permit.idempotencyKey = request.idempotencyKey ∧
      ∃ row, (s.acquire request secrets fault).2.Holds permit row ∧ row.state = .claimed := by
  by_cases hc : fault = none ∧ s.Claimable request
  · obtain ⟨rfl, hc⟩ := hc
    obtain ⟨hanswer, htable⟩ := acquire_of_claimable secrets hc
    rw [hanswer] at h
    cases h
    refine ⟨rfl, request.claimedRow secrets, ⟨?_, rfl, rfl⟩, rfl⟩
    rw [htable]
    exact Table.lookup_upsert_self _ _
  · exact absurd ((acquire_of_not_claimable secrets hc).2 _ h) (by simp)

theorem loadActive_eq_ok_iff {s : LeaseStore} {permit : ExecutionPermit} {row : LeaseRow} :
    s.loadActive permit = .ok row ↔ s.Holds permit row := by
  unfold loadActive Holds
  cases s.lookup permit.idempotencyKey with
  | none => simp
  | some r =>
      by_cases hlost : r.leaseId ≠ permit.leaseId ∨ r.fenceToken ≠ permit.fenceToken
      · simp only [if_pos hlost, Option.some.injEq, reduceCtorEq, false_iff]
        rintro ⟨rfl, hlease, hfence⟩
        exact hlost.elim (fun h => h hlease) fun h => h hfence
      · simp only [if_neg hlost, Except.ok.injEq, Option.some.injEq]
        simp only [not_or, not_not] at hlost
        exact ⟨fun h => ⟨h, h ▸ hlost⟩, fun h => h.1⟩

theorem assertActive_eq_ok_iff {s : LeaseStore} {permit : ExecutionPermit} {fault : SqliteFault} :
    s.assertActive permit fault = .ok () ↔
      fault = none ∧ ∃ row, s.Holds permit row ∧ row.state = .claimed := by
  cases fault with
  | some exc => simp [assertActive]
  | none =>
      simp only [assertActive, true_and, ← loadActive_eq_ok_iff]
      cases s.loadActive permit with
      | error e => simp
      | ok row => by_cases hstate : row.state = .claimed <;> simp [hstate]

/-- `_transition` either fails and changes nothing, or moves the permit's own row. -/
theorem transition_cases (s : LeaseStore) (permit : ExecutionPermit)
    (expected target : LeaseState) (result : Option PacketRef) (fault : SqliteFault) :
    ((s.transition permit expected target result fault).2 = s ∧
        (∃ e, (s.transition permit expected target result fault).1 = .error e) ∧
        ¬ (fault = none ∧ ∃ row, s.Holds permit row ∧ row.state = expected)) ∨
      (fault = none ∧ ∃ row, s.Holds permit row ∧ row.state = expected ∧
        (s.transition permit expected target result fault).1 = .ok () ∧
        (s.transition permit expected target result fault).2.toTable =
          s.upsert { row with state := target, result := result.or row.result }) := by
  cases fault with
  | some exc => exact Or.inl ⟨rfl, ⟨_, rfl⟩, by simp⟩
  | none =>
      cases hload : s.loadActive permit with
      | error e =>
          refine Or.inl ⟨by simp [transition, hload], ⟨e, by simp [transition, hload]⟩, ?_⟩
          rintro ⟨-, row, hrow, -⟩
          rw [loadActive_eq_ok_iff.2 hrow] at hload
          cases hload
      | ok row =>
          have hholds := loadActive_eq_ok_iff.1 hload
          by_cases hstate : row.state = expected
          · -- the row keeps its nonce, so the `UPDATE` cannot break `UNIQUE`
            have hfree : s.NonceFree row.idempotencyKey row.dispatchNonce :=
              nonceFree_of_lookup hholds.1
            obtain ⟨s', hs', htable⟩ := update_of_nonceFree
              { row with state := target, result := result.or row.result } hfree
            refine Or.inr ⟨rfl, row, hholds, hstate, ?_⟩
            simp [transition, hload, hstate, hs', htable]
          · refine Or.inl ⟨by simp [transition, hload, hstate],
              ⟨executionLeaseInvalidTransition row.state target,
                by simp [transition, hload, hstate]⟩, ?_⟩
            rintro ⟨-, row', hrow', hstate'⟩
            have heq : row' = row := by
              have := hrow'.1.symm.trans hholds.1
              exact Option.some.inj this
            exact hstate (heq ▸ hstate')

/-- `fail` changes nothing but a `CLAIMED` row of the permit. -/
theorem fail_cases (s : LeaseStore) (permit : ExecutionPermit) (reason : String)
    (fault : SqliteFault) :
    ((s.fail permit reason fault).2 = s ∧
        ¬ (fault = none ∧ ∃ row, s.Holds permit row ∧ row.state = .claimed)) ∨
      (fault = none ∧ ∃ row, s.Holds permit row ∧ row.state = .claimed ∧
        (s.fail permit reason fault).1 = .ok () ∧
        (s.fail permit reason fault).2.toTable = s.upsert { row with state := .failed }) := by
  cases fault with
  | some exc => exact Or.inl ⟨rfl, by simp⟩
  | none =>
      cases hrow : s.lookup permit.idempotencyKey with
      | none => exact Or.inl ⟨by simp [fail, hrow], by simp [Holds, hrow]⟩
      | some row =>
          by_cases hlost : row.leaseId ≠ permit.leaseId ∨ row.fenceToken ≠ permit.fenceToken
              ∨ row.state ≠ .claimed
          · refine Or.inl ⟨by simp only [fail, hrow, if_pos hlost], ?_⟩
            rintro ⟨-, row', ⟨hrow', hlease, hfence⟩, hstate⟩
            rw [hrow] at hrow'
            cases hrow'
            rcases hlost with h | h | h
            · exact h hlease
            · exact h hfence
            · exact h hstate
          · have hheld := hlost
            simp only [not_or, not_not] at hheld
            have hfree : s.NonceFree row.idempotencyKey row.dispatchNonce :=
              nonceFree_of_lookup hrow
            obtain ⟨s', hs', htable⟩ := update_of_nonceFree { row with state := .failed } hfree
            refine Or.inr ⟨rfl, row, ⟨hrow, hheld.1, hheld.2.1⟩, hheld.2.2, ?_⟩
            simp only [fail, hrow, if_neg hlost, hs']
            exact ⟨trivial, htable⟩

/-! ## Settled keys -/

/-- Writing a row settles its key or not, by its state, and concerns no other key. -/
theorem settled_of_upsert {s s' : LeaseStore} {row : LeaseRow} {k : String}
    (h : s'.toTable = s.upsert row) :
    s'.Settled k ↔ if k = row.idempotencyKey then row.state = .published ∨ row.state = .acknowledged
      else s.Settled k := by
  unfold Settled
  rw [h, Table.lookup_upsert]
  split
  · simp
  · rfl

/-- A claim settles nothing and unsettles nothing. -/
theorem settled_acquire (s : LeaseStore) (request : AcquireRequest) (secrets : Secrets)
    (fault : SqliteFault) (k : String) :
    (s.acquire request secrets fault).2.Settled k ↔ s.Settled k := by
  by_cases hc : fault = none ∧ s.Claimable request
  · obtain ⟨rfl, hc⟩ := hc
    rw [settled_of_upsert (acquire_of_claimable secrets hc).2]
    split
    · next hk =>
        have hkey : k = request.idempotencyKey := hk
        subst hkey
        simp only [AcquireRequest.claimedRow, reduceCtorEq, or_self, false_iff]
        rintro ⟨row, hrow, hstate⟩
        rw [hc.1 row hrow] at hstate
        simp at hstate
    · rfl
  · rw [(acquire_of_not_claimable secrets hc).1]

/-- `finalize` settles exactly its own key, when it succeeds. -/
theorem settled_finalize (s : LeaseStore) (permit : ExecutionPermit) (result : PacketRef)
    (fault : SqliteFault) (k : String) :
    (s.finalize permit result fault).2.Settled k ↔
      s.Settled k ∨ ((s.finalize permit result fault).1 = .ok () ∧ k = permit.idempotencyKey) := by
  rcases s.transition_cases permit .claimed .published (some result) fault with
    ⟨hstore, ⟨e, herror⟩, -⟩ | ⟨-, row, hholds, -, hok, htable⟩
  · simp only [finalize, hstore, herror, reduceCtorEq, false_and, or_false]
  · have hkey : row.idempotencyKey = permit.idempotencyKey := Table.lookup_key hholds.1
    unfold finalize
    rw [settled_of_upsert htable, hok]
    simp only [hkey]
    by_cases hk : k = permit.idempotencyKey <;> simp [hk]

/-- `release` only acknowledges a settled key. -/
theorem settled_release (s : LeaseStore) (permit : ExecutionPermit) (fault : SqliteFault)
    (k : String) : (s.release permit fault).2.Settled k ↔ s.Settled k := by
  rcases s.transition_cases permit .published .acknowledged none fault with
    ⟨hstore, -⟩ | ⟨-, row, hholds, hstate, -, htable⟩
  · simp only [release, hstore]
  · have hkey : row.idempotencyKey = permit.idempotencyKey := Table.lookup_key hholds.1
    unfold release
    rw [settled_of_upsert htable]
    split
    · next hk =>
        have hown : k = permit.idempotencyKey := hk.trans hkey
        exact iff_of_true (Or.inr rfl) ⟨row, hown ▸ hholds.1, Or.inl hstate⟩
    · rfl

/-- `fail` never undoes finalized work. -/
theorem settled_fail (s : LeaseStore) (permit : ExecutionPermit) (reason : String)
    (fault : SqliteFault) (k : String) :
    (s.fail permit reason fault).2.Settled k ↔ s.Settled k := by
  rcases s.fail_cases permit reason fault with
    ⟨hstore, -⟩ | ⟨-, row, hholds, hstate, -, htable⟩
  · rw [hstore]
  · have hkey : row.idempotencyKey = permit.idempotencyKey := Table.lookup_key hholds.1
    rw [settled_of_upsert htable]
    split
    · next hk =>
        have hown : k = permit.idempotencyKey := hk.trans hkey
        simp only [reduceCtorEq, or_self, false_iff]
        rintro ⟨row', hrow', hsettled⟩
        have hsame : row' = row := by
          rw [hown] at hrow'
          exact Option.some.inj (hrow'.symm.trans hholds.1)
        subst hsame
        rw [hstate] at hsettled
        simp at hsettled
    · rfl

end LeaseStore

end ConstellationTopology
