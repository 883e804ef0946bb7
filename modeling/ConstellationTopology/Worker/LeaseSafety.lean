import ConstellationTopology.Library.Transition
import ConstellationTopology.Worker.ExecutionAuthority

set_option autoImplicit false

/-! # Safety of the execution lease over whole runs

Any workers call the five operations in any order. A run is the list of their calls; its state is
the store together with two histories that the store itself forgets: the permits issued so far and
the nonces that re-claims of `FAILED` leases have overwritten.

`LeaseHistory.step_cases` says once what a call can do. From it follow the link between the stored
secrets and the last issued permit (`linked_of_reachable`), lease safety (`lease_safety`) and the
exact condition under which a nonce stays bound to one key (`nonces_bound_iff_guarded`). -/

namespace ConstellationTopology

/-! ## Calls and histories -/

/-- The calls a worker makes. -/
inductive LeaseOperation
  | acquire (request : AcquireRequest) (secrets : Secrets)
  | assertActive (permit : ExecutionPermit)
  | finalize (permit : ExecutionPermit) (result : PacketRef)
  | release (permit : ExecutionPermit)
  | fail (permit : ExecutionPermit) (reason : String)

/-- One call by some worker, with the sqlite error it runs into, if any. -/
structure LeaseCall where
  operation : LeaseOperation
  fault : SqliteFault := none

/-- The permit the caller presents. -/
def LeaseOperation.permit? : LeaseOperation → Option ExecutionPermit
  | acquire _ _ => none
  | assertActive permit | finalize permit _ | release permit | fail permit _ => some permit

/-- The key whose row the operation is about. -/
def LeaseOperation.idempotencyKey : LeaseOperation → String
  | acquire request _ => request.idempotencyKey
  | assertActive permit | finalize permit _ | release permit | fail permit _ =>
      permit.idempotencyKey

/-- The store, with what was granted and used so far. -/
structure LeaseHistory where
  store : LeaseStore
  /-- every permit granted so far, oldest first -/
  issued : List ExecutionPermit
  /-- the `(key, nonce)` pairs that a re-claim of a `FAILED` lease has overwritten -/
  dropped : List (String × String)

/-- The nonce of its own row that a granted claim overwrites. -/
def LeaseStore.droppedBy (s : LeaseStore) (request : AcquireRequest) : List (String × String) :=
  match s.lookup request.idempotencyKey with
  | none => []
  | some row =>
      if row.dispatchNonce = request.dispatchNonce then []
      else [(row.idempotencyKey, row.dispatchNonce)]

namespace LeaseHistory

/-- Before any call. -/
def initial : LeaseHistory := ⟨LeaseStore.empty, [], []⟩

/-- One call. -/
def step (h : LeaseHistory) (call : LeaseCall) : LeaseHistory :=
  match call.operation with
  | .acquire request secrets =>
      let answer := h.store.acquire request secrets call.fault
      match answer.1 with
      | .ok { permit := some permit, .. } =>
          { store := answer.2
            issued := h.issued ++ [permit]
            dropped := h.dropped ++ h.store.droppedBy request }
      | _ => { h with store := answer.2 }
  | .assertActive _ => h
  | .finalize permit result => { h with store := (h.store.finalize permit result call.fault).2 }
  | .release permit => { h with store := (h.store.release permit call.fault).2 }
  | .fail permit reason => { h with store := (h.store.fail permit reason call.fault).2 }

/-- Every run of the authority from an empty store. -/
def system : TransitionSystem LeaseHistory LeaseCall where
  init := initial
  step h call := some (h.step call)

end LeaseHistory

/-! ## What one call can do -/

/-- The moves of the lease state machine. -/
inductive LeaseState.Moves : LeaseState → LeaseState → Prop
  | finalize : Moves claimed published
  | release : Moves published acknowledged
  | fail : Moves claimed failed
  | reclaim : Moves failed claimed

/-- The row after `finalize`, `release` or `fail`: same claim, one move on. -/
structure LeaseRow.Advances (row row' : LeaseRow) : Prop where
  key : row'.idempotencyKey = row.idempotencyKey
  nonce : row'.dispatchNonce = row.dispatchNonce
  lease : row'.leaseId = row.leaseId
  fence : row'.fenceToken = row.fenceToken
  moves : row.state.Moves row'.state
  not_reclaim : row'.state ≠ .claimed

/-- A granted claim, as the history sees it. -/
structure LeaseHistory.Grants (h h' : LeaseHistory) (request : AcquireRequest)
    (secrets : Secrets) : Prop where
  claimable : h.store.Claimable request
  store : h'.store.toTable = h.store.upsert (request.claimedRow secrets)
  issued : h'.issued = h.issued ++ [request.permit secrets]
  dropped : h'.dropped = h.dropped ++ h.store.droppedBy request

namespace LeaseHistory

theorem grants_step {h : LeaseHistory} {request : AcquireRequest} (secrets : Secrets)
    (hc : h.store.Claimable request) :
    h.Grants (h.step { operation := .acquire request secrets }) request secrets := by
  obtain ⟨hout, htable⟩ := LeaseStore.acquire_of_claimable secrets hc
  constructor
  · exact hc
  all_goals simp [step, hout, htable]

/-- **Step lemma.** A call changes nothing, or grants a claim, or advances the row its permit
    holds. -/
theorem step_cases (h : LeaseHistory) (call : LeaseCall) :
    h.step call = h ∨
      (∃ request secrets, call.operation = .acquire request secrets ∧ call.fault = none ∧
        h.Grants (h.step call) request secrets) ∨
      (∃ permit row row', call.operation.permit? = some permit ∧ h.store.Holds permit row ∧
        row.Advances row' ∧ (h.step call).store.toTable = h.store.upsert row' ∧
        (h.step call).issued = h.issued ∧ (h.step call).dropped = h.dropped) := by
  obtain ⟨operation, fault⟩ := call
  cases operation with
  | acquire request secrets =>
      by_cases hc : fault = none ∧ h.store.Claimable request
      · obtain ⟨rfl, hc⟩ := hc
        exact Or.inr (Or.inl ⟨request, secrets, rfl, rfl, grants_step secrets hc⟩)
      · obtain ⟨hstore, hout⟩ := LeaseStore.acquire_of_not_claimable secrets hc
        left
        simp only [step]
        split
        · next heq => simpa using hout _ heq
        · rw [hstore]
  | assertActive permit => exact Or.inl rfl
  | finalize permit result =>
      rcases h.store.transition_cases permit .claimed .published (some result) fault with
        ⟨hstore, -⟩ | ⟨-, row, hholds, hstate, -, htable⟩
      · left
        simp only [step, LeaseStore.finalize, hstore]
      · refine Or.inr (Or.inr ⟨permit, row, _, rfl, hholds, ?_, htable, rfl, rfl⟩)
        exact ⟨rfl, rfl, rfl, rfl, hstate ▸ .finalize, by simp⟩
  | release permit =>
      rcases h.store.transition_cases permit .published .acknowledged none fault with
        ⟨hstore, -⟩ | ⟨-, row, hholds, hstate, -, htable⟩
      · left
        simp only [step, LeaseStore.release, hstore]
      · refine Or.inr (Or.inr ⟨permit, row, _, rfl, hholds, ?_, htable, rfl, rfl⟩)
        exact ⟨rfl, rfl, rfl, rfl, hstate ▸ .release, by simp⟩
  | fail permit reason =>
      rcases h.store.fail_cases permit reason fault with
        ⟨hstore, -⟩ | ⟨-, row, hholds, hstate, -, htable⟩
      · left
        simp only [step, hstore]
      · refine Or.inr (Or.inr ⟨permit, row, _, rfl, hholds, ?_, htable, rfl, rfl⟩)
        exact ⟨rfl, rfl, rfl, rfl, hstate ▸ .fail, by simp⟩

end LeaseHistory

/-! ## The stored secrets are those of the last permit issued for the key -/

/-- What only the backing store and the permit know. -/
def ExecutionPermit.secret (permit : ExecutionPermit) : String × String :=
  (permit.leaseId, permit.fenceToken)

/-- The part of a permit that its row stores. -/
def ExecutionPermit.credential (permit : ExecutionPermit) : String × String × String :=
  (permit.dispatchNonce, permit.leaseId, permit.fenceToken)

/-- What the holder of a lease shows. -/
def LeaseRow.credential (row : LeaseRow) : String × String × String :=
  (row.dispatchNonce, row.leaseId, row.fenceToken)

namespace LeaseHistory

/-- The last permit issued for the key. -/
def current (h : LeaseHistory) (k : String) : Option ExecutionPermit :=
  (h.issued.filter fun permit => permit.idempotencyKey = k).getLast?

/-- The invariant that links the store to the permits: a key has a row exactly when a permit was
    issued for it, and the row carries what the last of them carries. -/
def Linked (h : LeaseHistory) : Prop :=
  ∀ k, (h.store.lookup k).map LeaseRow.credential =
    (h.current k).map ExecutionPermit.credential

theorem current_append_self (h : LeaseHistory) {h' : LeaseHistory} {permit : ExecutionPermit}
    (hissued : h'.issued = h.issued ++ [permit]) :
    h'.current permit.idempotencyKey = some permit := by
  simp [current, hissued]

theorem current_append_ne (h : LeaseHistory) {h' : LeaseHistory} {permit : ExecutionPermit}
    (hissued : h'.issued = h.issued ++ [permit]) {k : String} (hk : k ≠ permit.idempotencyKey) :
    h'.current k = h.current k := by
  simp [current, hissued, Ne.symm hk]

theorem current_mem {h : LeaseHistory} {k : String} {permit : ExecutionPermit}
    (hcur : h.current k = some permit) : permit ∈ h.issued ∧ permit.idempotencyKey = k := by
  have hmem := List.mem_of_getLast? hcur
  simpa using hmem

theorem lookup_claimed_self (s : LeaseStore) (request : AcquireRequest) (secrets : Secrets) :
    (s.upsert (request.claimedRow secrets)).lookup request.idempotencyKey =
      some (request.claimedRow secrets) :=
  Table.lookup_upsert_self _ _

theorem lookup_claimed_ne (s : LeaseStore) {request : AcquireRequest} (secrets : Secrets)
    {k : String} (hk : k ≠ request.idempotencyKey) :
    (s.upsert (request.claimedRow secrets)).lookup k = s.lookup k :=
  Table.lookup_upsert_ne _ hk

theorem linked_initial : initial.Linked := fun _ => rfl

theorem linked_step {h : LeaseHistory} (hlinked : h.Linked) (call : LeaseCall) :
    (h.step call).Linked := by
  intro k
  rcases h.step_cases call with
    heq | ⟨request, secrets, -, -, hgrant⟩ | ⟨permit, row, row', -, hholds, hadv, htable, hissued, -⟩
  · rw [heq]
    exact hlinked k
  · -- a grant: the new row is the last permit's, every other key keeps both
    rw [hgrant.store]
    by_cases hk : k = request.idempotencyKey
    · subst hk
      have hcur : (h.step call).current request.idempotencyKey =
          some (request.permit secrets) := current_append_self h hgrant.issued
      rw [lookup_claimed_self, hcur]
      rfl
    · rw [lookup_claimed_ne _ secrets hk,
        current_append_ne h hgrant.issued hk]
      exact hlinked k
  · -- an advance: same secrets, same permits
    have hcur : (h.step call).current k = h.current k := by simp only [current, hissued]
    rw [htable, hcur, ← hlinked k]
    by_cases hk : k = row'.idempotencyKey
    · have hkrow : row'.idempotencyKey = permit.idempotencyKey :=
        hadv.key.trans (Table.lookup_key hholds.1)
      subst hk
      rw [Table.lookup_upsert_self, hkrow, hholds.1]
      simp only [Option.map_some, LeaseRow.credential, hadv.nonce, hadv.lease, hadv.fence]
    · rw [Table.lookup_upsert_ne _ hk]

theorem linked_of_reachable {h : LeaseHistory} (hreach : system.Reachable h) : h.Linked := by
  refine hreach.invariant linked_initial ?_
  rintro h call _ hlinked ⟨⟩
  exact linked_step hlinked call

/-! ## Permits that are no longer, or never were, the key's own -/

/-- The fresh values drawn so far are pairwise distinct. -/
def Fresh (h : LeaseHistory) : Prop := (h.issued.map ExecutionPermit.secret).Nodup

/-- Issued, but another permit has been issued for the key since. -/
def Superseded (h : LeaseHistory) (permit : ExecutionPermit) : Prop :=
  ∃ before after, h.issued = before ++ permit :: after ∧
    ∃ later ∈ after, later.idempotencyKey = permit.idempotencyKey

/-- No issued permit has this key and these secrets. -/
def Forged (h : LeaseHistory) (permit : ExecutionPermit) : Prop :=
  ∀ issued ∈ h.issued, issued.idempotencyKey = permit.idempotencyKey →
    issued.secret ≠ permit.secret

theorem holds_current {h : LeaseHistory} (hlinked : h.Linked) {permit : ExecutionPermit}
    {row : LeaseRow} (hholds : h.store.Holds permit row) :
    ∃ cur, h.current permit.idempotencyKey = some cur ∧ cur.secret = permit.secret ∧
      cur.dispatchNonce = row.dispatchNonce := by
  have hlink := hlinked permit.idempotencyKey
  rw [hholds.1] at hlink
  cases hcur : h.current permit.idempotencyKey with
  | none => simp [hcur] at hlink
  | some cur =>
      simp only [hcur, Option.map_some, Option.some.injEq, LeaseRow.credential,
        ExecutionPermit.credential, Prod.mk.injEq] at hlink
      obtain ⟨hnonce, hlease, hfence⟩ := hlink
      refine ⟨cur, rfl, ?_, hnonce.symm⟩
      simp only [ExecutionPermit.secret, ← hlease, ← hfence, hholds.2.1, hholds.2.2]

theorem not_holds_of_forged {h : LeaseHistory} (hlinked : h.Linked) {permit : ExecutionPermit}
    (hforged : h.Forged permit) (row : LeaseRow) : ¬ h.store.Holds permit row := by
  intro hholds
  obtain ⟨cur, hcur, hsecret, -⟩ := holds_current hlinked hholds
  obtain ⟨hmem, hkey⟩ := current_mem hcur
  exact hforged cur hmem hkey hsecret

theorem not_holds_of_superseded {h : LeaseHistory} (hlinked : h.Linked) (hfresh : h.Fresh)
    {permit : ExecutionPermit} (hsup : h.Superseded permit) (row : LeaseRow) :
    ¬ h.store.Holds permit row := by
  intro hholds
  obtain ⟨cur, hcur, hsecret, -⟩ := holds_current hlinked hholds
  obtain ⟨before, after, hissued, later, hlater, hkey⟩ := hsup
  -- the current permit was issued after this one
  have hafter : cur ∈ after := by
    have hne : after.filter (fun q => q.idempotencyKey = permit.idempotencyKey) ≠ [] :=
      List.ne_nil_of_mem (List.mem_filter.2 ⟨hlater, by simpa using hkey⟩)
    have hlast : (after.filter fun q => q.idempotencyKey = permit.idempotencyKey).getLast? =
        some cur := by
      rw [← hcur, current, hissued, List.filter_append, List.filter_cons_of_pos (by simp),
        List.getLast?_append_of_ne_nil _ (List.cons_ne_nil _ _),
        ← List.singleton_append, List.getLast?_append_of_ne_nil _ hne]
    exact (List.mem_filter.1 (List.mem_of_getLast? hlast)).1
  -- so two issued permits share their secrets
  unfold Fresh at hfresh
  rw [hissued, List.map_append, List.map_cons] at hfresh
  have hnot := (List.nodup_cons.1 (List.nodup_append.1 hfresh).2.1).1
  exact hnot (hsecret ▸ List.mem_map_of_mem hafter)

/-- At most one issued permit of a key passes `assert_active`. -/
theorem active_unique {h : LeaseHistory} (hfresh : h.Fresh) {p q : ExecutionPermit}
    (hp : p ∈ h.issued) (hq : q ∈ h.issued) (hkey : p.idempotencyKey = q.idempotencyKey)
    {faultp faultq : SqliteFault} (hpa : h.store.assertActive p faultp = .ok ())
    (hqa : h.store.assertActive q faultq = .ok ()) : p = q := by
  obtain ⟨-, row, ⟨hrow, hlease, hfence⟩, -⟩ := LeaseStore.assertActive_eq_ok_iff.1 hpa
  obtain ⟨-, row', ⟨hrow', hlease', hfence'⟩, -⟩ := LeaseStore.assertActive_eq_ok_iff.1 hqa
  have hsame : row = row' := by
    rw [hkey, hrow'] at hrow
    exact (Option.some.inj hrow).symm
  subst hsame
  refine List.inj_on_of_nodup_map hfresh hp hq ?_
  simp only [ExecutionPermit.secret, ← hlease, ← hfence, hlease', hfence']

/-- Only the permit that holds the row can change anything. -/
theorem step_of_not_holds {h : LeaseHistory} {call : LeaseCall} {permit : ExecutionPermit}
    (hpermit : call.operation.permit? = some permit)
    (hnot : ∀ row, ¬ h.store.Holds permit row) : h.step call = h := by
  rcases h.step_cases call with
    heq | ⟨request, secrets, hop, -, -⟩ | ⟨permit', row, row', hpermit', hholds, -⟩
  · exact heq
  · simp [hop, LeaseOperation.permit?] at hpermit
  · rw [hpermit] at hpermit'
    cases hpermit'
    exact absurd hholds (hnot row)

/-! ## How rows move -/

/-- What one call may do to the row of a key: nothing, a first claim, or one move of the state
    machine. -/
def RowMoves (old new : Option LeaseRow) : Prop :=
  new = old ∨ (old = none ∧ ∃ row, new = some row ∧ row.state = .claimed) ∨
    ∃ row row', old = some row ∧ new = some row' ∧ row.state.Moves row'.state

theorem rowMoves_step (h : LeaseHistory) (call : LeaseCall) (k : String) :
    RowMoves (h.store.lookup k) ((h.step call).store.lookup k) := by
  rcases h.step_cases call with
    heq | ⟨request, secrets, -, -, hgrant⟩ | ⟨permit, row, row', -, hholds, hadv, htable, -⟩
  · exact Or.inl (by rw [heq])
  · rw [hgrant.store, Table.lookup_upsert]
    split
    · next hk =>
        have hkey : k = request.idempotencyKey := hk
        subst hkey
        cases hrow : h.store.lookup request.idempotencyKey with
        | none => exact Or.inr (Or.inl ⟨rfl, _, rfl, rfl⟩)
        | some row =>
            refine Or.inr (Or.inr ⟨row, _, rfl, rfl, ?_⟩)
            rw [hgrant.claimable.1 row hrow]
            exact .reclaim
    · exact Or.inl rfl
  · rw [htable, Table.lookup_upsert]
    split
    · next hk =>
        have hkey : k = permit.idempotencyKey :=
          hk.trans (hadv.key.trans (Table.lookup_key hholds.1))
        exact Or.inr (Or.inr ⟨row, row', hkey ▸ hholds.1, rfl, hadv.moves⟩)
    · exact Or.inl rfl

/-- Frame: a call changes at most the row of its own key. -/
theorem lookup_step_ne (h : LeaseHistory) (call : LeaseCall) {k : String}
    (hk : k ≠ call.operation.idempotencyKey) :
    (h.step call).store.lookup k = h.store.lookup k := by
  rcases h.step_cases call with
    heq | ⟨request, secrets, hop, -, hgrant⟩ |
      ⟨permit, row, row', hpermit, hholds, hadv, htable, -⟩
  · rw [heq]
  · rw [hop] at hk
    rw [hgrant.store]
    exact lookup_claimed_ne _ secrets hk
  · have hown : call.operation.idempotencyKey = row'.idempotencyKey := by
      rw [hadv.key, Table.lookup_key hholds.1]
      cases hop : call.operation with
      | acquire request secrets => simp [hop, LeaseOperation.permit?] at hpermit
      | assertActive p | finalize p r | release p | fail p r =>
          simp only [hop, LeaseOperation.permit?, Option.some.injEq] at hpermit
          rw [← hpermit]
          rfl
    rw [htable]
    exact Table.lookup_upsert_ne _ (hown ▸ hk)

/-- Settled keys stay settled. -/
theorem settled_step {h : LeaseHistory} {k : String} (hs : h.store.Settled k) (call : LeaseCall) :
    (h.step call).store.Settled k := by
  obtain ⟨row, hrow, hstate⟩ := hs
  rcases rowMoves_step h call k with heq | ⟨hnone, -⟩ | ⟨old, new, hold, hnew, hmoves⟩
  · exact ⟨row, heq ▸ hrow, hstate⟩
  · simp [hrow] at hnone
  · rw [hrow] at hold
    cases hold
    refine ⟨new, hnew, ?_⟩
    -- the only move that starts in a settled state is the acknowledgement
    rcases hstate with hstate | hstate <;> rw [hstate] at hmoves <;> cases hnext : new.state <;>
      rw [hnext] at hmoves <;> first | exact Or.inr rfl | cases hmoves

theorem settled_run {h h' : LeaseHistory} {k : String} {calls : List LeaseCall}
    (hrun : system.runFrom h calls = some h') (hs : h.store.Settled k) : h'.store.Settled k := by
  refine TransitionSystem.runFrom_invariant (I := fun h => h.store.Settled k) hs ?_ hrun
  rintro h call _ hs ⟨⟩
  exact settled_step hs call

/-- **Lease safety.** In every state of every run whose fresh secrets are distinct: one live
    permit at most for a key, no effect of a superseded or forged permit, rows that move only along
    the state machine and stay settled once settled, nonces in one row each, and no effect on
    another key's row. -/
theorem lease_safety {h : LeaseHistory} (hreach : system.Reachable h) (hfresh : h.Fresh) :
    (∀ p ∈ h.issued, ∀ q ∈ h.issued, p.idempotencyKey = q.idempotencyKey →
        h.store.assertActive p none = .ok () → h.store.assertActive q none = .ok () → p = q) ∧
      (∀ call permit, call.operation.permit? = some permit →
        h.Superseded permit ∨ h.Forged permit → (h.step call).store = h.store) ∧
      (∀ call k, RowMoves (h.store.lookup k) ((h.step call).store.lookup k)) ∧
      (∀ calls h' k, system.runFrom h calls = some h' →
        h.store.Settled k → h'.store.Settled k) ∧
      (∀ r ∈ h.store.rows, ∀ r' ∈ h.store.rows, r.dispatchNonce = r'.dispatchNonce → r = r') ∧
      (∀ call k, k ≠ call.operation.idempotencyKey →
        (h.step call).store.lookup k = h.store.lookup k) := by
  have hlinked := linked_of_reachable hreach
  refine ⟨?_, ?_, fun call k => rowMoves_step h call k, ?_, ?_, fun call k => lookup_step_ne h call⟩
  · intro p hp q hq hkey hpa hqa
    exact active_unique hfresh hp hq hkey hpa hqa
  · intro call permit hpermit hstale
    have hnot : ∀ row, ¬ h.store.Holds permit row := by
      rcases hstale with hsup | hforged
      · exact not_holds_of_superseded hlinked hfresh hsup
      · exact not_holds_of_forged hlinked hforged
    rw [step_of_not_holds hpermit hnot]
  · intro calls h' k hrun hs
    exact settled_run hrun hs
  · intro r hr r' hr' hnonce
    exact List.inj_on_of_nodup_map h.store.nonces_nodup hr hr' hnonce

/-- The state after a list of calls. -/
def after (calls : List LeaseCall) : LeaseHistory := calls.foldl step initial

theorem runFrom_eq_foldl (h : LeaseHistory) (calls : List LeaseCall) :
    system.runFrom h calls = some (calls.foldl step h) := by
  induction calls generalizing h with
  | nil => rfl
  | cons call rest ih => exact ih (h.step call)

theorem run_eq_after (calls : List LeaseCall) : system.run calls = some (after calls) :=
  runFrom_eq_foldl initial calls

/-- A slow worker keeps the permit of a claim that has failed and been re-claimed since. -/
def reclaimCalls : List LeaseCall :=
  let first : AcquireRequest := ⟨"key-1", "packet-1", "nonce-1", "stage"⟩
  let second : AcquireRequest := ⟨"key-1", "packet-1", "nonce-2", "stage"⟩
  [{ operation := .acquire first ⟨"lease-1", "fence-1"⟩ },
    { operation := .fail (first.permit ⟨"lease-1", "fence-1"⟩) "stage-execution-failed" },
    { operation := .acquire second ⟨"lease-2", "fence-2"⟩ }]

theorem lease_safety_reclaim :
    (after reclaimCalls).issued.length = 2 ∧
      ∀ p ∈ (after reclaimCalls).issued, ∀ q ∈ (after reclaimCalls).issued,
        (after reclaimCalls).store.assertActive p none = .ok () →
          (after reclaimCalls).store.assertActive q none = .ok () → p = q := by
  refine ⟨by decide, ?_⟩
  have hsafe := lease_safety (h := after reclaimCalls) ⟨reclaimCalls, run_eq_after _⟩
    (by unfold Fresh; decide)
  have hkeys : ∀ p ∈ (after reclaimCalls).issued, p.idempotencyKey = "key-1" := by decide
  intro p hp q hq
  exact hsafe.1 p hp q hq ((hkeys p hp).trans (hkeys q hq).symm)

/-! ## Dispatch nonces over the whole history -/

/-- A nonce granted for one key is granted for no other. -/
def NonceBound (h : LeaseHistory) : Prop :=
  ∀ p ∈ h.issued, ∀ q ∈ h.issued, p.dispatchNonce = q.dispatchNonce →
    p.idempotencyKey = q.idempotencyKey

/-- The call is no claim that passes the store's guards with a nonce which an earlier re-claim has
    overwritten in another key's row. -/
def PresentsNoDroppedNonce (h : LeaseHistory) (call : LeaseCall) : Prop :=
  ∀ request secrets, call.operation = .acquire request secrets → call.fault = none →
    h.store.Claimable request →
      ∀ k, (k, request.dispatchNonce) ∈ h.dropped → k = request.idempotencyKey

/-- Where a granted nonce is: still in its key's row, or overwritten there. And what the store and
    the list of overwritten nonces hold was granted. -/
structure Tracked (h : LeaseHistory) : Prop where
  linked : h.Linked
  issued : ∀ p ∈ h.issued, (p.idempotencyKey, p.dispatchNonce) ∈ h.dropped ∨
    ∃ row, h.store.lookup p.idempotencyKey = some row ∧ row.dispatchNonce = p.dispatchNonce
  dropped : ∀ k n, (k, n) ∈ h.dropped →
    ∃ p ∈ h.issued, p.idempotencyKey = k ∧ p.dispatchNonce = n

theorem tracked_initial : initial.Tracked :=
  ⟨linked_initial, by simp [initial], by simp [initial]⟩

/-- A stored nonce was granted to the row's key. -/
theorem stored_nonce_issued {h : LeaseHistory} (hlinked : h.Linked) {k : String} {row : LeaseRow}
    (hrow : h.store.lookup k = some row) :
    ∃ p ∈ h.issued, p.idempotencyKey = k ∧ p.dispatchNonce = row.dispatchNonce := by
  have hlink := hlinked k
  rw [hrow] at hlink
  cases hcur : h.current k with
  | none => simp [hcur] at hlink
  | some cur =>
      obtain ⟨hmem, hkey⟩ := current_mem hcur
      simp only [hcur, Option.map_some, Option.some.injEq, LeaseRow.credential,
        ExecutionPermit.credential, Prod.mk.injEq] at hlink
      exact ⟨cur, hmem, hkey, hlink.1.symm⟩

theorem mem_droppedBy {s : LeaseStore} {request : AcquireRequest} {k n : String} :
    (k, n) ∈ s.droppedBy request ↔ k = request.idempotencyKey ∧ n ≠ request.dispatchNonce ∧
      ∃ row, s.lookup request.idempotencyKey = some row ∧ row.dispatchNonce = n := by
  unfold LeaseStore.droppedBy
  cases hrow : s.lookup request.idempotencyKey with
  | none => simp
  | some row =>
      have hkey : row.idempotencyKey = request.idempotencyKey := Table.lookup_key hrow
      by_cases hown : row.dispatchNonce = request.dispatchNonce
      · simp only [if_pos hown, List.not_mem_nil, Option.some.injEq, exists_eq_left', false_iff]
        rintro ⟨-, hne, rfl⟩
        exact hne hown
      · simp only [if_neg hown, List.mem_singleton, Prod.mk.injEq, hkey, Option.some.injEq,
          exists_eq_left']
        constructor
        · rintro ⟨rfl, rfl⟩
          exact ⟨rfl, hown, rfl⟩
        · rintro ⟨rfl, -, rfl⟩
          exact ⟨rfl, rfl⟩

theorem tracked_step {h : LeaseHistory} (ht : h.Tracked) (call : LeaseCall) :
    (h.step call).Tracked := by
  refine ⟨linked_step ht.linked call, ?_, ?_⟩
  · -- a granted nonce is in its row or dropped
    intro p hp
    rcases h.step_cases call with
      heq | ⟨request, secrets, -, -, hgrant⟩ |
        ⟨permit, row, row', -, hholds, hadv, htable, hissued, hdropped⟩
    · rw [heq] at hp ⊢
      exact ht.issued p hp
    · rw [hgrant.issued, List.mem_append, List.mem_singleton] at hp
      rw [hgrant.dropped, hgrant.store, List.mem_append]
      by_cases hkey : p.idempotencyKey = request.idempotencyKey
      · rw [hkey, lookup_claimed_self]
        rcases hp with hp | rfl
        · -- an older permit of the claimed key: its nonce stays, or this claim drops it
          by_cases hnonce : p.dispatchNonce = request.dispatchNonce
          · exact Or.inr ⟨_, rfl, hnonce.symm⟩
          · left
            rcases ht.issued p hp with hin | ⟨row, hrow, hrown⟩
            · exact Or.inl (hkey ▸ hin)
            · exact Or.inr (mem_droppedBy.2 ⟨rfl, hnonce, row, hkey ▸ hrow, hrown⟩)
        · exact Or.inr ⟨_, rfl, rfl⟩
      · rw [lookup_claimed_ne _ secrets hkey]
        rcases hp with hp | rfl
        · rcases ht.issued p hp with hin | hrow
          · exact Or.inl (Or.inl hin)
          · exact Or.inr hrow
        · exact absurd rfl hkey
    · rw [hissued] at hp
      rw [hdropped, htable, Table.lookup_upsert]
      rcases ht.issued p hp with hin | ⟨old, hold, holdn⟩
      · exact Or.inl hin
      · right
        split
        · next hk =>
            refine ⟨row', rfl, ?_⟩
            have hown : p.idempotencyKey = permit.idempotencyKey :=
              hk.trans (hadv.key.trans (Table.lookup_key hholds.1))
            rw [hown, hholds.1] at hold
            rw [hadv.nonce, Option.some.inj hold, holdn]
        · exact ⟨old, hold, holdn⟩
  · -- a dropped nonce was granted
    intro k n hin
    rcases h.step_cases call with
      heq | ⟨request, secrets, -, -, hgrant⟩ | ⟨_, _, _, -, -, -, -, hissued, hdropped⟩
    · rw [heq] at hin ⊢
      exact ht.dropped k n hin
    · rw [hgrant.dropped, List.mem_append] at hin
      rw [hgrant.issued]
      have hold : ∃ p ∈ h.issued, p.idempotencyKey = k ∧ p.dispatchNonce = n := by
        rcases hin with hin | hin
        · exact ht.dropped k n hin
        · obtain ⟨rfl, -, row, hrow, rfl⟩ := mem_droppedBy.1 hin
          exact stored_nonce_issued ht.linked hrow
      obtain ⟨p, hp, hpk⟩ := hold
      exact ⟨p, List.mem_append_left _ hp, hpk⟩
    · rw [hdropped] at hin
      rw [hissued]
      exact ht.dropped k n hin

/-- A granted claim binds its nonce to one key exactly when no other key has dropped it. -/
theorem nonceBound_grant_iff {h h' : LeaseHistory} {request : AcquireRequest} {secrets : Secrets}
    (ht : h.Tracked) (hgrant : h.Grants h' request secrets) :
    h'.NonceBound ↔ h.NonceBound ∧
      ∀ k, (k, request.dispatchNonce) ∈ h.dropped → k = request.idempotencyKey := by
  have hmem : ∀ p, p ∈ h'.issued ↔ p ∈ h.issued ∨ p = request.permit secrets := by
    intro p
    rw [hgrant.issued, List.mem_append, List.mem_singleton]
  constructor
  · intro hbound
    refine ⟨?_, ?_⟩
    · intro p hp q hq
      exact hbound p ((hmem p).2 (Or.inl hp)) q ((hmem q).2 (Or.inl hq))
    · intro k hdrop
      obtain ⟨p, hp, rfl, hnonce⟩ := ht.dropped _ _ hdrop
      exact hbound p ((hmem p).2 (Or.inl hp)) _ ((hmem _).2 (Or.inr rfl)) hnonce
  · rintro ⟨hbound, hfree⟩
    -- an older permit with the new nonce belongs to the claimed key
    have hnew : ∀ p ∈ h.issued, p.dispatchNonce = request.dispatchNonce →
        p.idempotencyKey = request.idempotencyKey := by
      intro p hp hnonce
      rcases ht.issued p hp with hdrop | ⟨row, hrow, hrown⟩
      · exact hfree _ (hnonce ▸ hdrop)
      · have hown := hgrant.claimable.2 row (Table.lookup_mem hrow) (hrown.trans hnonce)
        exact (Table.lookup_key hrow).symm.trans hown
    intro p hp q hq hnonce
    rcases (hmem p).1 hp with hp | rfl <;> rcases (hmem q).1 hq with hq | rfl
    · exact hbound p hp q hq hnonce
    · exact hnew p hp hnonce
    · exact (hnew q hq hnonce.symm).symm
    · rfl

theorem nonceBound_step_iff {h : LeaseHistory} (ht : h.Tracked) (call : LeaseCall) :
    (h.step call).NonceBound ↔ h.NonceBound ∧ h.PresentsNoDroppedNonce call := by
  by_cases hgranted : ∃ request secrets, call.operation = .acquire request secrets ∧
      call.fault = none ∧ h.store.Claimable request
  · obtain ⟨request, secrets, hop, hfault, hclaim⟩ := hgranted
    have hgrant : h.Grants (h.step call) request secrets := by
      obtain ⟨operation, fault⟩ := call
      cases hop
      cases hfault
      exact grants_step secrets hclaim
    rw [nonceBound_grant_iff ht hgrant]
    refine and_congr_right fun _ => ?_
    constructor
    · intro hfree request' secrets' hop' _ _
      rw [hop] at hop'
      cases hop'
      exact hfree
    · intro hguard
      exact hguard request secrets hop hfault hclaim
  · have hissued : (h.step call).issued = h.issued := by
      rcases h.step_cases call with
        heq | ⟨request, secrets, hop, hfault, hgrant⟩ | ⟨_, _, _, -, -, -, -, hissued, -⟩
      · rw [heq]
      · exact absurd ⟨request, secrets, hop, hfault, hgrant.claimable⟩ hgranted
      · exact hissued
    have hguard : h.PresentsNoDroppedNonce call := fun request secrets hop hfault hclaim =>
      absurd ⟨request, secrets, hop, hfault, hclaim⟩ hgranted
    simp only [NonceBound, hissued, hguard, and_true]

/-- **Nonces stay bound** over a run exactly when no claim of the run presents, to a free key, a
    nonce that another key's re-claim has dropped. -/
theorem nonces_bound_iff_guarded (calls : List LeaseCall) :
    (after calls).NonceBound ↔ system.Guarded PresentsNoDroppedNonce initial calls := by
  have hrun : system.runFrom initial calls = some (after calls) := run_eq_after calls
  constructor
  · intro hbound
    refine (TransitionSystem.guarded_of_runFrom (J := Tracked) ?_ ?_ ?_ tracked_initial hrun
      hbound).1
    · rintro h call _ ht ⟨⟩
      exact tracked_step ht call
    · rintro h call _ ht ⟨⟩ hb
      exact ((nonceBound_step_iff ht call).1 hb).1
    · rintro h call _ ht ⟨⟩ hb
      exact ((nonceBound_step_iff ht call).1 hb).2
  · intro hguard
    have hinit : initial.Tracked ∧ initial.NonceBound :=
      ⟨tracked_initial, by simp [NonceBound, initial]⟩
    refine (TransitionSystem.runFrom_guarded (I := fun h => h.Tracked ∧ h.NonceBound) hinit ?_
      hguard hrun).2
    rintro h call _ ⟨ht, hb⟩ hg ⟨⟩
    exact ⟨tracked_step ht call, (nonceBound_step_iff ht call).2 ⟨hb, hg⟩⟩

/-- `nonce-1` is granted for `key-1`, overwritten when `key-1` is re-claimed, and granted again for
    `key-2`. -/
def replayCalls : List LeaseCall :=
  reclaimCalls ++
    [{ operation := .acquire ⟨"key-2", "packet-2", "nonce-1", "stage"⟩ ⟨"lease-3", "fence-3"⟩ }]

theorem nonce_replayed_for_other_key : ¬ ∀ calls, (after calls).NonceBound := by
  intro hbound
  have hissued : (after replayCalls).issued.map
      (fun p => (p.dispatchNonce, p.idempotencyKey)) =
        [("nonce-1", "key-1"), ("nonce-2", "key-1"), ("nonce-1", "key-2")] := by decide
  have hfirst : ("nonce-1", "key-1") ∈ (after replayCalls).issued.map
      (fun p => (p.dispatchNonce, p.idempotencyKey)) := by simp [hissued]
  have hlast : ("nonce-1", "key-2") ∈ (after replayCalls).issued.map
      (fun p => (p.dispatchNonce, p.idempotencyKey)) := by simp [hissued]
  obtain ⟨p, hp, hpeq⟩ := List.mem_map.1 hfirst
  obtain ⟨q, hq, hqeq⟩ := List.mem_map.1 hlast
  obtain ⟨hpn, hpk⟩ := Prod.mk.inj hpeq
  obtain ⟨hqn, hqk⟩ := Prod.mk.inj hqeq
  have hsame := hbound replayCalls p hp q hq (hpn.trans hqn.symm)
  rw [hpk, hqk] at hsame
  exact absurd hsame (by decide)

end LeaseHistory

end ConstellationTopology
