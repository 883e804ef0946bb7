import ConstellationTopology.Worker.StageRunner

set_option autoImplicit false

/-! # Reuse without a recovery record

A worker finalizes its lease before it registers the packet. Between the two the lease answers
`reuse` and the registry has nothing to serve, so a second dispatch ends in
`execution-lease-reuse-unavailable`. What holds over every interleaving is that this is the only such
gap: a settled key has a registry entry, or the worker that finalized it has not got past its
registration, because it stands there, crashed there or raised there (`settled_registered_or_gap`). -/

namespace ConstellationTopology

variable {c : Codec}

/-! ## The gap -/

namespace StageControl

/-- The permit a worker holds. -/
def permit? : StageControl c → Option ExecutionPermit
  | assertInitial permit | resolveInputs permit | compile permit
  | assertBeforeCommit permit _ _ | commitBundle permit _ _ | persistReceipt permit _ _ _
  | assertBeforePublish permit _ _ _ | publish permit _ _ _ | verifyPublished permit _ _ _ _
  | finalize permit _ _ _ _ _ | register permit _ _ _ _ _ | callback permit _ _
  | acknowledge permit _ _ | release permit _ _ | cleanup permit _ _ => some permit
  | _ => none

/-- Finalized, and not past the registration: about to register, or an exception of the
    registration is on its way out or has left the stage. -/
def InGap : StageControl c → Prop
  | register _ _ _ _ _ _ | cleanup _ .register _ | raised .register _ => True
  | _ => False

/-- The lease has answered `reuse`. -/
def AtRecovery : StageControl c → Prop
  | lookupRecovery => True
  | _ => False

/-- Only steps that hold a permit are cleaned up after. -/
def CleanupSane : StageControl c → Prop
  | cleanup _ step _ => step ≠ .lookupRecovery
  | _ => True

/-- The reuse branch has ended in its error. -/
def Unavailable (control : StageControl c) : Prop :=
  control = raised .lookupRecovery (.worker reuseUnavailable)

end StageControl

/-- What a step of one worker means for the lease store and the registry. -/
structure StepSpec (dispatch : StageDispatch) (stores stores' : StageStores)
    (control control' : StageControl c) : Prop where
  registered : ∀ k, stores.registry.Holds k → stores'.registry.Holds k
  settled : ∀ k, stores.leases.Settled k → stores'.leases.Settled k
  newlySettled : ∀ k, stores'.leases.Settled k → stores.leases.Settled k ∨
    (k = dispatch.idempotencyKey ∧ control'.InGap)
  gap : control.InGap → control'.InGap ∨ stores'.registry.Holds dispatch.idempotencyKey
  permit : ∀ permit, control'.permit? = some permit →
    permit.idempotencyKey = dispatch.idempotencyKey
  sane : control'.CleanupSane
  recovery : control'.AtRecovery → stores'.leases.Settled dispatch.idempotencyKey
  unavailable : control'.Unavailable →
    control.AtRecovery ∧ stores' = stores ∧ ¬ stores.registry.Holds dispatch.idempotencyKey

/-! ## One step -/

section StepSpec

variable {dispatch : StageDispatch} {stores : StageStores} {control control' : StageControl c}

/-- A control a step may end in without touching the stores or the gap. -/
structure StageControl.Plain (dispatch : StageDispatch) (control : StageControl c) : Prop where
  permit : ∀ permit, control.permit? = some permit →
    permit.idempotencyKey = dispatch.idempotencyKey
  notRecovery : ¬ control.AtRecovery
  notUnavailable : ¬ control.Unavailable
  sane : control.CleanupSane

theorem stepSpec_quiet (hgap : ¬ control.InGap) (hplain : control'.Plain dispatch) :
    StepSpec dispatch stores stores control control' where
  registered _ h := h
  settled _ h := h
  newlySettled _ h := Or.inl h
  gap h := absurd h hgap
  permit := hplain.permit
  sane := hplain.sane
  recovery h := absurd h hplain.notRecovery
  unavailable h := absurd h hplain.notUnavailable

/-- A step that changes the registry and keeps its entries. -/
theorem stepSpec_registry {registry : PacketRegistry} (hgap : ¬ control.InGap)
    (hplain : control'.Plain dispatch)
    (hkeep : ∀ k, stores.registry.Holds k → registry.Holds k) :
    StepSpec dispatch stores { stores with registry } control control' where
  registered := hkeep
  settled _ h := h
  newlySettled _ h := Or.inl h
  gap h := absurd h hgap
  permit := hplain.permit
  sane := hplain.sane
  recovery h := absurd h hplain.notRecovery
  unavailable h := absurd h hplain.notUnavailable

/-- A step that changes the leases and settles nothing. -/
theorem stepSpec_leases {leases : LeaseStore}
    (hgap : control.InGap → control'.InGap) (hplain : control'.Plain dispatch)
    (hsettled : ∀ k, leases.Settled k ↔ stores.leases.Settled k) :
    StepSpec dispatch stores { stores with leases } control control' where
  registered _ h := h
  settled k h := (hsettled k).2 h
  newlySettled k h := Or.inl ((hsettled k).1 h)
  gap h := Or.inl (hgap h)
  permit := hplain.permit
  sane := hplain.sane
  recovery h := absurd h hplain.notRecovery
  unavailable h := absurd h hplain.notUnavailable

/-- A step that changes the files only. -/
theorem stepSpec_files {files : FileTree} (hgap : ¬ control.InGap)
    (hplain : control'.Plain dispatch) :
    StepSpec dispatch stores { stores with files } control control' where
  registered _ h := h
  settled _ h := h
  newlySettled _ h := Or.inl h
  gap h := absurd h hgap
  permit := hplain.permit
  sane := hplain.sane
  recovery h := absurd h hplain.notRecovery
  unavailable h := absurd h hplain.notUnavailable

theorem plain_of_permit {permit : ExecutionPermit}
    (hkey : permit.idempotencyKey = dispatch.idempotencyKey) (hp : control.permit? = some permit)
    (hsane : control.CleanupSane) : control.Plain dispatch where
  permit permit' hp' := by
    rw [hp] at hp'
    cases hp'
    exact hkey
  notRecovery hrecovery := by
    cases control <;> simp_all [StageControl.AtRecovery, StageControl.permit?]
  notUnavailable hun := by
    rw [hun] at hp
    cases hp
  sane := hsane

/-- A worker without a permit that has neither been told to reuse nor raised. -/
theorem plain_of_no_permit (hp : control.permit? = none) (hrecovery : ¬ control.AtRecovery)
    (hraised : ∀ step exception, control ≠ .raised step exception) : control.Plain dispatch where
  permit permit' hp' := by simp [hp] at hp'
  notRecovery := hrecovery
  notUnavailable := hraised _ _
  sane := by
    cases control with
    | cleanup permit step exception => cases hp
    | _ => trivial

theorem plain_returned (outcome : StageExecutionOutcome) :
    (StageControl.returned outcome : StageControl c).Plain dispatch :=
  plain_of_no_permit rfl (fun h => h) fun _ _ => nofun

theorem plain_raised {step : StageStep} {exception : StageException}
    (h : step ≠ .lookupRecovery ∨ exception ≠ .worker reuseUnavailable) :
    (StageControl.raised step exception : StageControl c).Plain dispatch where
  permit _ hp := by cases hp
  notRecovery := fun h => h
  notUnavailable hun := by
    cases hun
    simp at h
  sane := trivial

theorem plain_startReuse (entry : RegistryEntry) :
    (startReuse entry : StageControl c).Plain dispatch := by
  have hraised : (StageControl.raised .reuseVerify (.worker publicationEvidenceMissing) :
      StageControl c).Plain dispatch := plain_raised (Or.inl StageStep.noConfusion)
  unfold startReuse
  split
  · exact hraised
  · split
    · exact hraised
    · exact plain_of_no_permit rfl (fun h => h) fun _ _ => nofun

/-- A guarded step of a worker that holds its permit continues or cleans up. -/
theorem plain_guardStep {α : Type} {permit : ExecutionPermit} {step : StageStep}
    {answer : Except StageException α} {next : α → StageControl c}
    (hkey : permit.idempotencyKey = dispatch.idempotencyKey) (hstep : step ≠ .lookupRecovery)
    (hnext : ∀ value, (next value).Plain dispatch) :
    (guardStep permit step answer next).Plain dispatch := by
  unfold guardStep
  split
  · exact hnext _
  · exact plain_of_permit hkey rfl hstep

section Step

variable {workspace : Path} {env : StageEnvironment c} {stores' : StageStores}
  {permit : ExecutionPermit} {compilation : Compilation c} {bundlePath : Path}
  {commitUri : String} {published : PublishedPacket} {descriptorDigest : Option String}

/-- The lease answers `reuse` on a settled key only. -/
theorem stepSpec_acquire
    (h : advance workspace dispatch env stores .acquire = some (stores', control')) :
    StepSpec dispatch stores stores' .acquire control' := by
  have hsettled := stores.leases.settled_acquire dispatch.acquireRequest env.secrets
    (env.sqliteFault .acquire)
  simp only [advance] at h
  split at h
  · cases h
    exact stepSpec_leases (fun h => h) (plain_raised (Or.inl (by decide))) hsettled
  · next permit _ hanswer =>
      cases h
      have hkey := (LeaseStore.acquire_granted hanswer).1
      exact stepSpec_leases (fun h => h) (plain_of_permit hkey rfl trivial) hsettled
  · next hanswer =>
      -- the lease answered reuse, so the key is settled
      cases h
      have hreuse := (LeaseStore.acquire_reuse_iff.1 ⟨_, hanswer, rfl⟩).2
      exact
        { registered := fun _ h => h
          settled := fun k h => (hsettled k).2 h
          newlySettled := fun k h => Or.inl ((hsettled k).1 h)
          gap := fun h => h.elim
          permit := by simp [StageControl.permit?]
          sane := trivial
          recovery := fun _ => (hsettled _).2 hreuse
          unavailable := fun h => by cases h }

/-- The reuse error is raised where the registry has no entry. -/
theorem stepSpec_lookupRecovery
    (h : advance workspace dispatch env stores .lookupRecovery = some (stores', control')) :
    StepSpec dispatch stores stores' .lookupRecovery control' := by
  simp only [advance] at h
  split at h
  · next e hget =>
      cases h
      refine stepSpec_quiet (fun h => h) (plain_raised (Or.inr ?_))
      obtain ⟨exc, rfl⟩ := PacketRegistry.getEntry_error hget
      simp [packetRegistryReadFailed, reuseUnavailable]
  · cases h
    exact stepSpec_quiet (fun h => h) (plain_startReuse _)
  · next hget =>
      cases h
      exact
        { registered := fun _ h => h
          settled := fun _ h => h
          newlySettled := fun _ h => Or.inl h
          gap := fun h => h.elim
          permit := by simp [StageControl.permit?]
          sane := trivial
          recovery := fun h => h.elim
          unavailable := fun _ => ⟨trivial, rfl, PacketRegistry.not_holds_of_getEntry hget⟩ }

/-- `finalize` settles the worker's own key and leaves the worker in the gap. -/
theorem stepSpec_finalize (hkey : permit.idempotencyKey = dispatch.idempotencyKey)
    (h : advance workspace dispatch env stores
      (.finalize permit compilation bundlePath commitUri published descriptorDigest) =
        some (stores', control')) :
    StepSpec dispatch stores stores'
      (.finalize permit compilation bundlePath commitUri published descriptorDigest) control' := by
  have hsettled := stores.leases.settled_finalize permit
    (outputPacketRef dispatch compilation published) (env.sqliteFault .finalize)
  simp only [advance, Option.some.injEq, Prod.mk.injEq] at h
  obtain ⟨rfl, hcontrol⟩ := h
  have hplain : control'.Plain dispatch := hcontrol ▸
    plain_guardStep hkey (by decide) fun _ => plain_of_permit hkey rfl trivial
  exact
    { registered := fun _ h => h
      settled := fun k h => (hsettled k).2 (Or.inl h)
      newlySettled := by
        -- a key settled by this step is the worker's own, and the worker goes to `register`
        intro k hk
        rcases (hsettled k).1 hk with hold | ⟨hok, rfl⟩
        · exact Or.inl hold
        · refine Or.inr ⟨hkey, ?_⟩
          rw [← hcontrol, hok]
          trivial
      gap := fun h => h.elim
      permit := hplain.permit
      sane := hplain.sane
      recovery := fun h => absurd h hplain.notRecovery
      unavailable := fun h => absurd h hplain.notUnavailable }

/-- A worker leaves the gap only by registering. -/
theorem stepSpec_register (hkey : permit.idempotencyKey = dispatch.idempotencyKey)
    (h : advance workspace dispatch env stores
      (.register permit compilation bundlePath commitUri published descriptorDigest) =
        some (stores', control')) :
    StepSpec dispatch stores stores'
      (.register permit compilation bundlePath commitUri published descriptorDigest) control' := by
  have hregister := stores.registry.register_spec
    (publishedEntry dispatch compilation published descriptorDigest commitUri)
    (env.sqliteFault .register)
  simp only [advance, Option.some.injEq, Prod.mk.injEq] at h
  obtain ⟨rfl, hcontrol⟩ := h
  have hplain : control'.Plain dispatch := hcontrol ▸
    plain_guardStep hkey (by decide) fun _ => by
      split <;> exact plain_of_permit hkey rfl trivial
  exact
    { registered := hregister.1
      settled := fun _ h => h
      newlySettled := fun _ h => Or.inl h
      gap := by
        -- registered, or the exception keeps the worker in the gap
        intro _
        cases hanswer : (stores.registry.register
            (publishedEntry dispatch compilation published descriptorDigest commitUri)
            (env.sqliteFault .register)).1 with
        | ok _ => exact Or.inr (hregister.2 hanswer)
        | error e =>
            left
            rw [← hcontrol, hanswer]
            trivial
      permit := hplain.permit
      sane := hplain.sane
      recovery := fun h => absurd h hplain.notRecovery
      unavailable := fun h => absurd h hplain.notUnavailable }

end Step

/-- **One step.** Nothing leaves the registry or gets unsettled; only `finalize` settles a key and it
    leaves its worker in the gap; a worker leaves the gap only by registering; and the reuse error
    is raised only where the registry has no entry. -/
theorem advance_spec {workspace : Path} {env : StageEnvironment c} {stores' : StageStores}
    (hpermit : ∀ permit, control.permit? = some permit →
      permit.idempotencyKey = dispatch.idempotencyKey)
    (hsane : control.CleanupSane)
    (h : advance workspace dispatch env stores control = some (stores', control')) :
    StepSpec dispatch stores stores' control control' := by
  cases control with
  | lookupRegistry =>
      simp only [advance] at h
      split at h <;> cases h
      · exact stepSpec_quiet (fun h => h) (plain_raised (Or.inl (by decide)))
      · exact stepSpec_quiet (fun h => h) (plain_startReuse _)
      · exact stepSpec_quiet (fun h => h)
          (plain_of_no_permit rfl (fun h => h) fun _ _ => nofun)
  | acquire => exact stepSpec_acquire h
  | lookupRecovery => exact stepSpec_lookupRecovery h
  | reuseVerify entry =>
      simp only [advance] at h
      split at h
      · cases h
        exact stepSpec_quiet (fun h => h) (plain_raised (Or.inl (by decide)))
      · split at h <;> cases h
        · exact stepSpec_quiet (fun h => h)
            (plain_of_no_permit rfl (fun h => h) fun _ _ => nofun)
        · exact stepSpec_quiet (fun h => h) (plain_returned _)
  | reuseCallback entry =>
      simp only [advance] at h
      split at h <;> cases h
      · exact stepSpec_quiet (fun h => h) (plain_raised (Or.inl (by decide)))
      · exact stepSpec_quiet (fun h => h)
          (plain_of_no_permit rfl (fun h => h) fun _ _ => nofun)
  | reuseAcknowledge entry =>
      have hkeep : ∀ k, stores.registry.Holds k →
          (stores.registry.acknowledge dispatch.idempotencyKey
            (env.sqliteFault .reuseAcknowledge)).2.Holds k :=
        fun _ hk => PacketRegistry.acknowledge_holds hk
      simp only [advance] at h
      split at h <;> cases h
      · exact stepSpec_registry (fun h => h) (plain_raised (Or.inl (by decide))) hkeep
      · exact stepSpec_registry (fun h => h) (plain_returned _) hkeep
  | assertInitial permit =>
      have hkey := hpermit permit rfl
      cases h
      exact stepSpec_quiet (fun h => h)
        (plain_guardStep hkey (by decide) fun _ => plain_of_permit hkey rfl trivial)
  | resolveInputs permit =>
      have hkey := hpermit permit rfl
      cases h
      exact stepSpec_quiet (fun h => h)
        (plain_guardStep hkey (by decide) fun _ => plain_of_permit hkey rfl trivial)
  | compile permit =>
      have hkey := hpermit permit rfl
      cases h
      exact stepSpec_quiet (fun h => h)
        (plain_guardStep hkey (by decide) fun _ =>
          plain_guardStep hkey (by decide) fun _ => plain_of_permit hkey rfl trivial)
  | assertBeforeCommit permit compilation bundlePath =>
      have hkey := hpermit permit rfl
      cases h
      exact stepSpec_quiet (fun h => h)
        (plain_guardStep hkey (by decide) fun _ => plain_of_permit hkey rfl trivial)
  | commitBundle permit compilation bundlePath =>
      have hkey := hpermit permit rfl
      simp only [advance] at h
      split at h
      · cases h
        exact stepSpec_files (fun h => h) (plain_of_permit hkey rfl StageStep.noConfusion)
      · split at h <;> cases h
        · exact stepSpec_files (fun h => h) (plain_of_permit hkey rfl StageStep.noConfusion)
        · exact stepSpec_files (fun h => h) (plain_of_permit hkey rfl trivial)
  | persistReceipt permit compilation bundlePath receipt =>
      have hkey := hpermit permit rfl
      simp only [advance, Option.some.injEq, Prod.mk.injEq] at h
      obtain ⟨rfl, rfl⟩ := h
      exact stepSpec_files (fun h => h)
        (plain_guardStep hkey (by decide) fun _ => plain_of_permit hkey rfl trivial)
  | assertBeforePublish permit compilation bundlePath commitUri =>
      have hkey := hpermit permit rfl
      cases h
      exact stepSpec_quiet (fun h => h)
        (plain_guardStep hkey (by decide) fun _ => plain_of_permit hkey rfl trivial)
  | publish permit compilation bundlePath commitUri =>
      have hkey := hpermit permit rfl
      cases h
      exact stepSpec_quiet (fun h => h)
        (plain_guardStep hkey (by decide) fun _ => plain_of_permit hkey rfl trivial)
  | verifyPublished permit compilation bundlePath commitUri published =>
      have hkey := hpermit permit rfl
      cases h
      exact stepSpec_quiet (fun h => h)
        (plain_guardStep hkey (by decide) fun _ => plain_of_permit hkey rfl trivial)
  | finalize permit compilation bundlePath commitUri published descriptorDigest =>
      exact stepSpec_finalize (hpermit permit rfl) h
  | register permit compilation bundlePath commitUri published descriptorDigest =>
      exact stepSpec_register (hpermit permit rfl) h
  | callback permit result bundlePath =>
      have hkey := hpermit permit rfl
      cases h
      exact stepSpec_quiet (fun h => h)
        (plain_guardStep hkey (by decide) fun _ => plain_of_permit hkey rfl trivial)
  | acknowledge permit result bundlePath =>
      have hkey := hpermit permit rfl
      simp only [advance, Option.some.injEq, Prod.mk.injEq] at h
      obtain ⟨rfl, rfl⟩ := h
      exact stepSpec_registry (fun h => h)
        (plain_guardStep hkey (by decide) fun _ => plain_of_permit hkey rfl trivial)
        fun _ hk => PacketRegistry.acknowledge_holds hk
  | release permit result bundlePath =>
      have hkey := hpermit permit rfl
      simp only [advance, Option.some.injEq, Prod.mk.injEq] at h
      obtain ⟨rfl, rfl⟩ := h
      exact stepSpec_leases (fun h => h.elim)
        (plain_guardStep hkey (by decide) fun _ => plain_returned _)
        (stores.leases.settled_release permit (env.sqliteFault .release))
  | cleanup permit step exception =>
      simp only [advance, Option.some.injEq, Prod.mk.injEq] at h
      obtain ⟨rfl, rfl⟩ := h
      refine stepSpec_leases ?_ (plain_raised (Or.inl hsane))
        (stores.leases.settled_fail permit "stage-execution-failed" (env.sqliteFault .cleanup))
      cases step <;> exact fun h => h
  | returned outcome => cases h
  | raised step exception => cases h

end StepSpec

/-! ## Every interleaving -/

/-- What holds of one worker in the shared state: its permit is for its key, and it has been told to
    reuse only for a settled key. -/
structure StageWorker.Sound (stores : StageStores) (worker : StageWorker c) : Prop where
  permit : ∀ permit, worker.control.permit? = some permit →
    permit.idempotencyKey = worker.dispatch.idempotencyKey
  sane : worker.control.CleanupSane
  recovery : worker.control.AtRecovery → stores.leases.Settled worker.dispatch.idempotencyKey

theorem StageWorker.advance_spec {env : StageEnvironment c} {stores stores' : StageStores}
    {worker worker' : StageWorker c} (hsound : worker.Sound stores)
    (h : worker.advance env stores = some (stores', worker')) :
    worker'.dispatch = worker.dispatch ∧
      StepSpec worker.dispatch stores stores' worker.control worker'.control := by
  obtain ⟨⟨s, control'⟩, hadvance, heq⟩ := Option.map_eq_some_iff.1 h
  cases heq
  exact ⟨rfl, ConstellationTopology.advance_spec hsound.permit hsound.sane hadvance⟩

variable {files : FileTree} {pool : Pool StageStores (StageWorker c)}

theorem workers_sound (hreach : (stageSystem c files).Reachable pool) :
    ∀ slot ∈ pool.slots, slot.worker.Sound pool.shared := by
  refine Pool.forall_workers (I := fun stores worker => StageWorker.Sound stores worker) hreach
    ?_ ?_ ?_
  · intro stores description
    exact ⟨by simp [StageWorker.start, StageControl.permit?], trivial, fun h => h.elim⟩
  · intro env stores worker stores' worker' hsound hadvance
    obtain ⟨hdispatch, hspec⟩ := StageWorker.advance_spec hsound hadvance
    exact ⟨hdispatch ▸ hspec.permit, hspec.sane, hdispatch ▸ hspec.recovery⟩
  · intro env stores worker stores' worker' other hsound hadvance hother
    obtain ⟨-, hspec⟩ := StageWorker.advance_spec hsound hadvance
    exact ⟨hother.permit, hother.sane, fun h => hspec.settled _ (hother.recovery h)⟩

/-- A worker of the key finalized and is not past its registration. -/
def GapFor (pool : Pool StageStores (StageWorker c)) (k : String) : Prop :=
  ∃ slot ∈ pool.slots, slot.worker.dispatch.idempotencyKey = k ∧ slot.worker.control.InGap

/-- In every reachable state a settled key is registered, or its worker is in the gap. -/
theorem settled_registered_or_gap (hreach : (stageSystem c files).Reachable pool) {k : String}
    (hsettled : pool.shared.leases.Settled k) :
    pool.shared.registry.Holds k ∨ GapFor pool k := by
  refine Pool.witness_or (P := fun stores : StageStores => stores.leases.Settled k)
    (Q := fun stores : StageStores => stores.registry.Holds k)
    (W := fun worker : StageWorker c =>
      worker.dispatch.idempotencyKey = k ∧ worker.control.InGap)
    hreach (fun _ h => workers_sound h) ?_ ?_ ?_ ?_ hsettled
  · rintro ⟨row, hrow, -⟩
    cases hrow
  · intro env stores worker stores' worker' hsound hadvance hsettled'
    obtain ⟨hdispatch, hspec⟩ := StageWorker.advance_spec hsound hadvance
    rcases hspec.newlySettled k hsettled' with hold | ⟨hk, hgap⟩
    · exact Or.inl hold
    · exact Or.inr ⟨hdispatch ▸ hk.symm, hgap⟩
  · intro env stores worker stores' worker' hsound hadvance hholds
    exact (StageWorker.advance_spec hsound hadvance).2.registered k hholds
  · rintro env stores worker stores' worker' hsound hadvance ⟨rfl, hgap⟩
    obtain ⟨hdispatch, hspec⟩ := StageWorker.advance_spec hsound hadvance
    rcases hspec.gap hgap with hgap' | hholds
    · exact Or.inl ⟨hdispatch ▸ rfl, hgap'⟩
    · exact Or.inr hholds

/-- **Reuse is served or refused, and refused only in the gap.** In every reachable state of every
    interleaving: where `acquire` would answer reuse, the key is registered or its worker has not got
    past its registration; and a step that ends a dispatch in the reuse error finds the registry
    without an entry and such a worker, and changes neither store. -/
theorem reuse_unavailable_only_in_gap (hreach : (stageSystem c files).Reachable pool) :
    (∀ request secrets outcome,
        (pool.shared.leases.acquire request secrets none).1 = .ok outcome → outcome.permit = none →
        pool.shared.registry.Holds request.idempotencyKey ∨
          GapFor pool request.idempotencyKey) ∧
      ∀ slot ∈ pool.slots, ∀ env stores worker,
        slot.worker.advance env pool.shared = some (stores, worker) → worker.control.Unavailable →
        stores = pool.shared ∧ ¬ pool.shared.registry.Holds worker.dispatch.idempotencyKey ∧
          GapFor pool worker.dispatch.idempotencyKey := by
  refine ⟨?_, ?_⟩
  · intro request secrets outcome hanswer hpermit
    have hsettled := (LeaseStore.acquire_reuse_iff.1 ⟨outcome, hanswer, hpermit⟩).2
    exact settled_registered_or_gap hreach hsettled
  · intro slot hslot env stores worker hadvance hunavailable
    have hsound := workers_sound hreach slot hslot
    obtain ⟨hdispatch, hspec⟩ := StageWorker.advance_spec hsound hadvance
    obtain ⟨hrecovery, hstores, hnone⟩ := hspec.unavailable hunavailable
    rw [hdispatch]
    refine ⟨hstores, hnone, ?_⟩
    exact (settled_registered_or_gap hreach (hsound.recovery hrecovery)).resolve_left hnone

/-! ## The gap is reachable -/

/-- A worker publishes and finalizes, then crashes; a second dispatch of the key follows. -/
def crashLabels (c : Codec) : List (PoolLabel (Path × StageDispatch) (StageEnvironment c)) :=
  let dispatch (nonce : String) : StageDispatch :=
    { idempotencyKey := "key"
      packetId := "packet:dispatch"
      runId := "run"
      stageId := "stage"
      dispatchNonce := nonce
      targetRevision := "git:0" }
  let compilation : Compilation c :=
    { packetDigest := "0"
      packetType := "l9.topology"
      packetVersion := "1.0.0"
      semanticHash := "sha256:0"
      artifactHash := "sha256:1"
      artifacts := []
      packetDigest_hex := zeroDigest_hex }
  let env : StageEnvironment c :=
    { clock := fun _ => ⟨"2026-01-01T00:00:00Z"⟩
      secrets := ⟨"lease", "fence"⟩
      compilation := .ok compilation
      published := .ok { uri := "oci://store/packet@sha256:2", bundleManifestDigest := "sha256:3" } }
  [.spawn (["work"], dispatch "nonce-1")] ++ List.replicate 12 (.advance 0 env) ++
    [.crash 0, .spawn (["work"], dispatch "nonce-2")] ++ List.replicate 3 (.advance 1 env)

/-- A codec whose texts are all empty. -/
def blankCodec : Codec := ⟨fun _ => "", fun _ => "", fun _ => ""⟩

/-- The exception a dispatch ended in. -/
def StageControl.exception? : StageControl c → Option (StageStep × StageException)
  | raised step exception => some (step, exception)
  | _ => none

theorem StageControl.unavailable_of_exception {control : StageControl c}
    (h : control.exception? = some (.lookupRecovery, .worker reuseUnavailable)) :
    control.Unavailable := by
  cases control <;> simp_all [exception?, Unavailable]

/-- After the crash the lease answers reuse, the registry has nothing, and the second dispatch has
    ended in the error. -/
theorem crash_reachable :
    ∃ pool, (stageSystem blankCodec Table.empty).Reachable pool ∧
      pool.shared.leases.Settled "key" ∧ ¬ pool.shared.registry.Holds "key" ∧
      ∃ slot ∈ pool.slots, slot.worker.control.Unavailable := by
  have hrun : ((stageSystem blankCodec Table.empty).run (crashLabels blankCodec)).map (fun pool =>
      ((pool.shared.leases.lookup "key").map LeaseRow.state,
        pool.shared.registry.lookup "key",
        pool.slots[1]?.bind fun slot => slot.worker.control.exception?)) =
      some (some .published, none, some (.lookupRecovery, .worker reuseUnavailable)) := by
    decide +kernel
  obtain ⟨pool, hpool, hview⟩ := Option.map_eq_some_iff.1 hrun
  obtain ⟨hstate, hview⟩ := Prod.mk.inj hview
  obtain ⟨hnone, hslot⟩ := Prod.mk.inj hview
  obtain ⟨row, hrow, hpublished⟩ := Option.map_eq_some_iff.1 hstate
  obtain ⟨slot, hmem, hexception⟩ := Option.bind_eq_some_iff.1 hslot
  refine ⟨pool, ⟨crashLabels blankCodec, hpool⟩, ⟨row, hrow, Or.inl hpublished⟩, ?_, slot,
    List.mem_iff_getElem?.2 ⟨1, hmem⟩, StageControl.unavailable_of_exception hexception⟩
  rintro ⟨entry, hentry⟩
  rw [hnone] at hentry
  cases hentry

theorem reuse_not_always_available :
    ¬ ∀ (c : Codec) (files : FileTree) (pool : Pool StageStores (StageWorker c)),
      (stageSystem c files).Reachable pool →
        (∀ k, pool.shared.leases.Settled k → pool.shared.registry.Holds k) ∧
          ∀ slot ∈ pool.slots, ¬ slot.worker.control.Unavailable := by
  intro hclaim
  obtain ⟨pool, hreach, hsettled, hnone, -⟩ := crash_reachable
  exact hnone ((hclaim blankCodec Table.empty pool hreach).1 "key" hsettled)

theorem reuse_gap_after_crash :
    ∃ pool, (stageSystem blankCodec Table.empty).Reachable pool ∧ GapFor pool "key" := by
  obtain ⟨pool, hreach, hsettled, hnone, -⟩ := crash_reachable
  refine ⟨pool, hreach, ?_⟩
  let request : AcquireRequest := ⟨"key", "packet:dispatch", "nonce-2", "stage"⟩
  let secrets : Secrets := ⟨"lease-2", "fence-2"⟩
  have hreuse : ∃ outcome, (pool.shared.leases.acquire request secrets none).1 = .ok outcome ∧
      outcome.permit = none := LeaseStore.acquire_reuse_iff.2 ⟨rfl, hsettled⟩
  obtain ⟨outcome, hanswer, hpermit⟩ := hreuse
  exact ((reuse_unavailable_only_in_gap hreach).1 request secrets outcome hanswer
    hpermit).resolve_left hnone

end ConstellationTopology
