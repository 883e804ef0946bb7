import ConstellationTopology.Domain.Entities
import ConstellationTopology.Library.Collection
import ConstellationTopology.Library.Table

set_option autoImplicit false

/-! # Building capabilities

`topology/capability_builder.py`: the declared capability records, one for each id that only
repositories list, and one for each id that only artifacts list. The records are held in a
dictionary, so of several declared records with one id the last one is kept. -/

namespace ConstellationTopology

/-- `text.rsplit(":", 1)[-1]`. -/
def afterLastColon (text : String) : String :=
  String.ofList (text.toList.reverse.takeWhile fun ch => ch ≠ ':').reverse

/-- The record of an id that a repository lists and no record declares. -/
def repositoryCapability (repository : RepositoryRecord) (capabilityId : String) :
    CapabilityRecord where
  capabilityId := capabilityId
  name := afterLastColon capabilityId
  description := "Capability declared by repository " ++ repository.name ++ "."
  implementedBy := [repository.repositoryId]
  evidenceRefs := repository.evidenceRefs
  confidence := repository.confidence

/-- The record of an id that only artifacts list. -/
def artifactCapability (capabilityId : String) (implementers : List String) :
    CapabilityRecord where
  capabilityId := capabilityId
  name := afterLastColon capabilityId
  description := "Capability derived from artifact declarations."
  implementedBy := sortedSet implementers
  confidence := .deterministic

/-- The records by their ids. -/
abbrev CapabilityTable := Table CapabilityRecord.capabilityId

/-- One listed id of the loop over the repositories: only an id without a record gets one. -/
def addRepositoryCapability (table : CapabilityTable) (listing : RepositoryRecord × String) :
    CapabilityTable :=
  match table.lookup listing.2 with
  | some _ => table
  | none => table.upsert (repositoryCapability listing.1 listing.2)

/-- The ids that repositories list, in the order of the two nested loops. -/
def repositoryListings (repositories : List RepositoryRecord) :
    List (RepositoryRecord × String) :=
  repositories.flatMap fun repository => repository.capabilityIds.map fun id => (repository, id)

/-- `artifact_implementers[capability_id]`. -/
def artifactImplementers (artifacts : List ArtifactRecord) (capabilityId : String) : List String :=
  (artifacts.filter fun artifact => capabilityId ∈ artifact.capabilities).map
    ArtifactRecord.artifactId

/-- The keys of `artifact_implementers`. -/
def artifactCapabilityIds (artifacts : List ArtifactRecord) : List String :=
  (artifacts.flatMap ArtifactRecord.capabilities).dedup

/-- The record of an id that artifacts list, from the one it has so far. -/
def implementedCapability (artifacts : List ArtifactRecord) (capabilityId : String)
    (existing : Option CapabilityRecord) : CapabilityRecord :=
  let implementers := artifactImplementers artifacts capabilityId
  match existing with
  | none => artifactCapability capabilityId implementers
  | some record =>
      { record with implementedBy := sortedSet (record.implementedBy ++ implementers) }

/-- The dictionary before the final sort. -/
def capabilityTable (repositories : List RepositoryRecord) (artifacts : List ArtifactRecord)
    (declared : List CapabilityRecord) : CapabilityTable :=
  let byId := Table.ofRows CapabilityRecord.capabilityId declared
  let withRepositories := (repositoryListings repositories).foldl addRepositoryCapability byId
  (artifactCapabilityIds artifacts).foldl (fun table capabilityId =>
    table.upsert (implementedCapability artifacts capabilityId (table.lookup capabilityId)))
    withRepositories

/-- `build_capabilities`. -/
def buildCapabilities (repositories : List RepositoryRecord) (artifacts : List ArtifactRecord)
    (declared : List CapabilityRecord) : List CapabilityRecord :=
  sortedBy CapabilityRecord.capabilityId (capabilityTable repositories artifacts declared).rows

/-! ## The record of one id -/

section Record

variable (repositories : List RepositoryRecord) (artifacts : List ArtifactRecord)
  (declared : List CapabilityRecord) (capabilityId : String)

/-- The last declared record of the id. -/
def lastDeclared : Option CapabilityRecord :=
  (declared.filter fun record => record.capabilityId = capabilityId).getLast?

/-- The first repository that lists the id. -/
def firstListing : Option RepositoryRecord :=
  repositories.find? fun repository => capabilityId ∈ repository.capabilityIds

/-- The record of the id before the artifacts are looked at. -/
def baseCapability : Option CapabilityRecord :=
  (lastDeclared declared capabilityId).or
    ((firstListing repositories capabilityId).map fun repository =>
      repositoryCapability repository capabilityId)

theorem lookup_addRepositoryCapability (table : CapabilityTable)
    (listing : RepositoryRecord × String) (k : String) :
    (addRepositoryCapability table listing).lookup k =
      (table.lookup k).or
        (if listing.2 = k then some (repositoryCapability listing.1 k) else none) := by
  unfold addRepositoryCapability
  cases hrow : table.lookup listing.2 with
  | some record =>
      by_cases hk : listing.2 = k
      · simp [← hk, hrow]
      · simp [hk]
  | none =>
      have hkey : (repositoryCapability listing.1 listing.2).capabilityId = listing.2 := rfl
      rw [Table.lookup_upsert, hkey]
      by_cases hk : listing.2 = k
      · simp [← hk, hrow]
      · simp [hk, Ne.symm hk]

/-- The first listing of an id is by the first repository that lists it. -/
theorem find_repositoryListings :
    ((repositoryListings repositories).find? fun listing => listing.2 = capabilityId) =
      (firstListing repositories capabilityId).map fun repository => (repository, capabilityId) := by
  unfold repositoryListings firstListing
  induction repositories with
  | nil => rfl
  | cons repository rest ih =>
      have hown : ((repository.capabilityIds.map fun id => (repository, id)).find? fun listing =>
          listing.2 = capabilityId) =
          if capabilityId ∈ repository.capabilityIds then some (repository, capabilityId)
          else none := by
        induction repository.capabilityIds with
        | nil => rfl
        | cons id ids ihIds =>
            rw [List.map_cons, List.find?_cons, ihIds]
            by_cases hid : id = capabilityId
            · simp [hid]
            · simp [hid, Ne.symm hid]
      rw [List.flatMap_cons, List.find?_append, hown, ih, List.find?_cons]
      by_cases hmem : capabilityId ∈ repository.capabilityIds <;> simp [hmem]

theorem lookup_withRepositories (table : CapabilityTable) :
    ((repositoryListings repositories).foldl addRepositoryCapability table).lookup capabilityId =
      (table.lookup capabilityId).or
        ((firstListing repositories capabilityId).map fun repository =>
          repositoryCapability repository capabilityId) := by
  have hfold : ∀ (listings : List (RepositoryRecord × String)) (table : CapabilityTable),
      (listings.foldl addRepositoryCapability table).lookup capabilityId =
        (table.lookup capabilityId).or
          ((listings.find? fun listing => listing.2 = capabilityId).map fun listing =>
            repositoryCapability listing.1 capabilityId) := by
    intro listings
    induction listings with
    | nil => simp
    | cons listing rest ih =>
        intro table
        rw [List.foldl_cons, ih, lookup_addRepositoryCapability, List.find?_cons, Option.or_assoc]
        by_cases hk : listing.2 = capabilityId <;> simp [hk]
  rw [hfold, find_repositoryListings, Option.map_map]
  rfl

/-- The record of an id, with its artifacts. -/
def builtCapability : Option CapabilityRecord :=
  if capabilityId ∈ artifactCapabilityIds artifacts then
    some (implementedCapability artifacts capabilityId
      (baseCapability repositories declared capabilityId))
  else baseCapability repositories declared capabilityId

theorem implementedCapability_id (existing : Option CapabilityRecord)
    (h : ∀ record ∈ existing, record.capabilityId = capabilityId) :
    (implementedCapability artifacts capabilityId existing).capabilityId = capabilityId := by
  cases existing with
  | none => rfl
  | some record => exact h record rfl

/-- **One id.** What the dictionary holds for an id, from the inputs alone. -/
theorem lookup_capabilityTable :
    (capabilityTable repositories artifacts declared).lookup capabilityId =
      builtCapability repositories artifacts declared capabilityId := by
  have hnodup : (artifactCapabilityIds artifacts).Nodup := List.nodup_dedup _
  have hbase : ((repositoryListings repositories).foldl addRepositoryCapability
      (Table.ofRows CapabilityRecord.capabilityId declared)).lookup capabilityId =
        baseCapability repositories declared capabilityId := by
    rw [lookup_withRepositories, Table.lookup_ofRows]
    rfl
  unfold builtCapability
  rw [← hbase]
  exact Table.lookup_foldl_alter (implementedCapability_id artifacts) hnodup _ _

theorem mem_buildCapabilities {record : CapabilityRecord} :
    record ∈ buildCapabilities repositories artifacts declared ↔
      builtCapability repositories artifacts declared record.capabilityId = some record := by
  rw [buildCapabilities, mem_sortedBy, Table.mem_rows_iff, lookup_capabilityTable]

/-- No id is built twice. -/
theorem buildCapabilities_nodup :
    ((buildCapabilities repositories artifacts declared).map
      CapabilityRecord.capabilityId).Nodup :=
  ((sortedBy_perm _ _).map _).nodup_iff.2
    (capabilityTable repositories artifacts declared).keys_nodup

theorem mem_artifactImplementers {x : String} :
    x ∈ artifactImplementers artifacts capabilityId ↔
      ∃ a ∈ artifacts, capabilityId ∈ a.capabilities ∧ a.artifactId = x := by
  simp [artifactImplementers, and_assoc]

theorem mem_artifactCapabilityIds :
    capabilityId ∈ artifactCapabilityIds artifacts ↔
      ∃ a ∈ artifacts, capabilityId ∈ a.capabilities := by
  simp [artifactCapabilityIds]

/-- An id has a record exactly when somebody names it. -/
theorem builtCapability_isSome :
    (builtCapability repositories artifacts declared capabilityId).isSome ↔
      (∃ d ∈ declared, d.capabilityId = capabilityId) ∨
        (∃ r ∈ repositories, capabilityId ∈ r.capabilityIds) ∨
          ∃ a ∈ artifacts, capabilityId ∈ a.capabilities := by
  have hlast : (lastDeclared declared capabilityId).isSome ↔
      ∃ d ∈ declared, d.capabilityId = capabilityId := by
    unfold lastDeclared
    rw [List.getLast?_isSome, ne_eq, List.filter_eq_nil_iff]
    simp
  have hfirst : (firstListing repositories capabilityId).isSome ↔
      ∃ r ∈ repositories, capabilityId ∈ r.capabilityIds := by
    unfold firstListing
    rw [List.find?_isSome]
    simp
  unfold builtCapability
  by_cases hmem : capabilityId ∈ artifactCapabilityIds artifacts
  · rw [if_pos hmem]
    simp [(mem_artifactCapabilityIds artifacts capabilityId).1 hmem]
  · rw [if_neg hmem, baseCapability, Option.isSome_or, Option.isSome_map]
    have hnone := mt (mem_artifactCapabilityIds artifacts capabilityId).2 hmem
    simp [hlast, hfirst, hnone]

/-- The implementers of the built record: those of the base record and the artifacts. -/
theorem mem_implementedBy_built {record : CapabilityRecord}
    (h : builtCapability repositories artifacts declared capabilityId = some record) (x : String) :
    x ∈ record.implementedBy ↔
      (∃ base ∈ baseCapability repositories declared capabilityId, x ∈ base.implementedBy) ∨
        x ∈ artifactImplementers artifacts capabilityId := by
  unfold builtCapability at h
  split at h
  · cases h
    cases hbase : baseCapability repositories declared capabilityId with
    | none => simp [implementedCapability, artifactCapability]
    | some base => simp [implementedCapability]
  · next hmem =>
      have hnone : artifactImplementers artifacts capabilityId = [] := by
        refine List.eq_nil_iff_forall_not_mem.2 fun y hy => hmem ?_
        obtain ⟨a, ha, hlists, -⟩ := (mem_artifactImplementers artifacts capabilityId).1 hy
        exact (mem_artifactCapabilityIds artifacts capabilityId).2 ⟨a, ha, hlists⟩
      simp [h, hnone]

/-- The other fields are those of the base record. -/
theorem built_of_base {record base : CapabilityRecord}
    (h : builtCapability repositories artifacts declared capabilityId = some record)
    (hbase : baseCapability repositories declared capabilityId = some base) :
    record = { base with implementedBy := record.implementedBy } := by
  unfold builtCapability at h
  split at h
  · cases h
    rw [hbase]
    rfl
  · rw [hbase] at h
    cases h
    rfl

theorem builtCapability_id {record : CapabilityRecord}
    (h : builtCapability repositories artifacts declared capabilityId = some record) :
    record.capabilityId = capabilityId := by
  rw [← lookup_capabilityTable] at h
  exact Table.lookup_key h

/-- What an artifact lists has a record that names it as an implementer. -/
theorem exists_built_of_listed {artifact : ArtifactRecord} (hartifact : artifact ∈ artifacts)
    (hlisted : capabilityId ∈ artifact.capabilities) :
    ∃ record ∈ buildCapabilities repositories artifacts declared,
      record.capabilityId = capabilityId ∧ artifact.artifactId ∈ record.implementedBy := by
  obtain ⟨record, hbuilt⟩ := Option.isSome_iff_exists.1
    ((builtCapability_isSome repositories artifacts declared capabilityId).2
      (.inr (.inr ⟨artifact, hartifact, hlisted⟩)))
  have hid := builtCapability_id repositories artifacts declared capabilityId hbuilt
  refine ⟨record, ?_, hid, ?_⟩
  · rw [mem_buildCapabilities, hid]
    exact hbuilt
  · exact (mem_implementedBy_built repositories artifacts declared capabilityId hbuilt _).2
      (.inr ((mem_artifactImplementers artifacts capabilityId).2
        ⟨artifact, hartifact, hlisted, rfl⟩))

end Record

end ConstellationTopology
