import ConstellationTopology.Domain.Assessment
import ConstellationTopology.Domain.Entities
import ConstellationTopology.Library.Collection
import ConstellationTopology.Library.Table
import ConstellationTopology.Library.Text
import ConstellationTopology.Reconciliation.Cardinality
import ConstellationTopology.Run.Hashing

set_option autoImplicit false

/-! # Merging repository records

`stages/aggregate_repositories.py`: the records of one repository are merged, and the dependencies a
repository names are resolved to the repositories of the input. `str.lower` and `repr` are
parameters. -/

namespace ConstellationTopology

namespace AggregateRepositories

/-! ## Merging -/

/-- `_IDENTIFYING_FIELDS`, with the values they read. -/
def identifyingFields : List (String × (RepositoryRecord → String)) :=
  [("source_revision", RepositoryRecord.sourceRevision), ("name", RepositoryRecord.name)]

/-- `union`, the nested function. -/
def union (field : RepositoryRecord → List String) (records : List RepositoryRecord) :
    List String :=
  sortedSet (records.flatMap field)

variable (c : Codec)

/-- The conflict of one identifying field. -/
def fieldConflicts (repositoryId : String) (records : List RepositoryRecord)
    (entry : String × (RepositoryRecord → String)) : List ConflictRecord :=
  let values := sortedSet (records.map entry.2)
  if isConflicting (some entry.1) values then
    [{ conflictId := c.stableId "conflict" (.obj [("id", .str repositoryId),
         ("field", .str entry.1), ("values", Json.strings values)])
       subjectId := repositoryId
       field := entry.1
       values := values
       evidenceRefs := union RepositoryRecord.evidenceRefs records
       blocking := true }]
  else []

/-- The conflicts of `_merge_records`. -/
def mergeConflicts (repositoryId : String) (records : List RepositoryRecord) :
    List ConflictRecord :=
  identifyingFields.flatMap (fieldConflicts c repositoryId records)

/-- The record of `_merge_records`. -/
def merged (first : RepositoryRecord) (records : List RepositoryRecord) : RepositoryRecord :=
  { first with
    secondaryRoles := union RepositoryRecord.secondaryRoles records
    languages := union RepositoryRecord.languages records
    packageManagers := union RepositoryRecord.packageManagers records
    entrypoints := union RepositoryRecord.entrypoints records
    workflows := union RepositoryRecord.workflows records
    adrRefs := union RepositoryRecord.adrRefs records
    governanceRefs := union RepositoryRecord.governanceRefs records
    capabilityIds := union RepositoryRecord.capabilityIds records
    artifactIds := union RepositoryRecord.artifactIds records
    upstreamRepositoryIds := union RepositoryRecord.upstreamRepositoryIds records
    downstreamRepositoryIds := union RepositoryRecord.downstreamRepositoryIds records
    unresolvedDependencies := union RepositoryRecord.unresolvedDependencies records
    ownerIds := union RepositoryRecord.ownerIds records
    evidenceRefs := union RepositoryRecord.evidenceRefs records }

/-- `sorted(grouped)`. -/
def repositoryIds (records : List RepositoryRecord) : List String :=
  sortedSet (records.map RepositoryRecord.repositoryId)

/-- The merged records, in the order of the ids. -/
def mergedRecords (records : List RepositoryRecord) : List RepositoryRecord :=
  (repositoryIds records).filterMap fun repositoryId =>
    let group := groupOf RepositoryRecord.repositoryId repositoryId records
    group.head?.map fun first => merged first group

/-- The conflicts of all repositories. -/
def conflicts (records : List RepositoryRecord) : List ConflictRecord :=
  (repositoryIds records).flatMap fun repositoryId =>
    mergeConflicts c repositoryId (groupOf RepositoryRecord.repositoryId repositoryId records)

/-! ## Resolving dependencies -/

section Dependencies

variable (lower repr : String → String)

/-- `name_lookup`: the names and the id suffixes, the last one of a key standing. -/
def nameLookup (merged : List RepositoryRecord) :
    Table (Prod.fst : String × String → String) :=
  Table.ofRows _ (merged.flatMap fun record =>
    [(lower record.name, record.repositoryId),
      (lower (removeMarker "repo:" record.repositoryId), record.repositoryId)])

/-- A target that is found and not empty. -/
def foundTarget (merged : List RepositoryRecord) (key : String) : Option String :=
  (((nameLookup lower merged).lookup key).map Prod.snd).filter fun target => target ≠ ""

/-- The repository a dependency name resolves to: another one than the record's own. -/
def resolveDependency (merged : List RepositoryRecord) (record : RepositoryRecord)
    (dependency : String) : Option String :=
  ((foundTarget lower merged (replaceChar '_' '-' (lower dependency))).or
    (foundTarget lower merged (lower dependency))).filter fun target =>
      target ≠ record.repositoryId

/-- The repositories that the dependencies of a record resolve to. -/
def resolvedTargets (merged : List RepositoryRecord) (record : RepositoryRecord) : List String :=
  record.unresolvedDependencies.filterMap (resolveDependency lower merged record)

/-- The dependencies of a record that resolve to none. -/
def unresolved (merged : List RepositoryRecord) (record : RepositoryRecord) : List String :=
  record.unresolvedDependencies.filter fun dependency =>
    resolveDependency lower merged record dependency = none ∧ dependency ≠ ""

/-- The id of the unknown of a dependency. -/
def dependencyUnknownId (repositoryId dependency : String) : String :=
  c.stableId "unknown"
    (.obj [("repository_id", .str repositoryId), ("dependency", .str dependency)])

/-- The unknown of a dependency that does not resolve. -/
def dependencyUnknown (record : RepositoryRecord) (dependency : String) : UnknownRecord where
  unknownId := dependencyUnknownId c record.repositoryId dependency
  subjectId := record.repositoryId
  field := some "upstream_repository_ids"
  reason := "dependency " ++ repr dependency ++ " does not resolve to an input repository"
  evidenceRefs := record.evidenceRefs

/-- The unknowns, in the order of the loop. -/
def unknowns (records : List RepositoryRecord) : List UnknownRecord :=
  let merged := mergedRecords records
  merged.flatMap fun record =>
    (unresolved lower merged record).map (dependencyUnknown c repr record)

/-- `downstream[repository_id]`. -/
def downstream (merged : List RepositoryRecord) (repositoryId : String) : List String :=
  (merged.filter fun record => repositoryId ∈ resolvedTargets lower merged record).map
    RepositoryRecord.repositoryId

/-- The final record of a merged one. -/
def resolved (merged : List RepositoryRecord) (record : RepositoryRecord) : RepositoryRecord :=
  { record with
    upstreamRepositoryIds :=
      sortedSet (record.upstreamRepositoryIds ++ resolvedTargets lower merged record)
    unresolvedDependencies := sortedBy id (unresolved lower merged record)
    downstreamRepositoryIds := sortedSet (downstream lower merged record.repositoryId) }

/-- `run`. -/
def run (records : List RepositoryRecord) :
    List RepositoryRecord × List ConflictRecord × List UnknownRecord :=
  let merged := mergedRecords records
  (merged.map (resolved lower merged), conflicts c records, unknowns c lower repr records)

end Dependencies

/-! ## The merged records -/

section

variable {records : List RepositoryRecord}

theorem mergedRecords_ids (records : List RepositoryRecord) :
    (mergedRecords records).map RepositoryRecord.repositoryId = repositoryIds records := by
  unfold mergedRecords
  rw [List.map_filterMap]
  refine (List.filterMap_congr fun repositoryId hid => ?_).trans List.filterMap_some
  obtain ⟨record, hrecord, rfl⟩ := List.mem_map.1 (mem_sortedSet.1 hid)
  have hgroup : record ∈ groupOf RepositoryRecord.repositoryId record.repositoryId records :=
    mem_groupOf.2 ⟨hrecord, rfl⟩
  cases hhead : (groupOf RepositoryRecord.repositoryId record.repositoryId records).head? with
  | none =>
      rw [List.head?_eq_none_iff] at hhead
      rw [hhead] at hgroup
      cases hgroup
  | some first =>
      have hfirst := (mem_groupOf.1 (List.mem_of_head? hhead)).2
      simp [hhead, merged, hfirst]

theorem mergedRecords_ids_nodup (records : List RepositoryRecord) :
    ((mergedRecords records).map RepositoryRecord.repositoryId).Nodup := by
  rw [mergedRecords_ids]
  exact sortedSet_nodup _

/-- Two merged records of one repository are one. -/
theorem eq_of_repositoryId_eq {record record' : RepositoryRecord}
    (h : record ∈ mergedRecords records) (h' : record' ∈ mergedRecords records)
    (heq : record.repositoryId = record'.repositoryId) : record = record' :=
  List.inj_on_of_nodup_map (mergedRecords_ids_nodup records) h h' heq

/-- A merged record is the merge of the records of its repository. -/
theorem exists_of_mem_mergedRecords {record : RepositoryRecord}
    (h : record ∈ mergedRecords records) : ∃ first,
      first ∈ groupOf RepositoryRecord.repositoryId record.repositoryId records ∧
        record = merged first (groupOf RepositoryRecord.repositoryId record.repositoryId records) := by
  obtain ⟨repositoryId, -, hrecord⟩ := List.mem_filterMap.1 h
  obtain ⟨first, hfirst, rfl⟩ := Option.map_eq_some_iff.1 hrecord
  have hin := List.mem_of_head? hfirst
  have hid : first.repositoryId = repositoryId := (mem_groupOf.1 hin).2
  refine ⟨first, ?_, ?_⟩
  · exact hid.symm ▸ hin
  · simp only [merged, hid]

/-- The dependencies of a merged record are a set. -/
theorem unresolved_nodup {record : RepositoryRecord} (h : record ∈ mergedRecords records)
    (lower : String → String) (merged : List RepositoryRecord) :
    (unresolved lower merged record).Nodup := by
  obtain ⟨first, -, heq⟩ := exists_of_mem_mergedRecords h
  rw [heq]
  exact (sortedSet_nodup _).filter _

end

end AggregateRepositories

end ConstellationTopology
