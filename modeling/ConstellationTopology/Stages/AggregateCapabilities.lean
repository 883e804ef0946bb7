import ConstellationTopology.Domain.Assessment
import ConstellationTopology.Library.JsonText
import ConstellationTopology.Reconciliation.Cardinality
import ConstellationTopology.Run.Hashing
import ConstellationTopology.Topology.CapabilityBuilder

set_option autoImplicit false

/-! # Merging capability records

`stages/aggregate_capabilities.py` groups records by id, takes the union of their lineage and reports
different descriptions as a conflict. In what `build_capabilities` returns no id occurs twice, so
there is nothing left to merge or to compare: what of several declared records is lost, is lost
before. `lineage_conserved_iff` says for which inputs nothing is lost. -/

namespace ConstellationTopology

namespace AggregateCapabilities

/-- `union`, the nested function. -/
def union (field : CapabilityRecord → List String) (items : List CapabilityRecord) :
    List String :=
  sortedSet (items.flatMap field)

/-- The merged record of a group. -/
def merged (first : CapabilityRecord) (items : List CapabilityRecord) : CapabilityRecord :=
  { first with
    implementedBy := union CapabilityRecord.implementedBy items
    exposedBy := union CapabilityRecord.exposedBy items
    validatedBy := union CapabilityRecord.validatedBy items
    governedBy := union CapabilityRecord.governedBy items
    evidenceRefs := union CapabilityRecord.evidenceRefs items }

variable (c : Codec)

/-- The conflict of a group with several descriptions. -/
def descriptionConflicts (capabilityId : String) (items : List CapabilityRecord) :
    List ConflictRecord :=
  let descriptions := sortedSet (items.map CapabilityRecord.description)
  if isConflicting (some "description") descriptions then
    [{ conflictId := c.stableId "conflict" (.obj [("capability_id", .str capabilityId),
         ("field", .str "description"), ("values", Json.strings descriptions)])
       subjectId := capabilityId
       field := "description"
       values := descriptions
       evidenceRefs := union CapabilityRecord.evidenceRefs items
       blocking := false }]
  else []

/-- `run`. -/
def run (records : List CapabilityRecord) : List CapabilityRecord × List ConflictRecord :=
  let capabilityIds := sortedSet (records.map CapabilityRecord.capabilityId)
  let group capabilityId := groupOf CapabilityRecord.capabilityId capabilityId records
  (capabilityIds.filterMap fun capabilityId =>
      (group capabilityId).head?.map fun first => merged first (group capabilityId),
    capabilityIds.flatMap fun capabilityId => descriptionConflicts c capabilityId (group capabilityId))

/-! ## Records without repetition -/

section Distinct

variable {c} {records : List CapabilityRecord} {record : CapabilityRecord}

theorem mem_run_of_distinct (hnodup : (records.map CapabilityRecord.capabilityId).Nodup) :
    record ∈ (run c records).1 ↔ ∃ x ∈ records, record = merged x [x] := by
  simp only [run, List.mem_filterMap, mem_sortedSet, List.mem_map]
  constructor
  · rintro ⟨_, ⟨x, hx, rfl⟩, hrecord⟩
    rw [groupOf_of_nodup hnodup hx] at hrecord
    exact ⟨x, hx, (Option.some.inj hrecord).symm⟩
  · rintro ⟨x, hx, rfl⟩
    refine ⟨_, ⟨x, hx, rfl⟩, ?_⟩
    rw [groupOf_of_nodup hnodup hx]
    rfl

/-- A single description is no conflict. -/
theorem no_conflict_of_distinct (hnodup : (records.map CapabilityRecord.capabilityId).Nodup) :
    (run c records).2 = [] := by
  rw [List.eq_nil_iff_forall_not_mem]
  intro conflict hconflict
  simp only [run, List.mem_flatMap, mem_sortedSet, List.mem_map] at hconflict
  obtain ⟨_, ⟨x, hx, rfl⟩, hconflict⟩ := hconflict
  rw [groupOf_of_nodup hnodup hx] at hconflict
  simp [descriptionConflicts, isConflicting, sortedSet] at hconflict

/-- A record is merged into one of its id, with all its implementers. -/
theorem exists_run_of_mem (h : record ∈ records) :
    ∃ x ∈ (run c records).1, x.capabilityId = record.capabilityId ∧
      record.implementedBy ⊆ x.implementedBy := by
  have hgroup : record ∈ groupOf CapabilityRecord.capabilityId record.capabilityId records :=
    mem_groupOf.2 ⟨h, rfl⟩
  obtain ⟨first, hfirst⟩ := Option.ne_none_iff_exists'.1
    (mt List.head?_eq_none_iff.1 (List.ne_nil_of_mem hgroup))
  refine ⟨_, List.mem_filterMap.2 ⟨_, mem_sortedSet.2 (List.mem_map_of_mem h),
    Option.map_eq_some_iff.2 ⟨first, hfirst, rfl⟩⟩, ?_, ?_⟩
  · exact (mem_groupOf.1 (List.mem_of_head? hfirst)).2
  · exact fun implementer himplementer =>
      mem_sortedSet.2 (List.mem_flatMap.2 ⟨record, hgroup, himplementer⟩)

end Distinct

end AggregateCapabilities

/-! ## Lineage -/

section Lineage

variable (c : Codec) (repositories : List RepositoryRecord) (artifacts : List ArtifactRecord)
  (declared : List CapabilityRecord) (capabilityId : String)

/-- The two stages in series. -/
def compileCapabilities : List CapabilityRecord × List ConflictRecord :=
  AggregateCapabilities.run c (buildCapabilities repositories artifacts declared)

/-- Somebody names the id. -/
def Named : Prop :=
  (∃ d ∈ declared, d.capabilityId = capabilityId) ∨
    (∃ r ∈ repositories, capabilityId ∈ r.capabilityIds) ∨
      ∃ a ∈ artifacts, capabilityId ∈ a.capabilities

/-- The lineage of an id is in a record. -/
structure HoldsLineage (record : CapabilityRecord) : Prop where
  ofDeclared : ∀ d ∈ declared, d.capabilityId = capabilityId →
    d.implementedBy ⊆ record.implementedBy ∧ d.exposedBy ⊆ record.exposedBy ∧
      d.validatedBy ⊆ record.validatedBy ∧ d.governedBy ⊆ record.governedBy ∧
        d.evidenceRefs ⊆ record.evidenceRefs
  ofArtifacts : ∀ a ∈ artifacts, capabilityId ∈ a.capabilities →
    a.artifactId ∈ record.implementedBy
  ofRepositories : (∀ d ∈ declared, d.capabilityId ≠ capabilityId) →
    ∀ r ∈ repositories, capabilityId ∈ r.capabilityIds → r.repositoryId ∈ record.implementedBy

/-- Two declared records describe the id differently. -/
def DescribedTwice : Prop :=
  ∃ d ∈ declared, ∃ d' ∈ declared, d.capabilityId = capabilityId ∧ d'.capabilityId = capabilityId ∧
    d.description ≠ d'.description

/-- Nothing is lost: an id that is named has a record, its lineage is in the record, and different
    descriptions are reported. -/
structure LineageConserved (out : List CapabilityRecord × List ConflictRecord) : Prop where
  recorded : Named repositories artifacts declared capabilityId →
    ∃ record ∈ out.1, record.capabilityId = capabilityId
  held : ∀ record ∈ out.1, record.capabilityId = capabilityId →
    HoldsLineage repositories artifacts declared capabilityId record
  conflict : (∃ conflict ∈ out.2, conflict.subjectId = capabilityId ∧
    conflict.field = "description") ↔ DescribedTwice declared capabilityId

/-- The last declared record of the id has all there is to know about it; without one, the first
    repository that lists the id does. -/
def LastSaysAll : Prop :=
  match lastDeclared declared capabilityId with
  | some last => ∀ d ∈ declared, d.capabilityId = capabilityId →
      (∀ x ∈ d.implementedBy, x ∈ last.implementedBy ∨
        x ∈ artifactImplementers artifacts capabilityId) ∧
      d.exposedBy ⊆ last.exposedBy ∧ d.validatedBy ⊆ last.validatedBy ∧
      d.governedBy ⊆ last.governedBy ∧ d.evidenceRefs ⊆ last.evidenceRefs ∧
      d.description = last.description
  | none => ∀ first ∈ firstListing repositories capabilityId, ∀ r ∈ repositories,
      capabilityId ∈ r.capabilityIds → r.repositoryId = first.repositoryId ∨
        r.repositoryId ∈ artifactImplementers artifacts capabilityId

end Lineage

section LineageProof

variable {c : Codec} {repositories : List RepositoryRecord} {artifacts : List ArtifactRecord}
  {declared : List CapabilityRecord} {capabilityId : String} {record : CapabilityRecord}

/-- The record the two stages leave for an id. -/
theorem mem_compileCapabilities :
    (record ∈ (compileCapabilities c repositories artifacts declared).1 ∧
        record.capabilityId = capabilityId) ↔
      ∃ built, builtCapability repositories artifacts declared capabilityId = some built ∧
        record = AggregateCapabilities.merged built [built] := by
  have hmem := @AggregateCapabilities.mem_run_of_distinct c _ record
    (buildCapabilities_nodup repositories artifacts declared)
  constructor
  · rintro ⟨hrecord, rfl⟩
    obtain ⟨built, hbuilt, rfl⟩ := hmem.1 hrecord
    exact ⟨built, (mem_buildCapabilities _ _ _).1 hbuilt, rfl⟩
  · rintro ⟨built, hbuilt, rfl⟩
    have hid := builtCapability_id _ _ _ _ hbuilt
    refine ⟨hmem.2 ⟨built, (mem_buildCapabilities _ _ _).2 ?_, rfl⟩, hid⟩
    rw [hid]
    exact hbuilt

theorem mem_union_singleton (field : CapabilityRecord → List String) (built : CapabilityRecord)
    (x : String) : x ∈ AggregateCapabilities.union field [built] ↔ x ∈ field built := by
  simp [AggregateCapabilities.union]

theorem lastDeclared_some {last : CapabilityRecord}
    (h : lastDeclared declared capabilityId = some last) :
    last ∈ declared ∧ last.capabilityId = capabilityId := by
  have hmem := List.mem_of_getLast? h
  simpa using hmem

theorem lastDeclared_none (h : lastDeclared declared capabilityId = none) :
    ∀ d ∈ declared, d.capabilityId ≠ capabilityId := by
  unfold lastDeclared at h
  rw [List.getLast?_eq_none_iff, List.filter_eq_nil_iff] at h
  simpa using h

/-- With a declared record, the lineage is held when the last record has it. -/
theorem holdsLineage_declared {last built : CapabilityRecord}
    (hlast : lastDeclared declared capabilityId = some last)
    (hbuilt : builtCapability repositories artifacts declared capabilityId = some built) :
    HoldsLineage repositories artifacts declared capabilityId
        (AggregateCapabilities.merged built [built]) ↔
      ∀ d ∈ declared, d.capabilityId = capabilityId →
        (∀ x ∈ d.implementedBy, x ∈ last.implementedBy ∨
          x ∈ artifactImplementers artifacts capabilityId) ∧
        d.exposedBy ⊆ last.exposedBy ∧ d.validatedBy ⊆ last.validatedBy ∧
        d.governedBy ⊆ last.governedBy ∧ d.evidenceRefs ⊆ last.evidenceRefs := by
  have hbase : baseCapability repositories declared capabilityId = some last := by
    simp [baseCapability, hlast]
  have himpl := mem_implementedBy_built repositories artifacts declared capabilityId hbuilt
  have hrest := built_of_base repositories artifacts declared capabilityId hbuilt hbase
  simp only [hbase, Option.mem_some_iff, exists_eq_left'] at himpl
  have hexposed : built.exposedBy = last.exposedBy := by rw [hrest]
  have hvalidated : built.validatedBy = last.validatedBy := by rw [hrest]
  have hgoverned : built.governedBy = last.governedBy := by rw [hrest]
  have hevidence : built.evidenceRefs = last.evidenceRefs := by rw [hrest]
  constructor
  · intro h d hd hid
    have hd := h.ofDeclared d hd hid
    simpa [AggregateCapabilities.merged, List.subset_def, mem_union_singleton, himpl, hexposed,
      hvalidated, hgoverned, hevidence] using hd
  · intro h
    refine ⟨fun d hd hid => ?_, fun a ha hlists => ?_, fun hnone => ?_⟩
    · have hd := h d hd hid
      simpa [AggregateCapabilities.merged, List.subset_def, mem_union_singleton, himpl, hexposed,
        hvalidated, hgoverned, hevidence] using hd
    · refine (mem_union_singleton _ _ _).2 ((himpl _).2 (Or.inr ?_))
      exact (mem_artifactImplementers artifacts capabilityId).2 ⟨a, ha, hlists, rfl⟩
    · exact absurd (lastDeclared_some hlast).2 (hnone last (lastDeclared_some hlast).1)

/-- Without a declared record, only the first listing repository is kept. -/
theorem holdsLineage_listed {built : CapabilityRecord}
    (hlast : lastDeclared declared capabilityId = none)
    (hbuilt : builtCapability repositories artifacts declared capabilityId = some built) :
    HoldsLineage repositories artifacts declared capabilityId
        (AggregateCapabilities.merged built [built]) ↔
      ∀ first ∈ firstListing repositories capabilityId, ∀ r ∈ repositories,
        capabilityId ∈ r.capabilityIds → r.repositoryId = first.repositoryId ∨
          r.repositoryId ∈ artifactImplementers artifacts capabilityId := by
  have hnone := lastDeclared_none hlast
  have himpl : ∀ x, x ∈ built.implementedBy ↔
      (∃ first ∈ firstListing repositories capabilityId, x = first.repositoryId) ∨
        x ∈ artifactImplementers artifacts capabilityId := by
    intro x
    rw [mem_implementedBy_built repositories artifacts declared capabilityId hbuilt]
    simp [baseCapability, hlast, repositoryCapability]
  constructor
  · intro h first hfirst r hr hlists
    have hheld := (mem_union_singleton _ _ _).1 (h.ofRepositories hnone r hr hlists)
    rcases (himpl _).1 hheld with ⟨first', hfirst', heq⟩ | hartifact
    · rw [Option.mem_unique hfirst hfirst']
      exact Or.inl heq
    · exact Or.inr hartifact
  · intro h
    refine ⟨fun d hd hid => absurd hid (hnone d hd), fun a ha hlists => ?_,
      fun _ r hr hlists => ?_⟩
    · refine (mem_union_singleton _ _ _).2 ((himpl _).2 (Or.inr ?_))
      exact (mem_artifactImplementers artifacts capabilityId).2 ⟨a, ha, hlists, rfl⟩
    · have hsome : (firstListing repositories capabilityId).isSome := by
        rw [firstListing, List.find?_isSome]
        exact ⟨r, hr, by simpa using hlists⟩
      obtain ⟨first, hfirst⟩ := Option.isSome_iff_exists.1 hsome
      refine (mem_union_singleton _ _ _).2 ((himpl _).2 ?_)
      rcases h first hfirst r hr hlists with heq | hartifact
      · exact Or.inl ⟨first, hfirst, heq⟩
      · exact Or.inr hartifact

/-- All records describe the id as the last one does. -/
theorem not_describedTwice_iff {last : CapabilityRecord}
    (hlast : lastDeclared declared capabilityId = some last) :
    ¬ DescribedTwice declared capabilityId ↔
      ∀ d ∈ declared, d.capabilityId = capabilityId → d.description = last.description := by
  obtain ⟨hmem, hid⟩ := lastDeclared_some hlast
  constructor
  · intro h d hd hdid
    by_contra hne
    exact h ⟨d, hd, last, hmem, hdid, hid, hne⟩
  · rintro h ⟨d, hd, d', hd', hdid, hdid', hne⟩
    exact hne ((h d hd hdid).trans (h d' hd' hdid').symm)

/-- The one record the two stages give an id holds its lineage exactly if the built one does. -/
theorem holdsLineage_compiled_iff (c : Codec) (repositories : List RepositoryRecord)
    (artifacts : List ArtifactRecord) (declared : List CapabilityRecord) (capabilityId : String) :
    (∀ record ∈ (compileCapabilities c repositories artifacts declared).1,
      record.capabilityId = capabilityId →
        HoldsLineage repositories artifacts declared capabilityId record) ↔
      ∀ built, builtCapability repositories artifacts declared capabilityId = some built →
        HoldsLineage repositories artifacts declared capabilityId
          (AggregateCapabilities.merged built [built]) := by
  constructor
  · intro h built hbuilt
    obtain ⟨hmem, hid⟩ := mem_compileCapabilities (c := c).2 ⟨built, hbuilt, rfl⟩
    exact h _ hmem hid
  · intro h record hmem hid
    obtain ⟨built, hbuilt, rfl⟩ := mem_compileCapabilities.1 ⟨hmem, hid⟩
    exact h built hbuilt

/-- No conflict is ever reported, so what conserves the lineage of an id is the built record, and
    that no two declared records describe the id differently. -/
theorem lineageConserved_iff_built (c : Codec) (repositories : List RepositoryRecord)
    (artifacts : List ArtifactRecord) (declared : List CapabilityRecord) (capabilityId : String) :
    LineageConserved repositories artifacts declared capabilityId
        (compileCapabilities c repositories artifacts declared) ↔
      (∀ built, builtCapability repositories artifacts declared capabilityId = some built →
        HoldsLineage repositories artifacts declared capabilityId
          (AggregateCapabilities.merged built [built])) ∧
      ¬ DescribedTwice declared capabilityId := by
  have hconflicts : (compileCapabilities c repositories artifacts declared).2 = [] :=
    AggregateCapabilities.no_conflict_of_distinct
      (buildCapabilities_nodup repositories artifacts declared)
  have hheld := holdsLineage_compiled_iff c repositories artifacts declared capabilityId
  constructor
  · intro h
    refine ⟨hheld.1 h.held, fun htwice => ?_⟩
    obtain ⟨conflict, hmem, -⟩ := h.conflict.2 htwice
    simp [hconflicts] at hmem
  · rintro ⟨hlineage, honce⟩
    refine ⟨fun hnamed => ?_, hheld.2 hlineage, ?_⟩
    · obtain ⟨built, hbuilt⟩ := Option.isSome_iff_exists.1
        ((builtCapability_isSome repositories artifacts declared capabilityId).2 hnamed)
      exact ⟨_, mem_compileCapabilities.2 ⟨built, hbuilt, rfl⟩⟩
    · simp [hconflicts, honce]

/-- **Lineage.** The two stages conserve the lineage of an id exactly when its last declared record,
    or without one the first repository that lists it, leaves nothing for the others to add. -/
theorem lineage_conserved_iff (c : Codec) (repositories : List RepositoryRecord)
    (artifacts : List ArtifactRecord) (declared : List CapabilityRecord) (capabilityId : String) :
    LineageConserved repositories artifacts declared capabilityId
        (compileCapabilities c repositories artifacts declared) ↔
      LastSaysAll repositories artifacts declared capabilityId := by
  have hsome := builtCapability_isSome repositories artifacts declared capabilityId
  rw [lineageConserved_iff_built]
  unfold LastSaysAll
  cases hlast : lastDeclared declared capabilityId with
  | some last =>
      obtain ⟨hmem, hid⟩ := lastDeclared_some hlast
      obtain ⟨built, hbuilt⟩ := Option.isSome_iff_exists.1 (hsome.2 (Or.inl ⟨last, hmem, hid⟩))
      have hone := holdsLineage_declared hlast hbuilt
      simp only [hbuilt, Option.some.injEq, forall_eq', hone, not_describedTwice_iff hlast]
      constructor
      · rintro ⟨hfields, hdescription⟩ d hd hdid
        obtain ⟨h₁, h₂, h₃, h₄, h₅⟩ := hfields d hd hdid
        exact ⟨h₁, h₂, h₃, h₄, h₅, hdescription d hd hdid⟩
      · intro h
        refine ⟨fun d hd hdid => ?_, fun d hd hdid => (h d hd hdid).2.2.2.2.2⟩
        obtain ⟨h₁, h₂, h₃, h₄, h₅, -⟩ := h d hd hdid
        exact ⟨h₁, h₂, h₃, h₄, h₅⟩
  | none =>
      have honce : ¬ DescribedTwice declared capabilityId := by
        rintro ⟨d, hd, -, -, hdid, -⟩
        exact lastDeclared_none hlast d hd hdid
      simp only [honce, not_false_eq_true, and_true]
      constructor
      · intro h first hfirst
        have hnamed : Named repositories artifacts declared capabilityId :=
          Or.inr (Or.inl ⟨first, List.mem_of_find?_eq_some hfirst,
            by simpa using List.find?_some hfirst⟩)
        obtain ⟨built, hbuilt⟩ := Option.isSome_iff_exists.1 (hsome.2 hnamed)
        exact (holdsLineage_listed hlast hbuilt).1 (h built hbuilt) first hfirst
      · exact fun h built hbuilt => (holdsLineage_listed hlast hbuilt).2 h

end LineageProof

/-! ## Two declared records -/

/-- The same id, declared twice with different descriptions, implementers and evidence. -/
def declaredTwice : List CapabilityRecord :=
  [{ capabilityId := "capability:search", name := "search", description := "Full text search.",
     implementedBy := ["repository:index"], evidenceRefs := ["evidence:index"] },
   { capabilityId := "capability:search", name := "search", description := "Vector search.",
     implementedBy := ["repository:vectors"], evidenceRefs := ["evidence:vectors"] }]

/-- The first record is lost and no conflict is reported. -/
theorem lineage_not_conserved :
    ¬ ∀ (c : Codec) (repositories : List RepositoryRecord) (artifacts : List ArtifactRecord)
      (declared : List CapabilityRecord) (capabilityId : String),
      LineageConserved repositories artifacts declared capabilityId
        (compileCapabilities c repositories artifacts declared) := by
  intro h
  have hconserved := h textCodec [] [] declaredTwice "capability:search"
  have htwice : DescribedTwice declaredTwice "capability:search" :=
    ⟨_, List.mem_cons_self, _, List.mem_cons_of_mem _ List.mem_cons_self, rfl, rfl, by decide⟩
  obtain ⟨conflict, hmem, -⟩ := hconserved.conflict.2 htwice
  have hnone : (compileCapabilities textCodec [] [] declaredTwice).2 = [] :=
    AggregateCapabilities.no_conflict_of_distinct (buildCapabilities_nodup [] [] declaredTwice)
  simp [hnone] at hmem

end ConstellationTopology
