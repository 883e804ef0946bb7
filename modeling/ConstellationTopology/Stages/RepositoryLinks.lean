import ConstellationTopology.Library.JsonText
import ConstellationTopology.Stages.AggregateRepositories

set_option autoImplicit false

/-! # What the links between repositories say

The stage keeps the upstreams that a record declares and adds those that its dependencies name, but
it builds the downstreams from the latter alone, and from nothing when it runs again
(`run_links_iff`). -/

namespace ConstellationTopology

namespace AggregateRepositories

/-- The records that the stage returns. -/
def links (lower : String → String) (records : List RepositoryRecord) : List RepositoryRecord :=
  (mergedRecords records).map (resolved lower (mergedRecords records))

theorem run_fst (c : Codec) (lower repr : String → String) (records : List RepositoryRecord) :
    (run c lower repr records).1 = links lower records := rfl

variable {lower : String → String} {records : List RepositoryRecord}

theorem mem_links {record : RepositoryRecord} : record ∈ links lower records ↔
    ∃ entry ∈ mergedRecords records, resolved lower (mergedRecords records) entry = record :=
  List.mem_map

/-! ## Resolving -/

variable (lower) in
/-- The record stands under a key of the name table. -/
def KeyOf (record : RepositoryRecord) (key : String) : Prop :=
  lower record.name = key ∨ lower (removeMarker "repo:" record.repositoryId) = key

/-- The name table holds ids of the repositories that stand under the key. -/
theorem foundTarget_mem {merged : List RepositoryRecord} {key target : String}
    (h : foundTarget lower merged key = some target) :
    target ≠ "" ∧ ∃ record ∈ merged, record.repositoryId = target ∧ KeyOf lower record key := by
  obtain ⟨hfound, hne⟩ := Option.filter_eq_some_iff.1 h
  obtain ⟨row, hrow, rfl⟩ := Option.map_eq_some_iff.1 hfound
  obtain ⟨hmem, hkey⟩ := Table.mem_of_lookup_ofRows hrow
  obtain ⟨record, hrecord, hin⟩ := List.mem_flatMap.1 hmem
  refine ⟨by simpa using hne, record, hrecord, ?_⟩
  rcases List.mem_cons.1 hin with rfl | hin
  · exact ⟨rfl, Or.inl hkey⟩
  · rw [List.mem_singleton.1 hin] at hkey ⊢
    exact ⟨rfl, Or.inr hkey⟩

/-- Where all repositories under a key have one id, it is the one found. -/
theorem foundTarget_of_key {merged : List RepositoryRecord} {key target : String}
    {record : RepositoryRecord} (hrecord : record ∈ merged) (hkey : KeyOf lower record key)
    (hids : ∀ other ∈ merged, KeyOf lower other key → other.repositoryId = target)
    (hne : target ≠ "") : foundTarget lower merged key = some target := by
  have hrow : (nameLookup lower merged).lookup key ≠ none := by
    rw [nameLookup, Ne, Table.lookup_ofRows_eq_none_iff, not_not, List.map_flatMap,
      List.mem_flatMap]
    refine ⟨record, hrecord, ?_⟩
    rcases hkey with rfl | rfl
    · exact List.mem_cons_self
    · exact List.mem_cons_of_mem _ List.mem_cons_self
  obtain ⟨row, hrow⟩ := Option.ne_none_iff_exists'.1 hrow
  obtain ⟨hmem, hfst⟩ := Table.mem_of_lookup_ofRows hrow
  obtain ⟨other, hother, hin⟩ := List.mem_flatMap.1 hmem
  have htarget : row.2 = target := by
    rcases List.mem_cons.1 hin with rfl | hin
    · exact hids other hother (Or.inl hfst)
    · rw [List.mem_singleton.1 hin] at hfst ⊢
      exact hids other hother (Or.inr hfst)
  rw [foundTarget, hrow, Option.map_some, htarget]
  simp [hne]

/-- The target of a dependency is a repository, and another one. -/
theorem resolveDependency_mem {merged : List RepositoryRecord} {record : RepositoryRecord}
    {dependency target : String}
    (h : resolveDependency lower merged record dependency = some target) :
    target ≠ "" ∧ target ≠ record.repositoryId ∧ ∃ other ∈ merged, other.repositoryId = target ∧
      (KeyOf lower other (replaceChar '_' '-' (lower dependency)) ∨
        KeyOf lower other (lower dependency)) := by
  obtain ⟨hfound, hne⟩ := Option.filter_eq_some_iff.1 h
  have hother : target ≠ record.repositoryId := by simpa using hne
  rcases Option.or_eq_some_iff.1 hfound with hfound | ⟨_, hfound⟩
  · obtain ⟨hempty, other, hmem, hid, hkey⟩ := foundTarget_mem hfound
    exact ⟨hempty, hother, other, hmem, hid, Or.inl hkey⟩
  · obtain ⟨hempty, other, hmem, hid, hkey⟩ := foundTarget_mem hfound
    exact ⟨hempty, hother, other, hmem, hid, Or.inr hkey⟩

theorem mem_resolvedTargets {merged : List RepositoryRecord} {record : RepositoryRecord}
    {target : String} : target ∈ resolvedTargets lower merged record ↔
      ∃ dependency ∈ record.unresolvedDependencies,
        resolveDependency lower merged record dependency = some target :=
  List.mem_filterMap

/-! ## Running again -/

/-- The set-valued fields of a record are sorted sets. -/
structure Canonical (record : RepositoryRecord) : Prop where
  secondaryRoles : sortedSet record.secondaryRoles = record.secondaryRoles
  languages : sortedSet record.languages = record.languages
  packageManagers : sortedSet record.packageManagers = record.packageManagers
  entrypoints : sortedSet record.entrypoints = record.entrypoints
  workflows : sortedSet record.workflows = record.workflows
  adrRefs : sortedSet record.adrRefs = record.adrRefs
  governanceRefs : sortedSet record.governanceRefs = record.governanceRefs
  capabilityIds : sortedSet record.capabilityIds = record.capabilityIds
  artifactIds : sortedSet record.artifactIds = record.artifactIds
  upstreamRepositoryIds : sortedSet record.upstreamRepositoryIds = record.upstreamRepositoryIds
  downstreamRepositoryIds :
    sortedSet record.downstreamRepositoryIds = record.downstreamRepositoryIds
  unresolvedDependencies : sortedSet record.unresolvedDependencies = record.unresolvedDependencies
  ownerIds : sortedSet record.ownerIds = record.ownerIds
  evidenceRefs : sortedSet record.evidenceRefs = record.evidenceRefs

/-- A canonical record merged alone is itself. -/
theorem Canonical.merged_singleton {record : RepositoryRecord} (h : Canonical record) :
    merged record [record] = record := by
  simp only [merged, union, List.flatMap_cons, List.flatMap_nil, List.append_nil, h.secondaryRoles,
    h.languages, h.packageManagers, h.entrypoints, h.workflows, h.adrRefs, h.governanceRefs,
    h.capabilityIds, h.artifactIds, h.upstreamRepositoryIds, h.downstreamRepositoryIds,
    h.unresolvedDependencies, h.ownerIds, h.evidenceRefs]

theorem merged_canonical (first : RepositoryRecord) (group : List RepositoryRecord) :
    Canonical (merged first group) := by
  constructor <;> exact sortedSet_idem _

/-- Records in the order of their ids, each canonical, are merged already. -/
theorem mergedRecords_of_canonical {links : List RepositoryRecord}
    (hids : sortedSet (links.map RepositoryRecord.repositoryId) =
      links.map RepositoryRecord.repositoryId) (hcanonical : ∀ record ∈ links, Canonical record) :
    mergedRecords links = links := by
  have hnodup : (links.map RepositoryRecord.repositoryId).Nodup := hids ▸ sortedSet_nodup _
  rw [mergedRecords, repositoryIds, hids, List.filterMap_map]
  refine (List.filterMap_congr fun record hrecord => ?_).trans List.filterMap_some
  have hgroup : groupOf RepositoryRecord.repositoryId record.repositoryId links = [record] :=
    groupOf_of_nodup hnodup hrecord
  simp [hgroup, (hcanonical record hrecord).merged_singleton]

/-- The records that the stage returns are canonical. -/
theorem links_canonical : ∀ record ∈ links lower records, Canonical record := by
  intro record hrecord
  obtain ⟨entry, hentry, rfl⟩ := mem_links.1 hrecord
  obtain ⟨first, -, heq⟩ := exists_of_mem_mergedRecords hentry
  have hcanonical : Canonical entry := heq ▸ merged_canonical _ _
  exact { hcanonical with
    upstreamRepositoryIds := sortedSet_idem _
    downstreamRepositoryIds := sortedSet_idem _
    unresolvedDependencies := by
      have hnodup := unresolved_nodup hentry lower (mergedRecords records)
      have hsorted := sortedBy_id_of_nodup hnodup
      simp only [resolved, hsorted, sortedSet_idem] }

theorem links_ids : (links lower records).map RepositoryRecord.repositoryId =
    repositoryIds records := by
  rw [links, List.map_map]
  exact mergedRecords_ids records

theorem mergedRecords_links : mergedRecords (links lower records) = links lower records := by
  refine mergedRecords_of_canonical ?_ links_canonical
  rw [links_ids]
  exact sortedSet_idem _

/-- The table of the returned records is that of the merged ones. -/
theorem resolveDependency_links (entry record : RepositoryRecord) (dependency : String)
    (h : record.repositoryId = entry.repositoryId) :
    resolveDependency lower (links lower records) record dependency =
      resolveDependency lower (mergedRecords records) entry dependency := by
  have htable : nameLookup lower (links lower records) =
      nameLookup lower (mergedRecords records) := by
    rw [nameLookup, nameLookup, links, List.flatMap_map]
    rfl
  simp only [resolveDependency, foundTarget, htable, h]

/-- What is left unresolved stays unresolved. -/
theorem resolveDependency_left {record : RepositoryRecord} (hrecord : record ∈ links lower records) :
    ∀ dependency ∈ record.unresolvedDependencies,
      resolveDependency lower (links lower records) record dependency = none ∧ dependency ≠ "" := by
  intro dependency hdependency
  obtain ⟨entry, hentry, rfl⟩ := mem_links.1 hrecord
  have hleft : dependency ∈ unresolved lower (mergedRecords records) entry :=
    mem_sortedBy.1 hdependency
  rw [resolveDependency_links entry (resolved lower (mergedRecords records) entry) _ rfl]
  exact by simpa using (List.mem_filter.1 hleft).2

theorem resolvedTargets_links {record : RepositoryRecord} (hrecord : record ∈ links lower records) :
    resolvedTargets lower (links lower records) record = [] := by
  refine List.filterMap_eq_nil_iff.2 fun dependency hdependency => ?_
  exact (resolveDependency_left hrecord dependency hdependency).1

/-- Running again clears the downstreams and changes nothing else. -/
theorem links_links : links lower (links lower records) =
    (links lower records).map fun record => { record with downstreamRepositoryIds := [] } := by
  rw [links, mergedRecords_links]
  refine List.map_congr_left fun record hrecord => ?_
  have hcanonical := links_canonical record hrecord
  have hunresolved : unresolved lower (links lower records) record =
      record.unresolvedDependencies := by
    refine List.filter_eq_self.2 fun dependency hdependency => ?_
    simpa using resolveDependency_left hrecord dependency hdependency
  have hnodup : record.unresolvedDependencies.Nodup :=
    hcanonical.unresolvedDependencies ▸ sortedSet_nodup _
  have hdownstream : downstream lower (links lower records) record.repositoryId = [] := by
    rw [downstream, List.map_eq_nil_iff, List.filter_eq_nil_iff]
    intro other hother
    simp [resolvedTargets_links hother]
  simp only [resolved, resolvedTargets_links hrecord, List.append_nil,
    hcanonical.upstreamRepositoryIds, hunresolved, sortedBy_id_of_nodup hnodup,
    hcanonical.unresolvedDependencies, hdownstream]
  rfl

/-! ## Symmetry -/

/-- A repository is downstream of those it is upstream from, among the returned records. -/
def Symmetric (links : List RepositoryRecord) : Prop :=
  ∀ record ∈ links, ∀ other ∈ links,
    record.repositoryId ∈ other.downstreamRepositoryIds ↔
      other.repositoryId ∈ record.upstreamRepositoryIds

variable (lower) in
/-- No record names another repository of the input as a dependency, and none declares one of them
    as its upstream. -/
structure Unlinked (records : List RepositoryRecord) : Prop where
  named : ∀ record ∈ records, ∀ dependency ∈ record.unresolvedDependencies,
    resolveDependency lower (mergedRecords records) record dependency = none
  declared : ∀ record ∈ records, ∀ other ∈ records,
    other.repositoryId ∉ record.upstreamRepositoryIds

/-- The records of a repository are merged into one. -/
theorem exists_merged_of_mem {record : RepositoryRecord} (h : record ∈ records) :
    ∃ entry ∈ mergedRecords records, entry.repositoryId = record.repositoryId := by
  have hid : record.repositoryId ∈
      (mergedRecords records).map RepositoryRecord.repositoryId := by
    rw [mergedRecords_ids]
    exact mem_sortedSet.2 (List.mem_map_of_mem h)
  exact List.mem_map.1 hid

/-- What a merged record has in a set-valued field comes from a record of the repository. -/
theorem mem_union {field : RepositoryRecord → List String} {group : List RepositoryRecord}
    {value : String} : value ∈ union field group ↔ ∃ record ∈ group, value ∈ field record := by
  rw [union, mem_sortedSet, List.mem_flatMap]

/-- A field that merging unites is gathered from the records of the repository. -/
theorem mem_merged_field {field : RepositoryRecord → List String}
    (hfield : ∀ first group, field (merged first group) = union field group)
    {entry : RepositoryRecord} (h : entry ∈ mergedRecords records) {value : String} :
    value ∈ field entry ↔
      ∃ record ∈ records, record.repositoryId = entry.repositoryId ∧ value ∈ field record := by
  obtain ⟨first, -, heq⟩ := exists_of_mem_mergedRecords h
  rw [heq, hfield, mem_union, ← heq]
  simp only [mem_groupOf, and_assoc]

theorem mem_merged_upstream {entry : RepositoryRecord} (h : entry ∈ mergedRecords records)
    {id : String} : id ∈ entry.upstreamRepositoryIds ↔
      ∃ record ∈ records, record.repositoryId = entry.repositoryId ∧
        id ∈ record.upstreamRepositoryIds :=
  mem_merged_field (fun _ _ => rfl) h

theorem mem_merged_dependencies {entry : RepositoryRecord} (h : entry ∈ mergedRecords records)
    {dependency : String} : dependency ∈ entry.unresolvedDependencies ↔
      ∃ record ∈ records, record.repositoryId = entry.repositoryId ∧
        dependency ∈ record.unresolvedDependencies :=
  mem_merged_field (fun _ _ => rfl) h

/-- A record resolves a name as the merged record of its repository does. -/
theorem resolveDependency_of_id {merged : List RepositoryRecord} {record entry : RepositoryRecord}
    (h : record.repositoryId = entry.repositoryId) (dependency : String) :
    resolveDependency lower merged record dependency =
      resolveDependency lower merged entry dependency := by
  simp only [resolveDependency, h]

theorem named_iff : (∀ record ∈ records, ∀ dependency ∈ record.unresolvedDependencies,
    resolveDependency lower (mergedRecords records) record dependency = none) ↔
      ∀ entry ∈ mergedRecords records,
        resolvedTargets lower (mergedRecords records) entry = [] := by
  simp only [resolvedTargets, List.filterMap_eq_nil_iff]
  constructor
  · intro h entry hentry dependency hdependency
    obtain ⟨record, hrecord, hid, hin⟩ := (mem_merged_dependencies hentry).1 hdependency
    rw [← resolveDependency_of_id hid]
    exact h record hrecord dependency hin
  · intro h record hrecord dependency hdependency
    obtain ⟨entry, hentry, hid⟩ := exists_merged_of_mem hrecord
    rw [resolveDependency_of_id hid.symm]
    exact h entry hentry dependency
      ((mem_merged_dependencies hentry).2 ⟨record, hrecord, hid.symm, hdependency⟩)

/-- The downstreams of the returned records are empty exactly when no dependency resolves. -/
theorem downstreams_nil_iff : (∀ record ∈ links lower records,
    record.downstreamRepositoryIds = []) ↔
      ∀ entry ∈ mergedRecords records,
        resolvedTargets lower (mergedRecords records) entry = [] := by
  constructor
  · intro h entry hentry
    by_contra hne
    obtain ⟨target, htarget⟩ := List.exists_mem_of_ne_nil _ hne
    obtain ⟨dependency, -, hresolve⟩ := mem_resolvedTargets.1 htarget
    obtain ⟨-, -, other, hother, hid, -⟩ := resolveDependency_mem hresolve
    have hnil := h _ (mem_links.2 ⟨other, hother, rfl⟩)
    have hin : entry.repositoryId ∈ downstream lower (mergedRecords records)
        other.repositoryId := by
      refine List.mem_map_of_mem (List.mem_filter.2 ⟨hentry, ?_⟩)
      simpa [hid] using htarget
    rw [resolved, sortedSet_eq_nil_iff] at hnil
    rw [hnil] at hin
    cases hin
  · intro h record hrecord
    obtain ⟨entry, hentry, rfl⟩ := mem_links.1 hrecord
    rw [resolved, sortedSet_eq_nil_iff, downstream, List.map_eq_nil_iff, List.filter_eq_nil_iff]
    intro other hother
    simp [h other hother]

/-- Running again changes nothing exactly when there is no downstream to clear. -/
theorem links_links_eq_iff : links lower (links lower records) = links lower records ↔
    ∀ record ∈ links lower records, record.downstreamRepositoryIds = [] := by
  rw [links_links]
  conv_lhs =>
    rhs
    rw [← List.map_id (links lower records)]
  rw [List.map_inj_left]
  refine forall₂_congr fun record _ => ?_
  constructor
  · intro h
    exact (congrArg RepositoryRecord.downstreamRepositoryIds h).symm
  · intro h
    rw [← h]
    rfl

/-- **Links.** The links are symmetric and the stage changes nothing on its own output exactly when
    there are no links among the repositories of the input. -/
theorem run_links_iff (c : Codec) (lower repr : String → String)
    (records : List RepositoryRecord) :
    Symmetric (run c lower repr records).1 ∧
        (run c lower repr (run c lower repr records).1).1 = (run c lower repr records).1 ↔
      Unlinked lower records := by
  rw [run_fst, run_fst, links_links_eq_iff]
  constructor
  · rintro ⟨hsymmetric, hnil⟩
    refine ⟨named_iff.2 (downstreams_nil_iff.1 hnil), ?_⟩
    intro record hrecord other hother hin
    obtain ⟨entry, hentry, hid⟩ := exists_merged_of_mem hrecord
    obtain ⟨entry', hentry', hid'⟩ := exists_merged_of_mem hother
    have hlink : other.repositoryId ∈
        (resolved lower (mergedRecords records) entry).upstreamRepositoryIds := by
      refine mem_sortedSet.2 (List.mem_append_left _ ?_)
      exact (mem_merged_upstream hentry).2 ⟨record, hrecord, hid.symm, hin⟩
    have hback := (hsymmetric _ (mem_links.2 ⟨entry, hentry, rfl⟩) _
      (mem_links.2 ⟨entry', hentry', rfl⟩)).2 (hid' ▸ hlink)
    rw [hnil _ (mem_links.2 ⟨entry', hentry', rfl⟩)] at hback
    cases hback
  · intro hunlinked
    have htargets := named_iff.1 hunlinked.named
    have hnil := downstreams_nil_iff.2 htargets
    refine ⟨?_, hnil⟩
    intro record hrecord other hother
    rw [hnil other hother]
    refine iff_of_false (by simp) ?_
    obtain ⟨entry, hentry, rfl⟩ := mem_links.1 hrecord
    obtain ⟨entry', hentry', rfl⟩ := mem_links.1 hother
    intro hin
    rcases List.mem_append.1 (mem_sortedSet.1 hin) with hin | hin
    · obtain ⟨declaring, hdeclaring, -, hupstream⟩ := (mem_merged_upstream hentry).1 hin
      obtain ⟨first, hfirst, -⟩ := exists_of_mem_mergedRecords hentry'
      obtain ⟨hmem, hid⟩ := mem_groupOf.1 hfirst
      exact hunlinked.declared declaring hdeclaring first hmem (hid ▸ hupstream)
    · rw [htargets entry hentry] at hin
      cases hin

/-- A repository with one dependency. -/
def dependentRepository (dependency : String) : RepositoryRecord where
  repositoryId := "repo:app"
  name := "app"
  sourceRevision := "r1"
  packetRef := "packet:1"
  unresolvedDependencies := [dependency]

/-- A repository that others name. -/
def namedRepository (name : String) : RepositoryRecord where
  repositoryId := "repo:" ++ name
  name := name
  sourceRevision := "r1"
  packetRef := "packet:2"

/-- The first run links the two repositories, and the second clears the downstream. -/
theorem links_not_kept :
    ¬ (Symmetric (run textCodec lowerAscii id
          [dependentRepository "lib", namedRepository "lib"]).1 ∧
        (run textCodec lowerAscii id (run textCodec lowerAscii id
            [dependentRepository "lib", namedRepository "lib"]).1).1 =
          (run textCodec lowerAscii id [dependentRepository "lib", namedRepository "lib"]).1) := by
  rintro ⟨_, hagain⟩
  rw [run_fst, run_fst] at hagain
  have hcleared : links lowerAscii (links lowerAscii
      [dependentRepository "lib", namedRepository "lib"]) ≠
        links lowerAscii [dependentRepository "lib", namedRepository "lib"] := by
    decide +kernel
  exact hcleared hagain

/-! ## Names -/

section Names

variable (lower)

/-- A name up to case and `-`/`_`. -/
def foldName (name : String) : String := replaceChar '_' '-' (lower name)

/-- The name or the id suffix of a repository. -/
def IsNameOf (name : String) (record : RepositoryRecord) : Prop :=
  name = record.name ∨ name = removeMarker "repo:" record.repositoryId

/-- The dependency equals the name or the id suffix of the repository, up to case and `-`/`_`. -/
def Names (dependency : String) (record : RepositoryRecord) : Prop :=
  ∃ name, IsNameOf name record ∧ foldName lower dependency = foldName lower name

/-- No two repositories share a name or an id suffix, up to case and `-`/`_`. -/
def DistinctNames (merged : List RepositoryRecord) : Prop :=
  ∀ record ∈ merged, ∀ other ∈ merged, record.repositoryId ≠ other.repositoryId →
    ∀ name name', IsNameOf name record → IsNameOf name' other →
      foldName lower name ≠ foldName lower name'

/-- The name or the id suffix in lower case is one of the two keys that are looked up. -/
def Spelled (dependency : String) (record : RepositoryRecord) : Prop :=
  record.repositoryId ≠ "" ∧ (KeyOf lower record (foldName lower dependency) ∨
    KeyOf lower record (lower dependency))

variable {lower}

theorem keyOf_iff {record : RepositoryRecord} {key : String} :
    KeyOf lower record key ↔ ∃ name, IsNameOf name record ∧ lower name = key := by
  unfold KeyOf IsNameOf
  constructor
  · intro h
    rcases h with h | h
    · exact ⟨_, Or.inl rfl, h⟩
    · exact ⟨_, Or.inr rfl, h⟩
  · rintro ⟨name, hname, hkey⟩
    rcases hname with rfl | rfl
    · exact Or.inl hkey
    · exact Or.inr hkey

theorem replaceChar_idem (text : String) :
    replaceChar '_' '-' (replaceChar '_' '-' text) = replaceChar '_' '-' text :=
  replaceChar_of_notMem (notMem_replaceChar (by decide) text)

/-- A repository that stands under one of the two keys is named by the dependency. -/
theorem names_of_key {dependency : String} {record : RepositoryRecord}
    (h : KeyOf lower record (foldName lower dependency) ∨ KeyOf lower record (lower dependency)) :
    Names lower dependency record := by
  rcases h with h | h
  · obtain ⟨name, hname, hkey⟩ := keyOf_iff.1 h
    refine ⟨name, hname, ?_⟩
    have hfold : foldName lower name = replaceChar '_' '-' (foldName lower dependency) := by
      rw [foldName, hkey]
    rw [hfold, foldName, replaceChar_idem]
  · obtain ⟨name, hname, hkey⟩ := keyOf_iff.1 h
    refine ⟨name, hname, ?_⟩
    rw [foldName, foldName, hkey]

/-- A dependency names one repository at most. -/
theorem repositoryId_eq_of_names {merged : List RepositoryRecord}
    (hdistinct : DistinctNames lower merged) {record other : RepositoryRecord}
    (hrecord : record ∈ merged) (hother : other ∈ merged) {dependency : String}
    (h : Names lower dependency record) (h' : Names lower dependency other) :
    record.repositoryId = other.repositoryId := by
  obtain ⟨name, hname, hfold⟩ := h
  obtain ⟨name', hname', hfold'⟩ := h'
  by_contra hne
  exact hdistinct record hrecord other hother hne name name' hname hname'
    (hfold.symm.trans hfold')

/-- A dependency resolves to the other repository that it names, where the spelling is one of those
    looked up. -/
theorem resolveDependency_iff {merged : List RepositoryRecord}
    (hdistinct : DistinctNames lower merged) {record : RepositoryRecord}
    {dependency target : String} :
    resolveDependency lower merged record dependency = some target ↔
      ∃ other ∈ merged, other.repositoryId = target ∧ other.repositoryId ≠ record.repositoryId ∧
        Names lower dependency other ∧ Spelled lower dependency other := by
  constructor
  · intro h
    obtain ⟨hempty, hne, other, hother, rfl, hkey⟩ := resolveDependency_mem h
    exact ⟨other, hother, rfl, hne, names_of_key hkey, hempty, hkey⟩
  · rintro ⟨other, hother, hid, hne, hnames, hempty, hkey⟩
    subst hid
    have hids : ∀ key, (key = foldName lower dependency ∨ key = lower dependency) →
        ∀ entry ∈ merged, KeyOf lower entry key → entry.repositoryId = other.repositoryId := by
      intro key hkind entry hentry hentryKey
      refine repositoryId_eq_of_names hdistinct hentry hother (names_of_key ?_) hnames
      rcases hkind with rfl | rfl
      · exact Or.inl hentryKey
      · exact Or.inr hentryKey
    have hfound : (foundTarget lower merged (foldName lower dependency)).or
        (foundTarget lower merged (lower dependency)) = some other.repositoryId := by
      rcases hkey with hkey | hkey
      · rw [foundTarget_of_key hother hkey (hids _ (Or.inl rfl)) hempty, Option.some_or]
      · have hsecond := foundTarget_of_key hother hkey (hids _ (Or.inr rfl)) hempty
        cases hfirst : foundTarget lower merged (foldName lower dependency) with
        | none => rw [Option.none_or, hsecond]
        | some target =>
            obtain ⟨_, entry, hentry, rfl, hentryKey⟩ := foundTarget_mem hfirst
            rw [Option.some_or, hids _ (Or.inl rfl) entry hentry hentryKey]
    rw [resolveDependency, show replaceChar '_' '-' (lower dependency) = foldName lower dependency
      from rfl, hfound]
    simp [Option.filter, hne]

/-- How many unknowns are about a dependency of a repository. -/
def unknownsAbout (repr : String → String) (unknowns : List UnknownRecord)
    (repositoryId dependency : String) : ℕ :=
  unknowns.countP fun unknown => unknown.subjectId = repositoryId ∧
    unknown.reason = "dependency " ++ repr dependency ++ " does not resolve to an input repository"

/-- There is one for a dependency that stays unresolved. -/
theorem unknownsAbout_eq (c : Codec) {repr : String → String} (hrepr : Function.Injective repr)
    {entry : RepositoryRecord} (hentry : entry ∈ mergedRecords records) (dependency : String) :
    unknownsAbout repr (unknowns c lower repr records) entry.repositoryId dependency =
      (unresolved lower (mergedRecords records) entry).count dependency := by
  have hcount : ∀ record ∈ mergedRecords records,
      ((unresolved lower (mergedRecords records) record).map
        (dependencyUnknown c repr record)).filter (fun unknown =>
          unknown.subjectId = entry.repositoryId ∧ unknown.reason =
            "dependency " ++ repr dependency ++ " does not resolve to an input repository") =
      if record.repositoryId = entry.repositoryId then
        ((unresolved lower (mergedRecords records) record).filter (· == dependency)).map
          (dependencyUnknown c repr record)
      else [] := by
    intro record _
    rw [List.filter_map]
    by_cases hid : record.repositoryId = entry.repositoryId
    · rw [if_pos hid]
      congr 1
      refine List.filter_congr fun name _ => ?_
      rw [Function.comp_apply, Bool.eq_iff_iff]
      simp [dependencyUnknown, hid, hrepr.eq_iff]
    · rw [if_neg hid, List.filter_eq_nil_iff.2, List.map_nil]
      simp [dependencyUnknown, hid]
  have hgroup : (unknowns c lower repr records).filter (fun unknown =>
      unknown.subjectId = entry.repositoryId ∧ unknown.reason =
        "dependency " ++ repr dependency ++ " does not resolve to an input repository") =
      ((unresolved lower (mergedRecords records) entry).filter (· == dependency)).map
        (dependencyUnknown c repr entry) := by
    rw [unknowns, List.filter_flatMap, flatMap_of_nodup (mergedRecords_ids_nodup records) hentry]
    · rw [hcount entry hentry, if_pos rfl]
    · intro record hrecord hne
      rw [hcount record hrecord, if_neg hne]
  rw [unknownsAbout, List.countP_eq_length_filter, hgroup, List.length_map,
    List.count, List.countP_eq_length_filter]

variable (lower) in
/-- Every dependency that names another repository has become a link to it, and the others stay
    unresolved with one unknown; there is no other new link. -/
def NamesResolve (repr : String → String) (records : List RepositoryRecord)
    (result : List RepositoryRecord × List ConflictRecord × List UnknownRecord) : Prop :=
  ∀ entry ∈ mergedRecords records, ∀ record ∈ result.1,
    record.repositoryId = entry.repositoryId →
      (∀ dependency ∈ entry.unresolvedDependencies, dependency ≠ "" →
        (∀ other ∈ mergedRecords records, other.repositoryId ≠ entry.repositoryId →
          Names lower dependency other →
            other.repositoryId ∈ record.upstreamRepositoryIds ∧
              dependency ∉ record.unresolvedDependencies ∧
              unknownsAbout repr result.2.2 entry.repositoryId dependency = 0) ∧
        ((∀ other ∈ mergedRecords records, other.repositoryId ≠ entry.repositoryId →
          ¬ Names lower dependency other) →
            dependency ∈ record.unresolvedDependencies ∧
              unknownsAbout repr result.2.2 entry.repositoryId dependency = 1)) ∧
      ∀ id ∈ record.upstreamRepositoryIds, id ∈ entry.upstreamRepositoryIds ∨
        ∃ dependency ∈ entry.unresolvedDependencies, ∃ other ∈ mergedRecords records,
          other.repositoryId = id ∧ other.repositoryId ≠ entry.repositoryId ∧
            Names lower dependency other

theorem mem_unresolved {merged : List RepositoryRecord} {entry : RepositoryRecord}
    {dependency : String} : dependency ∈ unresolved lower merged entry ↔
      dependency ∈ entry.unresolvedDependencies ∧
        resolveDependency lower merged entry dependency = none ∧ dependency ≠ "" := by
  simp [unresolved]

/-- **Names.** Where no two repositories share a name, the names resolve exactly when each is
    spelled as one of the two keys that are looked up. -/
theorem run_names_iff (c : Codec) (lower repr : String → String) (records : List RepositoryRecord)
    (hrepr : Function.Injective repr) (hdistinct : DistinctNames lower (mergedRecords records)) :
    NamesResolve lower repr records (run c lower repr records) ↔
      ∀ entry ∈ mergedRecords records, ∀ dependency ∈ entry.unresolvedDependencies,
        dependency ≠ "" → ∀ other ∈ mergedRecords records,
          other.repositoryId ≠ entry.repositoryId → Names lower dependency other →
            Spelled lower dependency other := by
  constructor
  · intro h entry hentry dependency hdependency hne other hother hid hnames
    by_contra hspelled
    have hnone : resolveDependency lower (mergedRecords records) entry dependency = none := by
      rw [Option.eq_none_iff_forall_ne_some]
      intro target htarget
      obtain ⟨found, hfound, -, -, hfoundNames, hfoundSpelled⟩ :=
        (resolveDependency_iff hdistinct).1 htarget
      have hsame := eq_of_repositoryId_eq hfound hother
        (repositoryId_eq_of_names hdistinct hfound hother hfoundNames hnames)
      exact hspelled (hsame ▸ hfoundSpelled)
    have hlinks : resolved lower (mergedRecords records) entry ∈ links lower records :=
      mem_links.2 ⟨entry, hentry, rfl⟩
    obtain ⟨-, hleft, -⟩ := ((h entry hentry _ hlinks rfl).1 dependency hdependency hne).1
      other hother hid hnames
    exact hleft (mem_sortedBy.2 (mem_unresolved.2 ⟨hdependency, hnone, hne⟩))
  · intro hspelled entry hentry record hrecord hid
    obtain ⟨entry', hentry', rfl⟩ := mem_links.1 hrecord
    have hsame : entry' = entry := eq_of_repositoryId_eq hentry' hentry hid
    subst hsame
    have hnodup := unresolved_nodup hentry lower (mergedRecords records)
    have habout : ∀ dependency, unknownsAbout repr (run c lower repr records).2.2
        entry'.repositoryId dependency =
          (unresolved lower (mergedRecords records) entry').count dependency :=
      unknownsAbout_eq c hrepr hentry
    refine ⟨fun dependency hdependency hne => ⟨?_, ?_⟩, ?_⟩
    · intro other hother hotherId hnames
      have hresolve := (resolveDependency_iff hdistinct).2 ⟨other, hother, rfl, hotherId, hnames,
        hspelled entry' hentry dependency hdependency hne other hother hotherId hnames⟩
      have hleft : dependency ∉ unresolved lower (mergedRecords records) entry' := by
        rw [mem_unresolved, hresolve]
        simp
      refine ⟨?_, fun hin => hleft (mem_sortedBy.1 hin), ?_⟩
      · exact mem_sortedSet.2 (List.mem_append_right _
          (mem_resolvedTargets.2 ⟨dependency, hdependency, hresolve⟩))
      · rw [habout, List.count_eq_zero]
        exact hleft
    · intro hnone
      have hresolve : resolveDependency lower (mergedRecords records) entry' dependency = none := by
        rw [Option.eq_none_iff_forall_ne_some]
        intro target htarget
        obtain ⟨found, hfound, -, hfoundId, hnames, -⟩ := (resolveDependency_iff hdistinct).1 htarget
        exact hnone found hfound hfoundId hnames
      have hleft := mem_unresolved.2 ⟨hdependency, hresolve, hne⟩
      refine ⟨mem_sortedBy.2 hleft, ?_⟩
      rw [habout]
      exact List.count_eq_one_of_mem hnodup hleft
    · intro id hin
      rcases List.mem_append.1 (mem_sortedSet.1 hin) with hin | hin
      · exact Or.inl hin
      · obtain ⟨dependency, hdependency, hresolve⟩ := mem_resolvedTargets.1 hin
        obtain ⟨other, hother, hid, hne, hnames, -⟩ := (resolveDependency_iff hdistinct).1 hresolve
        exact Or.inr ⟨dependency, hdependency, other, hother, hid, hne, hnames⟩

end Names

/-! ## Two spellings of one name -/

/-- `repr` of a text without quotes, backslashes and unprintable characters. -/
def quoted (text : String) : String := "'" ++ text ++ "'"

theorem quoted_injective : Function.Injective quoted := by
  intro text text' h
  have htexts := congrArg String.toList h
  simpa [quoted, String.toList_append, String.toList_inj] using htexts

/-- `app` and `my_lib` have no name in common. -/
theorem distinctNames_app (dependency name : String)
    (hmerged : mergedRecords [dependentRepository dependency, namedRepository name] =
      [dependentRepository dependency, namedRepository name])
    (hsuffix : removeMarker "repo:" ("repo:" ++ name) = name)
    (hfold : foldName lowerAscii name ≠ "app") :
    DistinctNames lowerAscii
      (mergedRecords [dependentRepository dependency, namedRepository name]) := by
  have happ : ∀ text, IsNameOf text (dependentRepository dependency) →
      foldName lowerAscii text = "app" := by
    intro text htext
    have happ : text = "app" := by
      rcases htext with rfl | rfl
      · rfl
      · show removeMarker "repo:" "repo:app" = "app"
        decide +kernel
    rw [happ]
    decide +kernel
  have hname : ∀ text, IsNameOf text (namedRepository name) → text = name := by
    intro text htext
    rcases htext with rfl | rfl
    · rfl
    · exact hsuffix
  rw [hmerged]
  intro record hrecord other hother hne text text' htext htext'
  simp only [List.mem_cons, List.not_mem_nil, or_false] at hrecord hother
  rcases hrecord with rfl | rfl
  · rcases hother with rfl | rfl
    · exact absurd rfl hne
    · rw [happ text htext, hname text' htext']
      exact hfold.symm
  · rcases hother with rfl | rfl
    · rw [happ text' htext', hname text htext]
      exact hfold
    · exact absurd rfl hne

theorem distinctNames_hyphened : DistinctNames lowerAscii
    (mergedRecords [dependentRepository "My_Lib", namedRepository "my-lib"]) :=
  distinctNames_app "My_Lib" "my-lib" (by decide +kernel) (by decide +kernel) (by decide +kernel)

/-- An upper case and underscored dependency resolves to a lower case and hyphened name. -/
theorem run_names_hyphened : NamesResolve lowerAscii quoted
    [dependentRepository "My_Lib", namedRepository "my-lib"]
    (run textCodec lowerAscii quoted [dependentRepository "My_Lib", namedRepository "my-lib"]) := by
  refine (run_names_iff textCodec lowerAscii quoted _ quoted_injective distinctNames_hyphened).2 ?_
  intro entry hentry dependency hdependency _ other hother hne _
  have hmerged : mergedRecords [dependentRepository "My_Lib", namedRepository "my-lib"] =
      [dependentRepository "My_Lib", namedRepository "my-lib"] := by decide +kernel
  rw [hmerged] at hentry hother
  simp only [List.mem_cons, List.not_mem_nil, or_false] at hentry hother
  rcases hentry with rfl | rfl
  · rcases hother with rfl | rfl
    · exact absurd rfl hne
    · have hspelled : dependency = "My_Lib" := List.mem_singleton.1 hdependency
      subst hspelled
      refine ⟨by decide +kernel, Or.inl (Or.inl ?_)⟩
      decide +kernel
  · cases hdependency

/-- A hyphened dependency misses an underscored name. -/
theorem names_unresolved :
    DistinctNames lowerAscii
        (mergedRecords [dependentRepository "my-lib", namedRepository "my_lib"]) ∧
      ¬ NamesResolve lowerAscii quoted [dependentRepository "my-lib", namedRepository "my_lib"]
        (run textCodec lowerAscii quoted
          [dependentRepository "my-lib", namedRepository "my_lib"]) := by
  refine ⟨distinctNames_app "my-lib" "my_lib" (by decide +kernel) (by decide +kernel)
    (by decide +kernel), ?_⟩
  intro h
  have hmerged : mergedRecords [dependentRepository "my-lib", namedRepository "my_lib"] =
      [dependentRepository "my-lib", namedRepository "my_lib"] := by decide +kernel
  have hentry : dependentRepository "my-lib" ∈
      mergedRecords [dependentRepository "my-lib", namedRepository "my_lib"] := by
    rw [hmerged]
    exact List.mem_cons_self
  have hother : namedRepository "my_lib" ∈
      mergedRecords [dependentRepository "my-lib", namedRepository "my_lib"] := by
    rw [hmerged]
    exact List.mem_cons_of_mem _ List.mem_cons_self
  have hleft : "my-lib" ∈ (resolved lowerAscii
      (mergedRecords [dependentRepository "my-lib", namedRepository "my_lib"])
        (dependentRepository "my-lib")).unresolvedDependencies := by
    decide +kernel
  have hnames : Names lowerAscii "my-lib" (namedRepository "my_lib") :=
    ⟨"my_lib", Or.inl rfl, by decide +kernel⟩
  obtain ⟨-, hgone, -⟩ := ((h _ hentry _ (mem_links.2 ⟨_, hentry, rfl⟩) rfl).1 "my-lib"
    List.mem_cons_self (by decide)).1 _ hother (by decide +kernel) hnames
  exact hgone hleft

end AggregateRepositories

end ConstellationTopology
