import ConstellationTopology.Library.JsonText
import ConstellationTopology.Topology.Duplicates

set_option autoImplicit false

/-! # The stars of the duplicate clusters

The edges of byte-identical artifacts do not depend on how the relations are written down
(`buildDuplicateEdges_rearranged`). Each cluster keeps its star as long as no other cluster draws
one of the same edges (`duplicate_stars_iff`). -/

namespace ConstellationTopology

/-! ## Writing the relations down otherwise -/

/-- The relation from its other endpoint. -/
def ExactDuplicateRelation.swap (relation : ExactDuplicateRelation) : ExactDuplicateRelation :=
  { relation with
    artifactAId := relation.artifactBId
    artifactBId := relation.artifactAId
    endpoints_distinct := relation.endpoints_distinct.symm }

/-- The relations with some of them swapped, in any order. -/
def Rearranged (relations relations' : List ExactDuplicateRelation) : Prop :=
  ∃ swapped, List.Forall₂ (fun relation other => other = relation ∨ other = relation.swap)
    relations swapped ∧ swapped.Perm relations'

/-- The relations that name one cluster carry one hash. -/
def OneHash (relations : List ExactDuplicateRelation) : Prop :=
  ∀ relation ∈ relations, ∀ other ∈ relations,
    relation.duplicateClusterId = other.duplicateClusterId →
      relation.contentHash = other.contentHash

/-- The relation stands in the list, from one endpoint or the other. -/
def Stands (relations : List ExactDuplicateRelation) (relation : ExactDuplicateRelation) : Prop :=
  relation ∈ relations ∨ relation.swap ∈ relations

theorem Rearranged.stands_iff {relations relations' : List ExactDuplicateRelation}
    (h : Rearranged relations relations') (relation : ExactDuplicateRelation) :
    Stands relations' relation ↔ Stands relations relation := by
  obtain ⟨swapped, hswapped, hperm⟩ := h
  have hsame : ∀ relation, Stands swapped relation ↔ Stands relations relation := by
    clear hperm
    intro relation
    unfold Stands
    induction hswapped with
    | nil => rfl
    | cons hpair _ ih =>
        simp only [List.mem_cons]
        rcases hpair with rfl | rfl
        · grind
        · have hswap : ∀ r : ExactDuplicateRelation, r.swap.swap = r := fun _ => rfl
          grind
  unfold Stands at hsame ⊢
  rw [← hperm.mem_iff, ← hperm.mem_iff]
  exact hsame relation

/-! ## Clusters -/

section Clusters

variable {relations : List ExactDuplicateRelation}

theorem mem_memberIds {clusterId member : String} :
    member ∈ (clusterOf relations clusterId).memberIds ↔ ∃ relation,
      Stands relations relation ∧ relation.duplicateClusterId = clusterId ∧
        relation.artifactAId = member := by
  simp only [clusterOf, mem_sortedSet, List.mem_flatMap, mem_groupOf, List.mem_cons,
    List.not_mem_nil, or_false]
  constructor
  · rintro ⟨relation, ⟨hrelation, hcluster⟩, hmember⟩
    rcases hmember with rfl | rfl
    · exact ⟨relation, Or.inl hrelation, hcluster, rfl⟩
    · exact ⟨relation.swap, Or.inr hrelation, hcluster, rfl⟩
  · rintro ⟨relation, hstands, hcluster, hmember⟩
    rcases hstands with hrelation | hrelation
    · exact ⟨relation, ⟨hrelation, hcluster⟩, Or.inl hmember.symm⟩
    · exact ⟨relation.swap, ⟨hrelation, hcluster⟩, Or.inr hmember.symm⟩

theorem mem_clusterIds {clusterId : String} :
    clusterId ∈ relations.map ExactDuplicateRelation.duplicateClusterId ↔ ∃ relation,
      Stands relations relation ∧ relation.duplicateClusterId = clusterId := by
  rw [List.mem_map]
  constructor
  · rintro ⟨relation, hrelation, hcluster⟩
    exact ⟨relation, Or.inl hrelation, hcluster⟩
  · rintro ⟨relation, hstands, hcluster⟩
    rcases hstands with hrelation | hrelation
    · exact ⟨relation, hrelation, hcluster⟩
    · exact ⟨relation.swap, hrelation, hcluster⟩

/-- The hash of a cluster is that of each of its relations. -/
theorem contentHash_clusterOf (hone : OneHash relations) {relation : ExactDuplicateRelation}
    (h : Stands relations relation) :
    (clusterOf relations relation.duplicateClusterId).contentHash = relation.contentHash := by
  obtain ⟨own, hown, hcluster, hhash⟩ : ∃ own ∈ relations,
      own.duplicateClusterId = relation.duplicateClusterId ∧
        own.contentHash = relation.contentHash := by
    rcases h with h | h
    · exact ⟨relation, h, rfl, rfl⟩
    · exact ⟨relation.swap, h, rfl, rfl⟩
  rw [clusterOf]
  dsimp only
  cases hlast : (groupOf ExactDuplicateRelation.duplicateClusterId relation.duplicateClusterId
      relations).getLast? with
  | none =>
      have hgroup := mem_groupOf.2 ⟨hown, hcluster⟩
      rw [List.getLast?_eq_none_iff.1 hlast] at hgroup
      cases hgroup
  | some last =>
      obtain ⟨hmem, hlastCluster⟩ := mem_groupOf.1 (List.mem_of_getLast? hlast)
      rw [Option.map_some, Option.getD_some, ← hhash]
      exact hone last hmem own hown (hlastCluster.trans hcluster.symm)

end Clusters

theorem OneHash.rearranged {relations relations' : List ExactDuplicateRelation}
    (hone : OneHash relations) (h : Rearranged relations relations') : OneHash relations' := by
  have hback : ∀ relation ∈ relations', ∃ own ∈ relations,
      own.duplicateClusterId = relation.duplicateClusterId ∧
        own.contentHash = relation.contentHash := by
    intro relation hrelation
    rcases (h.stands_iff relation).1 (Or.inl hrelation) with hown | hown
    · exact ⟨relation, hown, rfl, rfl⟩
    · exact ⟨relation.swap, hown, rfl, rfl⟩
  intro relation hrelation other hother hcluster
  obtain ⟨own, hown, hownCluster, hownHash⟩ := hback relation hrelation
  obtain ⟨own', hown', hownCluster', hownHash'⟩ := hback other hother
  rw [← hownHash, ← hownHash']
  exact hone own hown own' hown' (by rw [hownCluster, hownCluster', hcluster])

theorem clusterRelations_rearranged {relations relations' : List ExactDuplicateRelation}
    (hone : OneHash relations) (h : Rearranged relations relations') :
    clusterRelations relations' = clusterRelations relations := by
  have hids : sortedSet (relations'.map ExactDuplicateRelation.duplicateClusterId) =
      sortedSet (relations.map ExactDuplicateRelation.duplicateClusterId) := by
    refine sortedSet_congr fun clusterId => ?_
    simp only [mem_clusterIds, h.stands_iff]
  rw [clusterRelations, clusterRelations, hids]
  refine List.map_congr_left fun clusterId hid => ?_
  obtain ⟨relation, hstands, rfl⟩ := mem_clusterIds.1 (mem_sortedSet.1 hid)
  have hmembers : (clusterOf relations' relation.duplicateClusterId).memberIds =
      (clusterOf relations relation.duplicateClusterId).memberIds := by
    have hsame : ∀ member,
        member ∈ (clusterOf relations' relation.duplicateClusterId).memberIds ↔
          member ∈ (clusterOf relations relation.duplicateClusterId).memberIds := by
      intro member
      simp only [mem_memberIds, h.stands_iff]
    have hcanonical := sortedSet_congr hsame
    simpa only [clusterOf, sortedSet_idem] using hcanonical
  have hhash := (contentHash_clusterOf (hone.rearranged h) ((h.stands_iff relation).2 hstands)).trans
    (contentHash_clusterOf hone hstands).symm
  rw [DuplicateCluster.mk.injEq]
  exact ⟨rfl, hhash, hmembers⟩

theorem clusterEvidence_rearranged {relations relations' : List ExactDuplicateRelation}
    (h : Rearranged relations relations') (evidenceRefsByRelation : String → List String)
    (clusterId : String) :
    clusterEvidence relations' evidenceRefsByRelation clusterId =
      clusterEvidence relations evidenceRefsByRelation clusterId := by
  have hmem : ∀ (relations : List ExactDuplicateRelation) reference,
      reference ∈ (groupOf ExactDuplicateRelation.duplicateClusterId clusterId relations).flatMap
        (fun relation => evidenceRefsByRelation relation.relationId) ↔ ∃ relation,
          Stands relations relation ∧ relation.duplicateClusterId = clusterId ∧
            reference ∈ evidenceRefsByRelation relation.relationId := by
    intro relations reference
    simp only [List.mem_flatMap, mem_groupOf]
    constructor
    · rintro ⟨relation, ⟨hrelation, hcluster⟩, hreference⟩
      exact ⟨relation, Or.inl hrelation, hcluster, hreference⟩
    · rintro ⟨relation, hstands, hcluster, hreference⟩
      rcases hstands with hrelation | hrelation
      · exact ⟨relation, ⟨hrelation, hcluster⟩, hreference⟩
      · exact ⟨relation.swap, ⟨hrelation, hcluster⟩, hreference⟩
  refine sortedSet_congr fun reference => ?_
  simp only [hmem, h.stands_iff]

/-- **Rearranging.** The edges do not depend on the order of the relations or on the endpoint from
    which each is written. -/
theorem buildDuplicateEdges_rearranged (c : Codec) {relations relations' : List ExactDuplicateRelation}
    (hone : OneHash relations) (h : Rearranged relations relations')
    (evidenceRefsByRelation : String → List String) :
    buildDuplicateEdges c relations' evidenceRefsByRelation =
      buildDuplicateEdges c relations evidenceRefsByRelation := by
  have hedges : clusterEdges c relations' evidenceRefsByRelation =
      clusterEdges c relations evidenceRefsByRelation := by
    funext cluster
    rw [clusterEdges, clusterEdges, clusterEvidence_rearranged h]
  rw [buildDuplicateEdges, buildDuplicateEdges, hedges, clusterRelations_rearranged hone h]

/-! ## The edges of a cluster -/

/-- The edge carries the id of the cluster. -/
def EdgeRecord.InCluster (clusterId : String) (edge : EdgeRecord) : Prop :=
  edge.property? "duplicate_cluster_id" = some (.str clusterId)

instance (clusterId : String) : DecidablePred (EdgeRecord.InCluster clusterId) := fun edge =>
  decidable_of_iff ((edge.property? "duplicate_cluster_id").any (Json.isText clusterId) = true)
    Json.any_isText_iff

theorem starEdge_inCluster (c : Codec) {cluster : DuplicateCluster} {evidenceRefs : List String}
    {clusterId member : String} :
    (starEdge c cluster evidenceRefs member).InCluster clusterId ↔
      cluster.clusterId = clusterId := by
  simp [EdgeRecord.InCluster, EdgeRecord.property?, starEdge]

theorem canonicalPair_of_le {left right : String} (h : left ≤ right) :
    canonicalPair left right = (left, right) :=
  if_pos h

theorem duplicateEdgeId_inj {c : Codec} (hc : c.Faithful)
    {left right left' right' hash hash' : String} (hle : left ≤ right) (hle' : left' ≤ right')
    (h : duplicateEdgeId c left right hash = duplicateEdgeId c left' right' hash') :
    left = left' ∧ right = right' ∧ hash = hash' := by
  have hsemantic := (hc.stableId_inj "edge").1 h
  rw [canonicalPair_of_le hle, canonicalPair_of_le hle'] at hsemantic
  exact ⟨Json.str.inj (Json.field_of_semantic_eq hsemantic "artifact_a_id" rfl rfl),
    Json.str.inj (Json.field_of_semantic_eq hsemantic "artifact_b_id" rfl rfl),
    Json.str.inj (Json.field_of_semantic_eq hsemantic "content_hash" rfl rfl)⟩

section Star

variable (c : Codec) {relations : List ExactDuplicateRelation}
  {evidenceRefsByRelation : String → List String}

/-- A cluster has two members or more, and the representative is the least of them. -/
theorem representative_least {cluster : DuplicateCluster}
    (h : cluster ∈ clusterRelations relations) :
    cluster.representativeId ∈ cluster.memberIds ∧
      (∀ member ∈ cluster.memberIds, cluster.representativeId ≤ member) ∧
        ∃ member ∈ cluster.memberIds, member ≠ cluster.representativeId := by
  obtain ⟨clusterId, hid, rfl⟩ := List.mem_map.1 h
  obtain ⟨relation, hstands, hcluster⟩ := mem_clusterIds.1 (mem_sortedSet.1 hid)
  have hfirst : relation.artifactAId ∈ (clusterOf relations clusterId).memberIds :=
    mem_memberIds.2 ⟨relation, hstands, hcluster, rfl⟩
  have hsecond : relation.artifactBId ∈ (clusterOf relations clusterId).memberIds :=
    mem_memberIds.2 ⟨relation.swap, hstands.symm, hcluster, rfl⟩
  have hsorted : (clusterOf relations clusterId).memberIds.Pairwise (· ≤ ·) :=
    sortedSet_sorted _
  obtain ⟨head, rest, hlist⟩ := List.exists_cons_of_ne_nil (List.ne_nil_of_mem hfirst)
  have hrepresentative : (clusterOf relations clusterId).representativeId = head := by
    rw [DuplicateCluster.representativeId, hlist, List.headD_cons]
  rw [hlist, List.pairwise_cons] at hsorted
  rw [hrepresentative]
  refine ⟨hlist ▸ List.mem_cons_self, ?_, ?_⟩
  · intro member hmember
    rw [hlist] at hmember
    rcases List.mem_cons.1 hmember with rfl | hmember
    · exact le_rfl
    · exact hsorted.1 member hmember
  · by_cases hhead : relation.artifactAId = head
    · exact ⟨_, hsecond, fun heq => relation.endpoints_distinct (hhead.trans heq.symm)⟩
    · exact ⟨_, hfirst, hhead⟩

theorem memberIds_nodup {cluster : DuplicateCluster} (h : cluster ∈ clusterRelations relations) :
    cluster.memberIds.Nodup := by
  obtain ⟨clusterId, -, rfl⟩ := List.mem_map.1 h
  exact sortedSet_nodup _

/-- The endpoints and the id of the edge to a member. -/
theorem starEdge_eq {cluster : DuplicateCluster} (h : cluster ∈ clusterRelations relations)
    {member : String} (hmember : member ∈ cluster.memberIds) (evidenceRefs : List String) :
    (starEdge c cluster evidenceRefs member).sourceId = cluster.representativeId ∧
      (starEdge c cluster evidenceRefs member).targetId = member ∧
      (starEdge c cluster evidenceRefs member).edgeId =
        duplicateEdgeId c cluster.representativeId member cluster.contentHash := by
  have hpair := canonicalPair_of_le ((representative_least h).2.1 member hmember)
  simp only [starEdge, hpair, and_self]

theorem mem_clusterEdges {cluster : DuplicateCluster} {edge : EdgeRecord} :
    edge ∈ clusterEdges c relations evidenceRefsByRelation cluster ↔
      ∃ member ∈ cluster.memberIds, member ≠ cluster.representativeId ∧
        starEdge c cluster (clusterEvidence relations evidenceRefsByRelation cluster.clusterId)
          member = edge := by
  simp only [clusterEdges, List.mem_map, List.mem_filter, decide_eq_true_eq, and_assoc]

theorem length_clusterEdges {cluster : DuplicateCluster}
    (h : cluster ∈ clusterRelations relations) :
    (clusterEdges c relations evidenceRefsByRelation cluster).length + 1 =
      cluster.memberIds.length := by
  have herase : cluster.memberIds.filter (fun member => member ≠ cluster.representativeId) =
      cluster.memberIds.erase cluster.representativeId := by
    rw [(memberIds_nodup h).erase_eq_filter]
    refine List.filter_congr fun member _ => ?_
    rw [Bool.eq_iff_iff]
    simp
  rw [clusterEdges, List.length_map, herase]
  exact List.length_erase_add_one (representative_least h).1

theorem clusterRelations_ids_nodup (relations : List ExactDuplicateRelation) :
    ((clusterRelations relations).map DuplicateCluster.clusterId).Nodup := by
  rw [clusterRelations, List.map_map]
  have hid : DuplicateCluster.clusterId ∘ clusterOf relations = id := rfl
  rw [hid, List.map_id]
  exact sortedSet_nodup _

/-- No other cluster with the hash and the representative has another member of the cluster. -/
def Apart (relations : List ExactDuplicateRelation) : Prop :=
  ∀ cluster ∈ clusterRelations relations, ∀ other ∈ clusterRelations relations,
    cluster.clusterId ≠ other.clusterId → cluster.contentHash = other.contentHash →
      cluster.representativeId = other.representativeId →
        ∀ member ∈ cluster.memberIds, member ∈ other.memberIds →
          member = cluster.representativeId

variable {c}

/-- Clusters that are apart draw different edges. -/
theorem edgeIds_nodup (hc : c.Faithful) (h : Apart relations) :
    (((clusterRelations relations).flatMap
      (clusterEdges c relations evidenceRefsByRelation)).map EdgeRecord.edgeId).Nodup := by
  rw [List.map_flatMap, List.nodup_flatMap]
  refine ⟨?_, ?_⟩
  · intro cluster hcluster
    rw [clusterEdges, List.map_map]
    refine (((memberIds_nodup hcluster).filter _).map_on ?_)
    intro member hmember member' hmember' heq
    have hmember := (List.mem_filter.1 hmember).1
    have hmember' := (List.mem_filter.1 hmember').1
    simp only [Function.comp_apply, (starEdge_eq c hcluster hmember _).2.2,
      (starEdge_eq c hcluster hmember' _).2.2] at heq
    exact (duplicateEdgeId_inj hc ((representative_least hcluster).2.1 _ hmember)
      ((representative_least hcluster).2.1 _ hmember') heq).2.1
  · have hpairwise := List.pairwise_map.1 (clusterRelations_ids_nodup relations)
    refine hpairwise.imp_of_mem ?_
    intro cluster other hcluster hother hne edgeId hid hid'
    obtain ⟨_, hedge, rfl⟩ := List.mem_map.1 hid
    obtain ⟨_, hedge', heq⟩ := List.mem_map.1 hid'
    obtain ⟨member, hmember, hmemberNe, rfl⟩ := (mem_clusterEdges c).1 hedge
    obtain ⟨member', hmember', _, rfl⟩ := (mem_clusterEdges c).1 hedge'
    rw [(starEdge_eq c hother hmember' _).2.2, (starEdge_eq c hcluster hmember _).2.2] at heq
    obtain ⟨hrepresentative, hsame, hhash⟩ := duplicateEdgeId_inj hc
      ((representative_least hother).2.1 _ hmember')
      ((representative_least hcluster).2.1 _ hmember) heq
    exact hmemberNe (h cluster hcluster other hother hne hhash.symm hrepresentative.symm member
      hmember (hsame ▸ hmember'))

/-- The edges join the least of the members to every other member, one edge each. -/
structure IsStar (members : List String) (edges : List EdgeRecord) : Prop where
  length : edges.length + 1 = members.length
  star : ∃ representative ∈ members, (∀ member ∈ members, representative ≤ member) ∧
    (∀ member ∈ members, member ≠ representative →
      ∃! edge, edge ∈ edges ∧ edge.sourceId = representative ∧ edge.targetId = member) ∧
    ∀ edge ∈ edges, edge.sourceId = representative ∧ edge.targetId ∈ members ∧
      edge.targetId ≠ representative
  recoverable : ∀ entity, entity ∈ members ↔
    ∃ edge ∈ edges, entity = edge.sourceId ∨ entity = edge.targetId

theorem isStar_clusterEdges {cluster : DuplicateCluster}
    (h : cluster ∈ clusterRelations relations) {edges : List EdgeRecord}
    (hedges : edges.Perm (clusterEdges c relations evidenceRefsByRelation cluster)) :
    IsStar cluster.memberIds edges := by
  obtain ⟨hmem, hleast, other, hother, hne⟩ := representative_least h
  have hends : ∀ edge ∈ edges, edge.sourceId = cluster.representativeId ∧
      edge.targetId ∈ cluster.memberIds ∧ edge.targetId ≠ cluster.representativeId := by
    intro edge hedge
    obtain ⟨member, hmember, hmemberNe, rfl⟩ := (mem_clusterEdges c).1 (hedges.mem_iff.1 hedge)
    obtain ⟨hsource, htarget, -⟩ := starEdge_eq c h hmember
      (clusterEvidence relations evidenceRefsByRelation cluster.clusterId)
    rw [hsource, htarget]
    exact ⟨rfl, hmember, hmemberNe⟩
  have hdrawn : ∀ member ∈ cluster.memberIds, member ≠ cluster.representativeId →
      ∃! edge, edge ∈ edges ∧ edge.sourceId = cluster.representativeId ∧
        edge.targetId = member := by
    intro member hmember hmemberNe
    obtain ⟨hsource, htarget, -⟩ := starEdge_eq c h hmember
      (clusterEvidence relations evidenceRefsByRelation cluster.clusterId)
    refine ⟨_, ⟨hedges.mem_iff.2 ((mem_clusterEdges c).2 ⟨member, hmember, hmemberNe, rfl⟩),
      hsource, htarget⟩, ?_⟩
    rintro edge ⟨hedge, _, hedgeTarget⟩
    obtain ⟨member', hmember', _, rfl⟩ := (mem_clusterEdges c).1 (hedges.mem_iff.1 hedge)
    have htarget' := (starEdge_eq c h hmember'
      (clusterEvidence relations evidenceRefsByRelation cluster.clusterId)).2.1
    rw [← hedgeTarget, htarget']
  refine ⟨?_, ⟨_, hmem, hleast, hdrawn, hends⟩, ?_⟩
  · rw [hedges.length_eq, length_clusterEdges c h]
  · intro entity
    constructor
    · intro hentity
      by_cases hrepresentative : entity = cluster.representativeId
      · obtain ⟨edge, ⟨hedge, hsource, -⟩, -⟩ := hdrawn other hother hne
        exact ⟨edge, hedge, Or.inl (hrepresentative.trans hsource.symm)⟩
      · obtain ⟨edge, ⟨hedge, -, htarget⟩, -⟩ := hdrawn entity hentity hrepresentative
        exact ⟨edge, hedge, Or.inr htarget.symm⟩
    · rintro ⟨edge, hedge, hentity⟩
      obtain ⟨hsource, htarget, -⟩ := hends edge hedge
      rcases hentity with rfl | rfl
      · rwa [hsource]
      · exact htarget

variable (c relations evidenceRefsByRelation) in
/-- Every cluster has its star among the edges that carry its id. -/
def StarsKept : Prop :=
  ∀ cluster ∈ clusterRelations relations, IsStar cluster.memberIds
    ((buildDuplicateEdges c relations evidenceRefsByRelation).filter fun edge =>
      edge.InCluster cluster.clusterId)

theorem filter_clusterEdges {cluster : DuplicateCluster}
    (h : cluster ∈ clusterRelations relations) :
    ((clusterRelations relations).flatMap
      (clusterEdges c relations evidenceRefsByRelation)).filter
        (fun edge => edge.InCluster cluster.clusterId) =
      clusterEdges c relations evidenceRefsByRelation cluster := by
  rw [List.filter_flatMap, flatMap_of_nodup (clusterRelations_ids_nodup relations) h]
  · refine List.filter_eq_self.2 fun edge hedge => ?_
    obtain ⟨member, -, -, rfl⟩ := (mem_clusterEdges c).1 hedge
    exact decide_eq_true ((starEdge_inCluster c).2 rfl)
  · intro other _ hne
    refine List.filter_eq_nil_iff.2 fun edge hedge => ?_
    obtain ⟨member, -, -, rfl⟩ := (mem_clusterEdges c).1 hedge
    simpa [starEdge_inCluster] using hne

theorem starsKept_of_apart (hc : c.Faithful) (h : Apart relations) :
    StarsKept c relations evidenceRefsByRelation := by
  intro cluster hcluster
  have hperm : ((buildDuplicateEdges c relations evidenceRefsByRelation).filter fun edge =>
      edge.InCluster cluster.clusterId).Perm
        (clusterEdges c relations evidenceRefsByRelation cluster) := by
    rw [buildDuplicateEdges, Table.rows_ofRows_of_nodup (edgeIds_nodup hc h),
      ← filter_clusterEdges hcluster]
    exact (sortedBy_perm _ _).filter _
  exact isStar_clusterEdges hcluster hperm

/-- Where two clusters draw one edge only one of them keeps it. -/
theorem apart_of_starsKept (h : StarsKept c relations evidenceRefsByRelation) :
    Apart relations := by
  have hids : ((buildDuplicateEdges c relations evidenceRefsByRelation).map
      EdgeRecord.edgeId).Nodup :=
    ((sortedBy_perm _ _).map EdgeRecord.edgeId).nodup_iff.2 (Table.ofRows _ _).keys_nodup
  have hkept : ∀ cluster ∈ clusterRelations relations, ∀ member ∈ cluster.memberIds,
      member ≠ cluster.representativeId →
        ∃ edge ∈ buildDuplicateEdges c relations evidenceRefsByRelation,
          edge.InCluster cluster.clusterId ∧ edge.edgeId =
            duplicateEdgeId c cluster.representativeId member cluster.contentHash := by
    intro cluster hcluster member hmember hne
    obtain ⟨hmem, hleast, -⟩ := representative_least hcluster
    obtain ⟨-, ⟨representative, hin, hle, hdrawn, -⟩, -⟩ := h cluster hcluster
    have hsame : representative = cluster.representativeId :=
      le_antisymm (hle _ hmem) (hleast _ hin)
    obtain ⟨edge, ⟨hedge, -, htarget⟩, -⟩ := hdrawn member hmember (hsame ▸ hne)
    obtain ⟨hbuilt, hcarries⟩ := List.mem_filter.1 hedge
    have hcarries : edge.InCluster cluster.clusterId := of_decide_eq_true hcarries
    refine ⟨edge, hbuilt, hcarries, ?_⟩
    rw [buildDuplicateEdges, mem_sortedBy] at hbuilt
    obtain ⟨other, hother, hdrawnBy⟩ := List.mem_flatMap.1 (Table.mem_of_mem_ofRows hbuilt)
    obtain ⟨member', hmember', -, rfl⟩ := (mem_clusterEdges c).1 hdrawnBy
    have heq : other = cluster := List.inj_on_of_nodup_map (clusterRelations_ids_nodup relations)
      hother hcluster ((starEdge_inCluster c).1 hcarries)
    subst heq
    obtain ⟨-, htarget', hid⟩ := starEdge_eq c hother hmember'
      (clusterEvidence relations evidenceRefsByRelation other.clusterId)
    rw [hid, ← htarget, htarget']
  intro cluster hcluster other hother hne hhash hrepresentative member hmember hmember'
  by_contra hmemberNe
  obtain ⟨edge, hedge, hin, hid⟩ := hkept cluster hcluster member hmember hmemberNe
  obtain ⟨edge', hedge', hin', hid'⟩ := hkept other hother member hmember'
    (hrepresentative ▸ hmemberNe)
  have hsame : edge = edge' := by
    refine List.inj_on_of_nodup_map hids hedge hedge' ?_
    rw [hid, hid', hrepresentative, hhash]
  subst hsame
  rw [EdgeRecord.InCluster, hin, Option.some.injEq, Json.str.injEq] at hin'
  exact hne hin'

end Star

/-- **Duplicate clusters.** The edges are the same however the relations are written down and every
    cluster has its star, exactly when no two clusters draw one edge. -/
theorem duplicate_stars_iff (c : Codec) (hc : c.Faithful) (relations : List ExactDuplicateRelation)
    (evidenceRefsByRelation : String → List String) (hone : OneHash relations) :
    (∀ relations', Rearranged relations relations' →
        buildDuplicateEdges c relations' evidenceRefsByRelation =
          buildDuplicateEdges c relations evidenceRefsByRelation) ∧
      StarsKept c relations evidenceRefsByRelation ↔ Apart relations := by
  constructor
  · rintro ⟨_, hstars⟩
    exact apart_of_starsKept hstars
  · intro hapart
    refine ⟨fun relations' h => ?_, starsKept_of_apart hc hapart⟩
    exact buildDuplicateEdges_rearranged c hone h evidenceRefsByRelation

/-- Two copies of one file, as a packet reports them. -/
def copyRelation (clusterId left right : String) (h : left ≠ right) : ExactDuplicateRelation where
  relationId := clusterId ++ left ++ right
  duplicateClusterId := clusterId
  artifactAId := left
  artifactBId := right
  contentHash := "sha256:00"
  contentHash_nonempty := by decide
  endpoints_distinct := h

theorem oneHash_copies {relations : List ExactDuplicateRelation}
    (h : ∀ relation ∈ relations, relation.contentHash = "sha256:00") : OneHash relations := by
  intro relation hrelation other hother _
  rw [h relation hrelation, h other hother]

/-- Three copies in one cluster. -/
def threeCopies : List ExactDuplicateRelation :=
  [copyRelation "one" "b" "a" (by decide), copyRelation "one" "b" "c" (by decide)]

theorem duplicate_stars_three :
    (∀ relations', Rearranged threeCopies relations' →
        buildDuplicateEdges textCodec relations' (fun _ => []) =
          buildDuplicateEdges textCodec threeCopies fun _ => []) ∧
      StarsKept textCodec threeCopies fun _ => [] := by
  refine (duplicate_stars_iff textCodec textCodec_faithful threeCopies _
    (oneHash_copies (by simp [threeCopies, copyRelation]))).2 ?_
  unfold Apart
  decide +kernel

/-- One pair of copies that two packets report as two clusters. -/
def twoClusters : List ExactDuplicateRelation :=
  [copyRelation "one" "a" "b" (by decide), copyRelation "two" "b" "a" (by decide)]

/-- The first of the two clusters is left without an edge. -/
theorem duplicate_stars_shared :
    OneHash twoClusters ∧
      ¬ ((∀ relations', Rearranged twoClusters relations' →
          buildDuplicateEdges textCodec relations' (fun _ => []) =
            buildDuplicateEdges textCodec twoClusters fun _ => []) ∧
        StarsKept textCodec twoClusters fun _ => []) := by
  refine ⟨oneHash_copies (by simp [twoClusters, copyRelation]), fun h => ?_⟩
  have hshared : ¬ Apart twoClusters := by
    unfold Apart
    decide +kernel
  exact hshared (apart_of_starsKept h.2)

end ConstellationTopology
