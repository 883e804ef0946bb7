import ConstellationTopology.Topology.DuplicateStars
import ConstellationTopology.Topology.ReasoningRouter

set_option autoImplicit false

/-! # Routing byte-identical candidates

The router takes a group for wholly duplicated when the edges between its members draw one cluster
(`whollyDuplicated_iff`). The edges of a cluster all meet its representative, so a part of the
cluster without it is taken for unconnected (`routing_agrees_iff`). -/

namespace ConstellationTopology

section Survivors

variable {c : Codec} {relations : List ExactDuplicateRelation}
  {evidenceRefsByRelation : String → List String}

theorem clusterText_starEdge {cluster : DuplicateCluster} {evidenceRefs : List String}
    {member : String} :
    clusterText (starEdge c cluster evidenceRefs member) = some cluster.clusterId := by
  simp [clusterText, EdgeRecord.property?, starEdge]

/-- The edges are drawn in the order of the cluster ids. -/
theorem drawn_sorted (c : Codec) (relations : List ExactDuplicateRelation)
    (evidenceRefsByRelation : String → List String) :
    ((clusterRelations relations).flatMap
      (clusterEdges c relations evidenceRefsByRelation)).Pairwise fun edge other =>
        (clusterText edge).getD "" ≤ (clusterText other).getD "" := by
  have htext : ∀ cluster, ∀ edge ∈ clusterEdges c relations evidenceRefsByRelation cluster,
      (clusterText edge).getD "" = cluster.clusterId := by
    intro cluster edge hedge
    obtain ⟨member, -, -, rfl⟩ := (mem_clusterEdges c).1 hedge
    rw [clusterText_starEdge, Option.getD_some]
  rw [List.pairwise_flatMap]
  refine ⟨?_, ?_⟩
  · intro cluster _
    refine List.pairwise_of_forall_mem_list fun edge hedge other hother => ?_
    rw [htext cluster edge hedge, htext cluster other hother]
  · have hsorted : ((clusterRelations relations).map DuplicateCluster.clusterId).Pairwise
        (· ≤ ·) := by
      rw [clusterRelations, List.map_map]
      have hid : DuplicateCluster.clusterId ∘ clusterOf relations = id := rfl
      rw [hid, List.map_id]
      exact sortedSet_sorted _
    refine (List.pairwise_map.1 hsorted).imp fun {cluster} {other} hle edge hedge edge' hedge' => ?_
    rw [htext cluster edge hedge, htext other edge' hedge']
    exact hle

/-- Two clusters of one id are one. -/
theorem eq_of_clusterId {cluster other : DuplicateCluster}
    (h : cluster ∈ clusterRelations relations) (h' : other ∈ clusterRelations relations)
    (heq : cluster.clusterId = other.clusterId) : cluster = other :=
  List.inj_on_of_nodup_map (clusterRelations_ids_nodup relations) h h' heq

/-- The two clusters draw one edge to the member. -/
structure Shares (cluster other : DuplicateCluster) (member : String) : Prop where
  contentHash : cluster.contentHash = other.contentHash
  representativeId : cluster.representativeId = other.representativeId
  member_mem : member ∈ other.memberIds

/-- The edge that stands is that of the greatest cluster id. -/
theorem survivor_greatest {edge : EdgeRecord}
    (h : edge ∈ buildDuplicateEdges c relations evidenceRefsByRelation) :
    ∃ cluster ∈ clusterRelations relations, ∃ member ∈ cluster.memberIds,
      member ≠ cluster.representativeId ∧
        edge = starEdge c cluster
          (clusterEvidence relations evidenceRefsByRelation cluster.clusterId) member ∧
        ∀ other ∈ clusterRelations relations, Shares cluster other member →
          other.clusterId ≤ cluster.clusterId := by
  rw [buildDuplicateEdges, mem_sortedBy] at h
  obtain ⟨cluster, hcluster, hedge⟩ := List.mem_flatMap.1 (Table.mem_of_mem_ofRows h)
  obtain ⟨member, hmember, hne, rfl⟩ := (mem_clusterEdges c).1 hedge
  refine ⟨cluster, hcluster, member, hmember, hne, rfl, fun other hother hshares => ?_⟩
  have hdrawn : starEdge c other
      (clusterEvidence relations evidenceRefsByRelation other.clusterId) member ∈
        (clusterRelations relations).flatMap (clusterEdges c relations evidenceRefsByRelation) :=
    List.mem_flatMap.2 ⟨other, hother, (mem_clusterEdges c).2
      ⟨member, hshares.member_mem, hshares.representativeId ▸ hne, rfl⟩⟩
  have hle := Table.rank_le_of_mem_ofRows (drawn_sorted c relations evidenceRefsByRelation) h
    hdrawn (by
      rw [(starEdge_eq c hother hshares.member_mem _).2.2, (starEdge_eq c hcluster hmember _).2.2,
        hshares.contentHash, hshares.representativeId])
  simpa only [clusterText_starEdge, Option.getD_some] using hle

/-- Every edge that a cluster draws stands, in its own name or in that of a greater one. -/
theorem exists_survivor (hc : c.Faithful) (evidenceRefsByRelation : String → List String)
    {cluster : DuplicateCluster} (hcluster : cluster ∈ clusterRelations relations) {member : String}
    (hmember : member ∈ cluster.memberIds) (hne : member ≠ cluster.representativeId) :
    ∃ other ∈ clusterRelations relations, Shares cluster other member ∧
      cluster.clusterId ≤ other.clusterId ∧
        starEdge c other (clusterEvidence relations evidenceRefsByRelation other.clusterId)
          member ∈ buildDuplicateEdges c relations evidenceRefsByRelation := by
  have hdrawn : starEdge c cluster
      (clusterEvidence relations evidenceRefsByRelation cluster.clusterId) member ∈
        (clusterRelations relations).flatMap (clusterEdges c relations evidenceRefsByRelation) :=
    List.mem_flatMap.2 ⟨cluster, hcluster, (mem_clusterEdges c).2 ⟨member, hmember, hne, rfl⟩⟩
  have hkey := Table.mem_keys_ofRows.2 (List.mem_map_of_mem (f := EdgeRecord.edgeId) hdrawn)
  obtain ⟨edge, hedge, hid⟩ := List.mem_map.1 hkey
  have hbuilt : edge ∈ buildDuplicateEdges c relations evidenceRefsByRelation := by
    rw [buildDuplicateEdges, mem_sortedBy]
    exact hedge
  obtain ⟨other, hother, member', hmember', -, rfl, hgreatest⟩ := survivor_greatest hbuilt
  rw [(starEdge_eq c hother hmember' _).2.2, (starEdge_eq c hcluster hmember _).2.2] at hid
  obtain ⟨hrepresentative, hsame, hhash⟩ := duplicateEdgeId_inj hc
    ((representative_least hother).2.1 _ hmember')
    ((representative_least hcluster).2.1 _ hmember) hid
  subst hsame
  exact ⟨other, hother, ⟨hhash.symm, hrepresentative.symm, hmember'⟩,
    hgreatest cluster hcluster ⟨hhash, hrepresentative, hmember⟩, hbuilt⟩

end Survivors

/-! ## What the router sees of a cluster -/

/-- All members lie in one cluster. -/
def InOneCluster (relations : List ExactDuplicateRelation) (members : List String) : Prop :=
  ∃ cluster ∈ clusterRelations relations, ∀ member ∈ members, member ∈ cluster.memberIds

/-- The members lie in one cluster together with its representative, and what another cluster draws
    between two of them is an edge of this one, under a smaller id. -/
def Drawn (relations : List ExactDuplicateRelation) (members : List String) : Prop :=
  ∃ cluster ∈ clusterRelations relations, (∀ member ∈ members, member ∈ cluster.memberIds) ∧
    cluster.representativeId ∈ members ∧
      ∀ other ∈ clusterRelations relations, other.clusterId ≠ cluster.clusterId →
        other.representativeId ∈ members → ∀ member ∈ members, member ∈ other.memberIds →
          member ≠ other.representativeId →
            other.contentHash = cluster.contentHash ∧
              other.representativeId = cluster.representativeId ∧
                other.clusterId < cluster.clusterId

theorem exists_mem_of_two_le {members : List String} (h : 2 ≤ members.dedup.length) :
    ∃ member, member ∈ members := by
  obtain ⟨member, hmember⟩ := List.exists_mem_of_length_pos (Nat.zero_lt_of_lt h)
  exact ⟨member, List.mem_dedup.1 hmember⟩

section Drawing

variable {c : Codec} {relations : List ExactDuplicateRelation}
  {evidenceRefsByRelation : String → List String} {edges : List EdgeRecord}
  (hedges : ∀ edge, edge ∈ edges ∧ edge.edgeType = .duplicateOf ↔
    edge ∈ buildDuplicateEdges c relations evidenceRefsByRelation)
  {members : List String}

include hedges

/-- The edges between two members are those of the stars. -/
theorem mem_internalDuplicates {edge : EdgeRecord} :
    edge ∈ internalDuplicates members edges ↔
      edge ∈ buildDuplicateEdges c relations evidenceRefsByRelation ∧
        edge.sourceId ∈ members ∧ edge.targetId ∈ members := by
  simp only [internalDuplicates, List.mem_filter, decide_eq_true_eq, ← hedges, and_assoc]

/-- An edge that stands is seen where both its ends are members. -/
theorem mem_internal_of_built {cluster : DuplicateCluster}
    (hcluster : cluster ∈ clusterRelations relations) {member : String}
    (hmember : member ∈ cluster.memberIds) {evidenceRefs : List String}
    (hbuilt : starEdge c cluster evidenceRefs member ∈
      buildDuplicateEdges c relations evidenceRefsByRelation)
    (hrepresentative : cluster.representativeId ∈ members) (hin : member ∈ members) :
    starEdge c cluster evidenceRefs member ∈ internalDuplicates members edges := by
  obtain ⟨hsource, htarget, -⟩ := starEdge_eq c hcluster hmember evidenceRefs
  refine (mem_internalDuplicates hedges).2 ⟨hbuilt, ?_, ?_⟩
  · rwa [hsource]
  · rwa [htarget]

/-- A group that the router takes for wholly duplicated is drawn. -/
theorem drawn_of_whollyDuplicated (hc : c.Faithful)
    (h : MembersWhollyDuplicated members edges) : Drawn relations members := by
  obtain ⟨htwo, hone, htouched⟩ := h
  have htouched : ∀ member, member ∈ members ↔ ∃ edge ∈ internalDuplicates members edges,
      member = edge.sourceId ∨ member = edge.targetId := by
    intro member
    rw [← sortedSet_eq_iff.1 htouched member]
    simp
  obtain ⟨clusterId, hid⟩ := List.length_eq_one_iff.1 hone
  have hnamed : ∀ edge ∈ internalDuplicates members edges, ∀ named,
      clusterText edge = some named → named = clusterId := by
    intro edge hedge named hnamed
    have hin : named ∈ sortedSet ((internalDuplicates members edges).filterMap clusterText) :=
      mem_sortedSet.2 (List.mem_filterMap.2 ⟨edge, hedge, hnamed⟩)
    rw [hid] at hin
    exact List.mem_singleton.1 hin
  -- the cluster of one edge is that of all
  obtain ⟨first, hfirst⟩ := exists_mem_of_two_le htwo
  obtain ⟨edge, hedge, -⟩ := (htouched first).1 hfirst
  obtain ⟨hbuilt, hsource, -⟩ := (mem_internalDuplicates hedges).1 hedge
  obtain ⟨cluster, hcluster, start, hstart, -, rfl, -⟩ := survivor_greatest hbuilt
  rw [(starEdge_eq c hcluster hstart _).1] at hsource
  have hcommon : clusterId = cluster.clusterId := (hnamed _ hedge _ clusterText_starEdge).symm
  have hsame : ∀ other ∈ clusterRelations relations, ∀ member evidenceRefs,
      starEdge c other evidenceRefs member ∈ internalDuplicates members edges →
        other = cluster := by
    intro other hother member evidenceRefs hin
    refine eq_of_clusterId hother hcluster ?_
    rw [← hcommon]
    exact hnamed _ hin _ clusterText_starEdge
  refine ⟨cluster, hcluster, ?_, hsource, ?_⟩
  · intro member hmember
    obtain ⟨touching, htouching, hends⟩ := (htouched member).1 hmember
    obtain ⟨other, hother, target, htarget, -, rfl, -⟩ :=
      survivor_greatest ((mem_internalDuplicates hedges).1 htouching).1
    obtain rfl := hsame other hother target _ htouching
    rw [(starEdge_eq c hother htarget _).1, (starEdge_eq c hother htarget _).2.1] at hends
    rcases hends with rfl | rfl
    · exact (representative_least hother).1
    · exact htarget
  · intro other hother hne hrepresentative member hmember hin hmemberNe
    obtain ⟨survivor, hsurvivor, hshares, hle, hbuilt⟩ :=
      exists_survivor hc evidenceRefsByRelation hother hin hmemberNe
    have hinternal := mem_internal_of_built hedges hsurvivor hshares.member_mem hbuilt
      (hshares.representativeId ▸ hrepresentative) hmember
    obtain rfl := hsame survivor hsurvivor member _ hinternal
    exact ⟨hshares.contentHash, hshares.representativeId, lt_of_le_of_ne hle hne⟩

/-- A group that is drawn is taken for wholly duplicated. -/
theorem whollyDuplicated_of_drawn (hc : c.Faithful) (htwo : 2 ≤ members.dedup.length)
    (h : Drawn relations members) : MembersWhollyDuplicated members edges := by
  obtain ⟨cluster, hcluster, hwithin, hrepresentative, hothers⟩ := h
  have hnamed : ∀ edge ∈ internalDuplicates members edges,
      clusterText edge = some cluster.clusterId := by
    intro edge hedge
    obtain ⟨hbuilt, hsource, htarget⟩ := (mem_internalDuplicates hedges).1 hedge
    obtain ⟨other, hother, member, hmember, hne, rfl, hgreatest⟩ := survivor_greatest hbuilt
    rw [(starEdge_eq c hother hmember _).1] at hsource
    rw [(starEdge_eq c hother hmember _).2.1] at htarget
    rw [clusterText_starEdge, Option.some.injEq]
    by_contra hid
    obtain ⟨hhash, hsame, hlt⟩ := hothers other hother hid hsource member htarget hmember hne
    -- this cluster draws the edge too, so it would stand in its name
    exact absurd (hgreatest cluster hcluster ⟨hhash, hsame, hwithin member htarget⟩)
      (not_le.2 hlt)
  have htouched : ∀ member ∈ members, member ≠ cluster.representativeId →
      ∃ edge ∈ internalDuplicates members edges,
        edge.sourceId = cluster.representativeId ∧ edge.targetId = member := by
    intro member hmember hne
    obtain ⟨survivor, hsurvivor, hshares, -, hbuilt⟩ :=
      exists_survivor hc evidenceRefsByRelation hcluster (hwithin member hmember) hne
    obtain ⟨hsource, htarget, -⟩ := starEdge_eq c hsurvivor hshares.member_mem
      (clusterEvidence relations evidenceRefsByRelation survivor.clusterId)
    exact ⟨_, mem_internal_of_built hedges hsurvivor hshares.member_mem hbuilt
      (hshares.representativeId ▸ hrepresentative) hmember,
      hsource.trans hshares.representativeId.symm, htarget⟩
  obtain ⟨other, hother, hne⟩ : ∃ other ∈ members, other ≠ cluster.representativeId := by
    by_contra hall
    simp only [not_exists, not_and, not_not] at hall
    have hsub : members.dedup ⊆ [cluster.representativeId] := fun member hmember =>
      List.mem_singleton.2 (hall member (List.mem_dedup.1 hmember))
    have hle := (List.subperm_of_subset (List.nodup_dedup members) hsub).length_le
    rw [List.length_singleton] at hle
    omega
  obtain ⟨drawn, hdrawn, hdrawnSource, -⟩ := htouched other hother hne
  refine ⟨htwo, ?_, ?_⟩
  · have hids : sortedSet ((internalDuplicates members edges).filterMap clusterText) =
        sortedSet [cluster.clusterId] := by
      refine sortedSet_congr fun clusterId => ?_
      rw [List.mem_filterMap, List.mem_singleton]
      constructor
      · rintro ⟨edge, hedge, htext⟩
        exact (Option.some.inj ((hnamed edge hedge).symm.trans htext)).symm
      · intro heq
        exact ⟨drawn, hdrawn, heq ▸ hnamed drawn hdrawn⟩
    rw [hids]
    rfl
  · refine sortedSet_congr fun member => ?_
    simp only [List.mem_flatMap, List.mem_cons, List.not_mem_nil, or_false]
    constructor
    · rintro ⟨edge, hedge, hends⟩
      obtain ⟨-, hsource, htarget⟩ := (mem_internalDuplicates hedges).1 hedge
      rcases hends with rfl | rfl
      · exact hsource
      · exact htarget
    · intro hmember
      by_cases hrep : member = cluster.representativeId
      · exact ⟨drawn, hdrawn, Or.inl (hrep.trans hdrawnSource.symm)⟩
      · obtain ⟨edge, hedge, -, htarget⟩ := htouched member hmember hrep
        exact ⟨edge, hedge, Or.inr htarget.symm⟩

/-- **What the router sees.** -/
theorem whollyDuplicated_iff (hc : c.Faithful) :
    MembersWhollyDuplicated members edges ↔ 2 ≤ members.dedup.length ∧ Drawn relations members := by
  constructor
  · intro h
    exact ⟨h.1, drawn_of_whollyDuplicated hedges hc h⟩
  · rintro ⟨htwo, hdrawn⟩
    exact whollyDuplicated_of_drawn hedges hc htwo hdrawn

end Drawing

/-! ## Routing -/

section Routing

variable (cluster : CandidateClusterRecord) (edges : List EdgeRecord)
  (conflicts : List ConflictRecord) (unknowns : List UnknownRecord)

/-- The signal is none of those that escalate. -/
theorem exactDuplicateOnly_not_escalating :
    signalExactDuplicateOnly ∉ escalatingSignals cluster edges conflicts unknowns := by
  intro h
  have htexts : signalExactDuplicateOnly ∈ [signalConfirmedClaimConflict,
      signalUnresolvedExactReference, signalAmbiguousSupersession, signalStructurallyDisconnected,
      signalSpansRootsAndVersions] := by
    simp only [escalatingSignals, List.mem_append] at h
    rcases h with (((h | h) | h) | h) | h
    all_goals
      split at h
      · rw [List.mem_singleton.1 h]
        simp
      · cases h
  exact absurd htexts (by decide)

/-- The signal is given to the wholly duplicated groups that nothing escalates. -/
theorem mem_structural_iff (c : Codec) (upstream : Option ReasoningCandidateRequest) :
    signalExactDuplicateOnly ∈
        (routeCandidate cluster edges conflicts unknowns c upstream).structuralSignals ↔
      escalatingSignals cluster edges conflicts unknowns = [] ∧
        MembersWhollyDuplicated cluster.memberEntityIds edges := by
  have hraised := exactDuplicateOnly_not_escalating cluster edges conflicts unknowns
  have hother : signalExactDuplicateOnly ≠ signalExplainedByExactRelation := by decide
  simp only [routeCandidate, collectSignals, mem_sortedSet, List.mem_append, hraised, false_or]
  by_cases hescalate : escalatingSignals cluster edges conflicts unknowns = []
  · simp only [hescalate, if_true, true_and, loweringSignal]
    by_cases hwhole : MembersWhollyDuplicated cluster.memberEntityIds edges
    · simp [hwhole]
    · simp only [hwhole, if_false, iff_false]
      split
      · simpa using hother
      · simp
  · simp [hescalate]

/-- A group with the signal goes to no reasoner. -/
theorem routed_none_of_signal (c : Codec) (upstream : Option ReasoningCandidateRequest)
    (h : signalExactDuplicateOnly ∈
      (routeCandidate cluster edges conflicts unknowns c upstream).structuralSignals) :
    (routeCandidate cluster edges conflicts unknowns c upstream).topologyRecommendedReasoningType =
      .none := by
  obtain ⟨hescalate, hwhole⟩ := (mem_structural_iff cluster edges conflicts unknowns c upstream).1 h
  simp [routeCandidate, collectSignals, decideRouting, loweringSignal, hescalate, hwhole]

end Routing

/-- The measurement of a wholly duplicated group counts an edge between its members. -/
theorem internalPairs_pos {index : StructuralIndex} {members : List String}
    (h : MembersWhollyDuplicated members index.edges)
    (hdistinct : ∀ edge ∈ internalDuplicates members index.edges, edge.sourceId ≠ edge.targetId) :
    0 < index.internalPairs .duplicateOf members := by
  obtain ⟨htwo, -, htouched⟩ := h
  obtain ⟨first, hfirst⟩ := exists_mem_of_two_le htwo
  have htouching := (sortedSet_eq_iff.1 htouched first).2 hfirst
  obtain ⟨edge, hedge, -⟩ := List.mem_flatMap.1 htouching
  have hne := hdistinct edge hedge
  simp only [internalDuplicates, List.mem_filter, decide_eq_true_eq] at hedge
  obtain ⟨hmem, htype, hsource, htarget⟩ := hedge
  refine List.length_pos_of_mem (a := canonicalPair edge.sourceId edge.targetId)
    (List.mem_filter.2 ⟨?_, ?_⟩)
  · exact List.mem_dedup.2 (List.mem_map.2 ⟨edge, List.mem_filter.2 ⟨hmem, by simp [htype]⟩, rfl⟩)
  · unfold canonicalPair
    split
    · simp [hne, hsource, htarget]
    · simp [hne.symm, hsource, htarget]

/-- The measurement depends on the members only. -/
theorem internalPairs_congr (index : StructuralIndex) (edgeType : EdgeType)
    {members members' : List String} (h : ∀ member, member ∈ members ↔ member ∈ members') :
    index.internalPairs edgeType members = index.internalPairs edgeType members' := by
  simp only [StructuralIndex.internalPairs, h]

theorem internalExactDuplicateCount_eq (index : StructuralIndex) (candidate : CandidateCluster) :
    (index.structuralEvidence candidate).internalExactDuplicateCount =
      index.internalPairs .duplicateOf candidate.memberArtifactIds.dedup := rfl

/-- Without the representative of a cluster, no edge of it is seen. -/
theorem internalPairs_eq_zero {c : Codec} {relations : List ExactDuplicateRelation}
    {evidenceRefsByRelation : String → List String} {index : StructuralIndex}
    {members : List String}
    (hedges : ∀ edge, edge ∈ index.edges ∧ edge.edgeType = .duplicateOf ↔
      edge ∈ buildDuplicateEdges c relations evidenceRefsByRelation)
    (h : ∀ cluster ∈ clusterRelations relations, cluster.representativeId ∉ members) :
    index.internalPairs .duplicateOf members = 0 := by
  rw [StructuralIndex.internalPairs, List.length_eq_zero_iff, List.filter_eq_nil_iff]
  intro pair hpair hends
  obtain ⟨edge, hedge, rfl⟩ := List.mem_map.1 (List.mem_dedup.1 hpair)
  rw [List.mem_filter, decide_eq_true_eq] at hedge
  obtain ⟨cluster, hcluster, member, hmember, -, rfl, -⟩ := survivor_greatest ((hedges _).1 hedge)
  obtain ⟨hsource, htarget, -⟩ := starEdge_eq c hcluster hmember
    (clusterEvidence relations evidenceRefsByRelation cluster.clusterId)
  rw [hsource, htarget, decide_eq_true_eq] at hends
  unfold canonicalPair at hends
  split at hends
  · exact h cluster hcluster hends.2.1
  · exact h cluster hcluster hends.2.2

/-! ## Agreement -/

/-- The measurement and the routing of a candidate agree with the cluster its members lie in. -/
structure RoutingAgrees (relations : List ExactDuplicateRelation)
    (evidence : CandidateStructuralEvidence) (members raised : List String)
    (routed : TopologyReasoningCandidate) : Prop where
  deescalates : 2 ≤ members.dedup.length → InOneCluster relations members → raised = [] →
    0 < evidence.internalExactDuplicateCount ∧
      routed.topologyRecommendedReasoningType = .none ∧
        signalExactDuplicateOnly ∈ routed.structuralSignals
  only : signalExactDuplicateOnly ∈ routed.structuralSignals → InOneCluster relations members

/-- **Routing.** Measurement and routing agree with cluster membership exactly when the star of the
    cluster can be seen between the members. -/
theorem routing_agrees_iff (c : Codec) (hc : c.Faithful) (relations : List ExactDuplicateRelation)
    (evidenceRefsByRelation : String → List String) (index : StructuralIndex)
    (hedges : ∀ edge, edge ∈ index.edges ∧ edge.edgeType = .duplicateOf ↔
      edge ∈ buildDuplicateEdges c relations evidenceRefsByRelation)
    (candidate : CandidateCluster) (cluster : CandidateClusterRecord)
    (hmembers : ∀ member, member ∈ cluster.memberEntityIds ↔
      member ∈ candidate.memberArtifactIds)
    (conflicts : List ConflictRecord) (unknowns : List UnknownRecord)
    (upstream : Option ReasoningCandidateRequest) :
    RoutingAgrees relations (index.structuralEvidence candidate) cluster.memberEntityIds
        (escalatingSignals cluster index.edges conflicts unknowns)
        (routeCandidate cluster index.edges conflicts unknowns c upstream) ↔
      (2 ≤ cluster.memberEntityIds.dedup.length →
        InOneCluster relations cluster.memberEntityIds →
          escalatingSignals cluster index.edges conflicts unknowns = [] →
            Drawn relations cluster.memberEntityIds) := by
  have hsignal := mem_structural_iff cluster index.edges conflicts unknowns c upstream
  constructor
  · intro h htwo hone hraised
    have hgiven := (h.deescalates htwo hone hraised).2.2
    exact drawn_of_whollyDuplicated hedges hc (hsignal.1 hgiven).2
  · intro h
    refine ⟨fun htwo hone hraised => ?_, fun hgiven => ?_⟩
    · have hwhole := whollyDuplicated_of_drawn hedges hc htwo (h htwo hone hraised)
      have hgiven := hsignal.2 ⟨hraised, hwhole⟩
      refine ⟨?_, routed_none_of_signal cluster index.edges conflicts unknowns c upstream hgiven,
        hgiven⟩
      have hsame := internalPairs_congr index .duplicateOf fun member =>
        List.mem_dedup.trans (hmembers member).symm
      rw [internalExactDuplicateCount_eq, hsame]
      refine internalPairs_pos hwhole fun edge hedge => ?_
      obtain ⟨drawing, hdrawing, member, hmember, hne, rfl, -⟩ :=
        survivor_greatest ((mem_internalDuplicates hedges).1 hedge).1
      rw [(starEdge_eq c hdrawing hmember _).1, (starEdge_eq c hdrawing hmember _).2.1]
      exact hne.symm
    · obtain ⟨drawing, hdrawing, hwithin, -⟩ :=
        drawn_of_whollyDuplicated hedges hc (hsignal.1 hgiven).2
      exact ⟨drawing, hdrawing, hwithin⟩

/-! ## A part of a cluster -/

/-- A canonical structure of nothing but duplicate edges. -/
def duplicateIndex (edges : List EdgeRecord) : StructuralIndex where
  artifacts := []
  edges := edges
  claims := []
  conflicts := []
  rootByArtifact := []

theorem duplicateIndex_edges (edges : List EdgeRecord) : (duplicateIndex edges).edges = edges := rfl

theorem edgeType_of_built {c : Codec} {relations : List ExactDuplicateRelation}
    {evidenceRefsByRelation : String → List String} {edge : EdgeRecord}
    (h : edge ∈ buildDuplicateEdges c relations evidenceRefsByRelation) :
    edge.edgeType = .duplicateOf := by
  obtain ⟨cluster, -, evidenceRefs, member, rfl⟩ := mem_duplicate_edges c h
  rfl

theorem mem_duplicateIndex (c : Codec) (relations : List ExactDuplicateRelation)
    (evidenceRefsByRelation : String → List String) (edge : EdgeRecord) :
    edge ∈ (duplicateIndex (buildDuplicateEdges c relations evidenceRefsByRelation)).edges ∧
        edge.edgeType = .duplicateOf ↔
      edge ∈ buildDuplicateEdges c relations evidenceRefsByRelation :=
  ⟨fun h => h.1, fun hedge => ⟨hedge, edgeType_of_built hedge⟩⟩

/-- Nothing that only duplicate edges say escalates a proposed consolidation. -/
theorem escalatingSignals_duplicateIndex {edges : List EdgeRecord}
    (htype : ∀ edge ∈ edges, edge.edgeType = .duplicateOf) {candidate : CandidateCluster}
    (hcandidate : candidate.candidateType = .consolidationCandidate)
    (hflags : candidate.ambiguityFlags = []) :
    escalatingSignals (compileCandidateCluster (duplicateIndex edges) [] candidate) edges [] [] =
      [] := by
  have hsupersession : ∀ members, ambiguousSupersession members edges = false := by
    intro members
    refine List.any_eq_false.2 fun edge hedge => ?_
    simp [htype edge hedge]
  have hcount : ((duplicateIndex edges).structuralEvidence candidate).internalSupersessionCount =
      0 := by
    have hnone : edges.filter (fun edge => edge.edgeType = .supersedes) = [] := by
      refine List.filter_eq_nil_iff.2 fun edge hedge => ?_
      simp [htype edge hedge]
    simp [StructuralIndex.structuralEvidence, StructuralIndex.internalPairs,
      StructuralIndex.pairsOf, duplicateIndex, hnone]
  have hflag : ambiguityConflictingStatus ∉
      ambiguityFlags candidate ((duplicateIndex edges).structuralEvidence candidate) := by
    have hother : ambiguityConflictingStatus ≠ ambiguityStructurallyDisconnected ∧
        ambiguityConflictingStatus ≠ ambiguityCrossRoot := by
      decide
    have hnone : ∀ subjects : List String,
        sortedSet (subjects.flatMap fun _ => ([] : List String)) = [] := by
      simp
    simp [ambiguityFlags, hflags, mem_sortedSet, StructuralIndex.structuralEvidence,
      StructuralIndex.distribution, StructuralIndex.conflictedSubjects, duplicateIndex, hother,
      hnone]
  have hrefs : ∀ cluster, conflictRefs cluster [] = [] := fun _ => rfl
  simp [escalatingSignals, hrefs, compileCandidateCluster, hsupersession, hcount, hflag,
    hcandidate]

/-- The structure of three copies. -/
def copiesIndex : StructuralIndex :=
  duplicateIndex (buildDuplicateEdges textCodec threeCopies fun _ => [])

theorem copiesIndex_edges (edge : EdgeRecord) :
    edge ∈ copiesIndex.edges ∧ edge.edgeType = .duplicateOf ↔
      edge ∈ buildDuplicateEdges textCodec threeCopies fun _ => [] :=
  mem_duplicateIndex textCodec threeCopies (fun _ => []) edge

/-- A group that a producer proposes to consolidate. -/
def copiesCandidate (left right : String) : CandidateCluster where
  candidateId := "candidate:copies"
  candidateType := .consolidationCandidate
  memberArtifactIds := [left, right]
  confidenceClass := .moderate
  analysisProfile := ⟨"fusion", "1.0.0", "sha256:11"⟩
  members_nonempty := List.cons_ne_nil _ _

/-- The record of the candidate. -/
def copiesRecord (left right : String) : CandidateClusterRecord :=
  compileCandidateCluster copiesIndex [] (copiesCandidate left right)

theorem copiesRecord_members (left right member : String) :
    member ∈ (copiesRecord left right).memberEntityIds ↔
      member ∈ (copiesCandidate left right).memberArtifactIds :=
  mem_sortedSet

/-- A pair with the representative goes to no reasoner. -/
theorem routing_agrees_representative :
    RoutingAgrees threeCopies (copiesIndex.structuralEvidence (copiesCandidate "a" "c"))
      (copiesRecord "a" "c").memberEntityIds
      (escalatingSignals (copiesRecord "a" "c") copiesIndex.edges [] [])
      (routeCandidate (copiesRecord "a" "c") copiesIndex.edges [] [] textCodec none) := by
  refine (routing_agrees_iff textCodec textCodec_faithful threeCopies _ copiesIndex
    copiesIndex_edges (copiesCandidate "a" "c") (copiesRecord "a" "c")
    (copiesRecord_members "a" "c") [] [] none).2 fun _ _ _ => ?_
  unfold Drawn
  decide +kernel

/-- A pair without it is taken for a group that nothing connects. -/
theorem routing_disagrees :
    ¬ RoutingAgrees threeCopies (copiesIndex.structuralEvidence (copiesCandidate "b" "c"))
      (copiesRecord "b" "c").memberEntityIds
      (escalatingSignals (copiesRecord "b" "c") copiesIndex.edges [] [])
      (routeCandidate (copiesRecord "b" "c") copiesIndex.edges [] [] textCodec none) := by
  intro h
  have hone : InOneCluster threeCopies (copiesRecord "b" "c").memberEntityIds := by
    unfold InOneCluster
    decide +kernel
  have hraised : escalatingSignals (copiesRecord "b" "c") copiesIndex.edges [] [] = [] := by
    unfold copiesRecord copiesIndex
    rw [duplicateIndex_edges]
    exact escalatingSignals_duplicateIndex (fun edge hedge => edgeType_of_built hedge) rfl rfl
  have hcount := (h.deescalates (by decide +kernel) hone hraised).1
  have hapart : ∀ cluster ∈ clusterRelations threeCopies,
      cluster.representativeId ∉ (copiesCandidate "b" "c").memberArtifactIds.dedup := by
    decide +kernel
  rw [internalExactDuplicateCount_eq, internalPairs_eq_zero copiesIndex_edges hapart] at hcount
  omega

end ConstellationTopology
