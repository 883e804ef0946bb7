import ConstellationTopology.Library.JsonText
import ConstellationTopology.Topology.BridgeGaps
import Mathlib.Algebra.BigOperators.Group.List.Lemmas
import Mathlib.Algebra.GroupWithZero.Nat

set_option autoImplicit false

/-! # The rules of the bridge gaps

What the projection reports is what its rules say (`mem_bridgeGaps_iff`), one gap for a subject at
most. A rule sees of the edges only those that come in at the subject and those other than consuming
ones that go out of it, so a consuming edge ends the gap of its target and changes no other. -/

namespace ConstellationTopology

/-! ## The rules -/

/-- An edge of one of the types comes in at the subject. -/
def Incoming (edges : List EdgeRecord) (edgeTypes : List EdgeType) (subjectId : String) : Prop :=
  ∃ edge ∈ edges, edge.targetId = subjectId ∧ edge.edgeType ∈ edgeTypes

/-- An edge of one of the types goes out of the subject. -/
def Outgoing (edges : List EdgeRecord) (edgeTypes : List EdgeType) (subjectId : String) : Prop :=
  ∃ edge ∈ edges, edge.sourceId = subjectId ∧ edge.edgeType ∈ edgeTypes

/-- Something consumes the subject. -/
def Consumed (edges : List EdgeRecord) (subjectId : String) : Prop :=
  Incoming edges [.consumes] subjectId

/-- Something implements the capability. -/
def Implemented (edges : List EdgeRecord) (capability : CapabilityRecord) : Prop :=
  capability.implementedBy ≠ [] ∨ Incoming edges [.implements] capability.capabilityId

/-- Something exposes the capability. -/
def Exposed (edges : List EdgeRecord) (capability : CapabilityRecord) : Prop :=
  capability.exposedBy ≠ [] ∨ Incoming edges [.exposes, .routesTo] capability.capabilityId ∨
    Outgoing edges [.routesTo] capability.capabilityId

/-- The gap that a rule finds at a capability. -/
inductive CapabilityRule (edges : List EdgeRecord) (capability : CapabilityRecord) :
    BridgeGapType → Prop
  | builtUnreachable (hconsumed : ¬ Consumed edges capability.capabilityId)
      (himplemented : Implemented edges capability) (hexposed : ¬ Exposed edges capability) :
      CapabilityRule edges capability .builtUnreachable
  | exposedUnconsumed (hconsumed : ¬ Consumed edges capability.capabilityId)
      (hexposed : Exposed edges capability) :
      CapabilityRule edges capability .exposedUnconsumed

/-- The gap that a rule finds at a subject. -/
inductive GapRule (edges : List EdgeRecord) (capabilities : List CapabilityRecord) :
    String → BridgeGapType → Prop
  | capability {capability : CapabilityRecord} {gapType : BridgeGapType}
      (hmem : capability ∈ capabilities) (hrule : CapabilityRule edges capability gapType) :
      GapRule edges capabilities capability.capabilityId gapType
  | orphanOutput {subjectId : String}
      (houtput : subjectId ∉ capabilities.map CapabilityRecord.capabilityId)
      (hproduced : Incoming edges [.produces] subjectId) (hconsumed : ¬ Consumed edges subjectId) :
      GapRule edges capabilities subjectId .orphanOutput

/-! ## What the projection reads -/

section Edges

variable {edges : List EdgeRecord} {edgeTypes : List EdgeType} {subjectId : String}

theorem ofType_incoming_ne_nil :
    ofType (incomingEdges edges subjectId) edgeTypes ≠ [] ↔ Incoming edges edgeTypes subjectId := by
  rw [ne_eq, List.eq_nil_iff_forall_not_mem]
  simp [ofType, incomingEdges, Incoming, and_assoc]

theorem ofType_outgoing_ne_nil :
    ofType (outgoingEdges edges subjectId) edgeTypes ≠ [] ↔ Outgoing edges edgeTypes subjectId := by
  rw [ne_eq, List.eq_nil_iff_forall_not_mem]
  simp [ofType, outgoingEdges, Outgoing, and_assoc]

/-- What the gaps of a subject see of two lists of edges is the same. -/
structure SameAt (edges edges' : List EdgeRecord) (subjectId : String) : Prop where
  incoming : (edges.filter fun edge => edge.targetId = subjectId).Perm
    (edges'.filter fun edge => edge.targetId = subjectId)
  outgoing : (edges.filter fun edge => edge.sourceId = subjectId ∧ edge.edgeType ≠ .consumes).Perm
    (edges'.filter fun edge => edge.sourceId = subjectId ∧ edge.edgeType ≠ .consumes)

variable {edges' : List EdgeRecord}

theorem SameAt.of_perm (h : edges.Perm edges') : SameAt edges edges' subjectId :=
  ⟨h.filter _, h.filter _⟩

/-- A consuming edge is seen at its target alone. -/
theorem SameAt.of_consuming {edge : EdgeRecord} (htype : edge.edgeType = .consumes)
    (htarget : edge.targetId ≠ subjectId) : SameAt edges (edge :: edges) subjectId := by
  constructor
  · rw [List.filter_cons_of_neg (by simpa using htarget)]
  · rw [List.filter_cons_of_neg (by simp [htype])]

theorem SameAt.trans {edges'' : List EdgeRecord} (h : SameAt edges edges' subjectId)
    (h' : SameAt edges' edges'' subjectId) : SameAt edges edges'' subjectId :=
  ⟨h.incoming.trans h'.incoming, h.outgoing.trans h'.outgoing⟩

theorem SameAt.ofType_incoming (h : SameAt edges edges' subjectId) (edgeTypes : List EdgeType) :
    (ofType (incomingEdges edges subjectId) edgeTypes).Perm
      (ofType (incomingEdges edges' subjectId) edgeTypes) :=
  (((sortedBy_perm _ _).trans h.incoming).trans (sortedBy_perm _ _).symm).filter _

theorem SameAt.ofType_outgoing (h : SameAt edges edges' subjectId) {edgeTypes : List EdgeType}
    (htypes : .consumes ∉ edgeTypes) :
    (ofType (outgoingEdges edges subjectId) edgeTypes).Perm
      (ofType (outgoingEdges edges' subjectId) edgeTypes) := by
  -- a type other than the consuming one is asked for, so leaving that one out changes nothing
  have hdrop (es : List EdgeRecord) : (ofType (outgoingEdges es subjectId) edgeTypes).Perm
      (ofType (es.filter fun edge => edge.sourceId = subjectId ∧ edge.edgeType ≠ .consumes)
        edgeTypes) := by
    refine ((sortedBy_perm _ _).filter _).trans (List.Perm.of_eq ?_)
    rw [ofType, List.filter_filter, List.filter_filter]
    refine List.filter_congr fun edge _ => ?_
    by_cases hmem : edge.edgeType ∈ edgeTypes
    · have hne : edge.edgeType ≠ .consumes := fun heq => htypes (heq ▸ hmem)
      simp [hne]
    · simp [hmem]
  exact (hdrop edges).trans ((h.outgoing.filter _).trans (hdrop edges').symm)

end Edges

theorem perm_nil_iff {α : Type*} {xs ys : List α} (h : xs.Perm ys) : xs = [] ↔ ys = [] := by
  rw [← List.length_eq_zero_iff, h.length_eq, List.length_eq_zero_iff]

section Groups

variable {groups groups' : List (List EdgeRecord)} {direct : List String}

theorem edgeEvidence_perm (h : List.Forall₂ List.Perm groups groups') :
    edgeEvidence groups direct = edgeEvidence groups' direct :=
  sortedSet_perm (((List.Perm.flatten_congr h).flatMap_right _).append_left _)

theorem gapConfidence_perm (h : List.Forall₂ List.Perm groups groups') :
    gapConfidence groups direct = gapConfidence groups' direct := by
  rw [gapConfidence, gapConfidence, edgeEvidence_perm h, (List.Perm.flatten_congr h).length_eq]

end Groups

/-! ## One subject -/

section Subject

variable {c : Codec} {intents : String → ActivationIntent} {edges edges' : List EdgeRecord}
  {capability : CapabilityRecord} {subjectId : String}

theorem capabilityGap_congr (h : SameAt edges edges' capability.capabilityId) :
    capabilityGap c intents edges capability = capabilityGap c intents edges' capability := by
  have himplements := h.ofType_incoming [.implements]
  have hvalidatedIn := h.ofType_incoming [.validatedBy]
  have hvalidatedOut :=
    h.ofType_outgoing (show EdgeType.consumes ∉ [EdgeType.validatedBy] by decide)
  have hexposure := h.ofType_incoming [.exposes, .routesTo]
  have hrouted := h.ofType_outgoing (show EdgeType.consumes ∉ [EdgeType.routesTo] by decide)
  have himplementers := sortedSet_perm
    ((himplements.map EdgeRecord.sourceId).append_left capability.implementedBy)
  have hvalidators := sortedSet_perm
    (((hvalidatedIn.map EdgeRecord.sourceId).append_left capability.validatedBy).append
      (hvalidatedOut.map EdgeRecord.targetId))
  have hexposers := sortedSet_perm
    (((hexposure.map EdgeRecord.sourceId).append_left capability.exposedBy).append
      (hrouted.map EdgeRecord.targetId))
  have hconsumers := sortedSet_perm ((h.ofType_incoming [.consumes]).map EdgeRecord.sourceId)
  have hbuilt := List.Forall₂.cons himplements (.cons (hvalidatedIn.append hvalidatedOut) .nil)
  have hshown := List.Forall₂.cons hexposure (.cons hrouted .nil)
  unfold capabilityGap
  simp only [himplementers, hvalidators, hexposers, hconsumers, edgeEvidence_perm hbuilt,
    gapConfidence_perm hbuilt, edgeEvidence_perm hshown, gapConfidence_perm hshown]

theorem outputGap_congr (h : SameAt edges edges' subjectId) :
    outputGap c intents edges subjectId = outputGap c intents edges' subjectId := by
  have hproduced := h.ofType_incoming [.produces]
  have hproducers := sortedSet_perm (hproduced.map EdgeRecord.sourceId)
  have hflat := List.Forall₂.cons hproduced .nil
  have hnone : ofType (incomingEdges edges subjectId) [.produces] = [] ↔
      ofType (incomingEdges edges' subjectId) [.produces] = [] := perm_nil_iff hproduced
  have hconsumed : ofType (incomingEdges edges subjectId) [.consumes] = [] ↔
      ofType (incomingEdges edges' subjectId) [.consumes] = [] :=
    perm_nil_iff (h.ofType_incoming [.consumes])
  unfold outputGap
  simp only [hproducers, hnone, hconsumed, ne_eq, edgeEvidence_perm hflat, gapConfidence_perm hflat]

/-- A gap stands for its subject under the identity of its kind. -/
structure GapStands (c : Codec) (subjectId : String) (gap : BridgeGapRecord) : Prop where
  subject : gap.subjectId = subjectId
  identity : gap.bridgeGapId = c.stableId "bridge-gap" (gapIdentity subjectId gap.gapType)

theorem consumers_ne_nil :
    sortedSet ((ofType (incomingEdges edges capability.capabilityId) [.consumes]).map
      EdgeRecord.sourceId) ≠ [] ↔ Consumed edges capability.capabilityId := by
  rw [ne_eq, sortedSet_eq_nil_iff, List.map_eq_nil_iff]
  exact ofType_incoming_ne_nil

theorem implementers_ne_nil :
    sortedSet (capability.implementedBy ++
      (ofType (incomingEdges edges capability.capabilityId) [.implements]).map
        EdgeRecord.sourceId) ≠ [] ↔ Implemented edges capability := by
  rw [ne_eq, sortedSet_eq_nil_iff, List.append_eq_nil_iff, List.map_eq_nil_iff, not_and_or,
    ← ne_eq, ← ne_eq, ofType_incoming_ne_nil]
  rfl

theorem exposers_ne_nil :
    sortedSet (capability.exposedBy ++
      (ofType (incomingEdges edges capability.capabilityId) [.exposes, .routesTo]).map
        EdgeRecord.sourceId ++
      (ofType (outgoingEdges edges capability.capabilityId) [.routesTo]).map
        EdgeRecord.targetId) ≠ [] ↔ Exposed edges capability := by
  rw [ne_eq, sortedSet_eq_nil_iff, List.append_eq_nil_iff, List.append_eq_nil_iff,
    List.map_eq_nil_iff, List.map_eq_nil_iff, not_and_or, not_and_or, ← ne_eq, ← ne_eq, ← ne_eq,
    ofType_incoming_ne_nil, ofType_outgoing_ne_nil, or_assoc]
  rfl

/-- A capability has the gap that a rule finds, or no rule finds one. -/
theorem capabilityGap_cases (c : Codec) (intents : String → ActivationIntent)
    (edges : List EdgeRecord) (capability : CapabilityRecord) :
    (capabilityGap c intents edges capability = none ∧
        ∀ gapType, ¬ CapabilityRule edges capability gapType) ∨
      ∃ gap, capabilityGap c intents edges capability = some gap ∧
        GapStands c capability.capabilityId gap ∧ CapabilityRule edges capability gap.gapType := by
  unfold capabilityGap
  by_cases hconsumed : Consumed edges capability.capabilityId
  · rw [if_pos (consumers_ne_nil.2 hconsumed)]
    refine .inl ⟨rfl, fun gapType hrule => ?_⟩
    cases hrule with
    | builtUnreachable hconsumed' => exact hconsumed' hconsumed
    | exposedUnconsumed hconsumed' => exact hconsumed' hconsumed
  rw [if_neg (mt consumers_ne_nil.1 hconsumed)]
  by_cases hexposed : Exposed edges capability
  · rw [if_neg fun h => exposers_ne_nil.2 hexposed h.2, if_pos (exposers_ne_nil.2 hexposed)]
    exact .inr ⟨_, rfl, ⟨rfl, rfl⟩, .exposedUnconsumed hconsumed hexposed⟩
  have hexposers := not_not.1 (mt exposers_ne_nil.1 hexposed)
  by_cases himplemented : Implemented edges capability
  · rw [if_pos ⟨implementers_ne_nil.2 himplemented, hexposers⟩]
    exact .inr ⟨_, rfl, ⟨rfl, rfl⟩, .builtUnreachable hconsumed himplemented hexposed⟩
  · rw [if_neg fun h => himplemented (implementers_ne_nil.1 h.1), if_neg (not_not.2 hexposers)]
    refine .inl ⟨rfl, fun gapType hrule => ?_⟩
    cases hrule with
    | builtUnreachable _ himplemented' => exact himplemented himplemented'
    | exposedUnconsumed _ hexposed' => exact hexposed hexposed'

/-- A subject that is no capability has the gap of an output, or it is not produced or consumed. -/
theorem outputGap_cases (c : Codec) (intents : String → ActivationIntent)
    (edges : List EdgeRecord) (subjectId : String) :
    (outputGap c intents edges subjectId = none ∧
        (Incoming edges [.produces] subjectId → Consumed edges subjectId)) ∨
      ∃ gap, outputGap c intents edges subjectId = some gap ∧ GapStands c subjectId gap ∧
        gap.gapType = .orphanOutput ∧ Incoming edges [.produces] subjectId ∧
          ¬ Consumed edges subjectId := by
  unfold outputGap
  by_cases hproduced : Incoming edges [.produces] subjectId
  · rw [if_neg (ofType_incoming_ne_nil.2 hproduced)]
    by_cases hconsumed : Consumed edges subjectId
    · rw [if_pos (ofType_incoming_ne_nil.2 hconsumed)]
      exact .inl ⟨rfl, fun _ => hconsumed⟩
    · rw [if_neg (mt ofType_incoming_ne_nil.1 hconsumed)]
      exact .inr ⟨_, rfl, ⟨rfl, rfl⟩, rfl, hproduced, hconsumed⟩
  · rw [if_pos (not_not.1 (mt ofType_incoming_ne_nil.1 hproduced))]
    exact .inl ⟨rfl, fun h => absurd h hproduced⟩

theorem CapabilityRule.not_consumed {gapType : BridgeGapType}
    (h : CapabilityRule edges capability gapType) : ¬ Consumed edges capability.capabilityId := by
  cases h with
  | builtUnreachable hconsumed => exact hconsumed
  | exposedUnconsumed hconsumed => exact hconsumed

/-- The rules of a capability exclude each other. -/
theorem CapabilityRule.unique {gapType gapType' : BridgeGapType}
    (h : CapabilityRule edges capability gapType) (h' : CapabilityRule edges capability gapType') :
    gapType = gapType' := by
  cases h with
  | builtUnreachable _ _ hexposed =>
      cases h' with
      | builtUnreachable => rfl
      | exposedUnconsumed _ hexposed' => exact absurd hexposed' hexposed
  | exposedUnconsumed _ hexposed =>
      cases h' with
      | builtUnreachable _ _ hexposed' => exact absurd hexposed hexposed'
      | exposedUnconsumed => rfl

end Subject

/-! ## All subjects -/

section Whole

variable {c : Codec} {intents : String → ActivationIntent} {edges edges' : List EdgeRecord}
  {capabilities : List CapabilityRecord} {subjectId : String} {gap : BridgeGapRecord}

/-- The gap found at a subject. -/
def FoundAt (c : Codec) (intents : String → ActivationIntent) (edges : List EdgeRecord)
    (capabilities : List CapabilityRecord) (subjectId : String) (gap : BridgeGapRecord) : Prop :=
  (∃ capability ∈ capabilities, capability.capabilityId = subjectId ∧
      capabilityGap c intents edges capability = some gap) ∨
    (subjectId ∉ capabilities.map CapabilityRecord.capabilityId ∧
      outputGap c intents edges subjectId = some gap)

theorem capabilityGap_stands {capability : CapabilityRecord}
    (h : capabilityGap c intents edges capability = some gap) :
    GapStands c capability.capabilityId gap ∧ CapabilityRule edges capability gap.gapType := by
  rcases capabilityGap_cases c intents edges capability with ⟨hnone, -⟩ | ⟨gap', hgap', hstands⟩
  · rw [hnone] at h
    cases h
  · rw [hgap'] at h
    cases h
    exact hstands

theorem outputGap_stands (h : outputGap c intents edges subjectId = some gap) :
    GapStands c subjectId gap ∧ gap.gapType = .orphanOutput ∧
      Incoming edges [.produces] subjectId ∧ ¬ Consumed edges subjectId := by
  rcases outputGap_cases c intents edges subjectId with ⟨hnone, -⟩ | ⟨gap', hgap', hstands⟩
  · rw [hnone] at h
    cases h
  · rw [hgap'] at h
    cases h
    exact hstands

theorem FoundAt.stands (h : FoundAt c intents edges capabilities subjectId gap) :
    GapStands c subjectId gap := by
  rcases h with ⟨capability, -, rfl, hgap⟩ | ⟨-, hgap⟩
  · exact (capabilityGap_stands hgap).1
  · exact (outputGap_stands hgap).1

/-- A consumed subject has no gap. -/
theorem FoundAt.not_consumed (h : FoundAt c intents edges capabilities subjectId gap) :
    ¬ Consumed edges subjectId := by
  rcases h with ⟨capability, -, rfl, hgap⟩ | ⟨-, hgap⟩
  · exact (capabilityGap_stands hgap).2.not_consumed
  · exact (outputGap_stands hgap).2.2.2

/-- The gap of a subject is found in the edges that it sees. -/
theorem foundAt_congr (h : SameAt edges edges' subjectId) :
    FoundAt c intents edges capabilities subjectId gap ↔
      FoundAt c intents edges' capabilities subjectId gap := by
  refine or_congr (exists_congr fun capability => and_congr_right fun _ =>
    and_congr_right fun hid => ?_) ?_
  · rw [capabilityGap_congr (hid ▸ h)]
  · rw [outputGap_congr h]

theorem mem_outputGaps {excluded : List String} :
    gap ∈ outputGaps c intents edges capabilities excluded ↔
      ∃ subjectId, (subjectId ∉ capabilities.map CapabilityRecord.capabilityId ∧
        subjectId ∉ excluded) ∧ outputGap c intents edges subjectId = some gap := by
  unfold outputGaps
  rw [List.mem_filterMap]
  refine exists_congr fun subjectId => ?_
  rw [List.mem_filter, mem_sortedSet, decide_eq_true_iff]
  refine ⟨fun h => ⟨h.1.2, h.2⟩, fun h => ⟨⟨?_, h.1⟩, h.2⟩⟩
  -- a subject with a gap is produced, so an edge comes in at it
  obtain ⟨edge, hedge, htarget, -⟩ := (outputGap_stands h.2).2.2.1
  exact List.mem_map.2 ⟨edge, hedge, htarget⟩

theorem mem_capabilityGaps : gap ∈ capabilityGaps c intents edges capabilities ↔
    ∃ capability ∈ capabilities, capabilityGap c intents edges capability = some gap := by
  simp [capabilityGaps]

theorem mem_bridgeGaps : gap ∈ bridgeGaps c intents edges capabilities ↔
    FoundAt c intents edges capabilities gap.subjectId gap := by
  unfold bridgeGaps
  rw [mem_sortedBy, List.mem_append, mem_capabilityGaps, mem_outputGaps]
  refine or_congr (exists_congr fun capability => and_congr_right fun _ => ?_) ⟨?_, ?_⟩
  · exact ⟨fun h => ⟨(capabilityGap_stands h).1.subject.symm, h⟩, fun h => h.2⟩
  · intro h
    obtain ⟨subjectId, ⟨hcapability, -⟩, hgap⟩ := h
    rw [(outputGap_stands hgap).1.subject]
    exact ⟨hcapability, hgap⟩
  · intro h
    refine ⟨gap.subjectId, ⟨h.1, fun hexcluded => ?_⟩, h.2⟩
    -- only capabilities are excluded
    obtain ⟨gap', hgap', hsame⟩ := List.mem_map.1 hexcluded
    obtain ⟨capability, hmem, hfound⟩ := mem_capabilityGaps.1 hgap'
    refine h.1 (List.mem_map.2 ⟨capability, hmem, ?_⟩)
    rw [← (capabilityGap_stands hfound).1.subject, hsame]

/-- The gaps found at a subject are those of its rules. -/
theorem foundAt_rule (c : Codec) (intents : String → ActivationIntent) {gapType : BridgeGapType} :
    (∃ gap, FoundAt c intents edges capabilities subjectId gap ∧ gap.gapType = gapType) ↔
      GapRule edges capabilities subjectId gapType := by
  constructor
  · intro h
    obtain ⟨gap, hfound, rfl⟩ := h
    rcases hfound with ⟨capability, hmem, rfl, hgap⟩ | ⟨houtput, hgap⟩
    · exact .capability hmem (capabilityGap_stands hgap).2
    · obtain ⟨-, htype, hproduced, hconsumed⟩ := outputGap_stands hgap
      rw [htype]
      exact .orphanOutput houtput hproduced hconsumed
  · intro h
    cases h with
    | @capability capability _ hmem hrule =>
        rcases capabilityGap_cases c intents edges capability with
          ⟨-, hnone⟩ | ⟨gap, hgap, -, hrule'⟩
        · exact absurd hrule (hnone gapType)
        · exact ⟨gap, .inl ⟨capability, hmem, rfl, hgap⟩, hrule'.unique hrule⟩
    | orphanOutput houtput hproduced hconsumed =>
        rcases outputGap_cases c intents edges subjectId with ⟨-, hnone⟩ | ⟨gap, hgap, -, htype, -⟩
        · exact absurd (hnone hproduced) hconsumed
        · exact ⟨gap, .inr ⟨houtput, hgap⟩, htype⟩

theorem subjects_nodup (h : (capabilities.map CapabilityRecord.capabilityId).Nodup) :
    ((bridgeGaps c intents edges capabilities).map BridgeGapRecord.subjectId).Nodup := by
  unfold bridgeGaps
  rw [((sortedBy_perm _ _).map _).nodup_iff, List.map_append, List.nodup_append]
  refine ⟨?_, ?_, ?_⟩
  · refine List.Nodup.sublist (map_filterMap_sublist _ _ fun capability gap hgap =>
      (capabilityGap_stands hgap).1.subject) ?_
    exact ((sortedBy_perm _ _).map _).nodup_iff.2 h
  · refine List.Nodup.sublist (map_filterMap_sublist id _ fun subjectId gap hgap =>
      (outputGap_stands hgap).1.subject) ?_
    rw [List.map_id]
    exact (sortedSet_nodup _).filter _
  · intro subjectId hcapability subjectId' houtput heq
    subst heq
    obtain ⟨gap, hgap, rfl⟩ := List.mem_map.1 houtput
    obtain ⟨subjectId, ⟨-, hexcluded⟩, hgap⟩ := mem_outputGaps.1 hgap
    rw [(outputGap_stands hgap).1.subject] at hcapability
    exact hexcluded hcapability

/-- What is reported is fixed by the gaps found at the subjects. -/
theorem bridgeGaps_eq {gaps : List BridgeGapRecord}
    (h : (capabilities.map CapabilityRecord.capabilityId).Nodup)
    (hsorted : gaps.Pairwise fun a b =>
      toLex (a.gapType.value, a.subjectId) ≤ toLex (b.gapType.value, b.subjectId))
    (hnodup : (gaps.map BridgeGapRecord.subjectId).Nodup)
    (hmem : ∀ gap, gap ∈ gaps ↔ FoundAt c intents edges capabilities gap.subjectId gap) :
    bridgeGaps c intents edges capabilities = gaps := by
  have hkeys (gs : List BridgeGapRecord) (hgs : (gs.map BridgeGapRecord.subjectId).Nodup) :
      (gs.map fun gap => toLex (gap.gapType.value, gap.subjectId)).Nodup := by
    refine List.Nodup.of_map (fun key => (ofLex key).2) ?_
    rw [List.map_map]
    exact hgs
  refine eq_of_sorted_of_mem_iff (sortedBy_sorted _ _) hsorted (hkeys _ (subjects_nodup h))
    (hkeys _ hnodup) fun gap => ?_
  rw [mem_bridgeGaps, hmem]

theorem bridgeGaps_perm (h : (capabilities.map CapabilityRecord.capabilityId).Nodup)
    (hperm : edges'.Perm edges) :
    bridgeGaps c intents edges' capabilities = bridgeGaps c intents edges capabilities := by
  refine bridgeGaps_eq h (sortedBy_sorted _ _) (subjects_nodup h) fun gap => ?_
  rw [mem_bridgeGaps]
  exact foundAt_congr (.of_perm hperm.symm)

/-- A consuming edge takes the gap of its target away and leaves every other as it is. -/
theorem bridgeGaps_consuming (h : (capabilities.map CapabilityRecord.capabilityId).Nodup)
    {edge : EdgeRecord} (htype : edge.edgeType = .consumes) (hperm : edges'.Perm (edge :: edges)) :
    bridgeGaps c intents edges' capabilities =
      (bridgeGaps c intents edges capabilities).filter fun gap =>
        gap.subjectId ≠ edge.targetId := by
  refine bridgeGaps_eq h ((sortedBy_sorted _ _).filter _)
    ((subjects_nodup h).sublist (List.filter_sublist.map _)) fun gap => ?_
  rw [List.mem_filter, mem_bridgeGaps, decide_eq_true_iff]
  have hsame (hne : gap.subjectId ≠ edge.targetId) : SameAt edges edges' gap.subjectId :=
    (SameAt.of_consuming htype hne.symm).trans (.of_perm hperm.symm)
  constructor
  · intro hfound
    exact (foundAt_congr (hsame hfound.2)).1 hfound.1
  · intro hfound
    have hne : gap.subjectId ≠ edge.targetId := by
      intro heq
      refine hfound.not_consumed ⟨edge, hperm.mem_iff.2 List.mem_cons_self, heq.symm, ?_⟩
      rw [htype]
      exact List.mem_singleton_self _
    exact ⟨(foundAt_congr (hsame hne)).2 hfound, hne⟩

end Whole

/-! ## The projection -/

theorem sum_countsOf (values : List String) :
    ((countsOf values).map Prod.snd).sum = values.length := by
  rw [countsOf, List.map_map, ← List.sum_map_count_dedup_eq_length values]
  exact ((List.perm_insertionSort _ _).map _).sum_eq

/-- The id of a gap tells its subject. -/
theorem gapIdentity_inj {c : Codec} (hc : c.Faithful) {subjectId subjectId' : String}
    {gapType gapType' : BridgeGapType}
    (h : c.stableId "bridge-gap" (gapIdentity subjectId gapType) =
      c.stableId "bridge-gap" (gapIdentity subjectId' gapType')) : subjectId = subjectId' :=
  Json.str.inj (Json.field_of_semantic_eq ((hc.stableId_inj "bridge-gap").1 h) "subject_id" rfl rfl)

theorem gapIds_nodup {c : Codec} (hc : c.Faithful) {intents : String → ActivationIntent}
    {edges : List EdgeRecord} {capabilities : List CapabilityRecord}
    (h : (capabilities.map CapabilityRecord.capabilityId).Nodup) :
    ((bridgeGaps c intents edges capabilities).map BridgeGapRecord.bridgeGapId).Nodup := by
  have hsubjects : ((bridgeGaps c intents edges capabilities).map
      BridgeGapRecord.subjectId).Nodup := subjects_nodup h
  refine List.Nodup.map_on ?_ hsubjects.of_map
  intro gap hgap gap' hgap' hid
  rw [(mem_bridgeGaps.1 hgap).stands.identity, (mem_bridgeGaps.1 hgap').stands.identity] at hid
  exact List.inj_on_of_nodup_map hsubjects hgap hgap' (gapIdentity_inj hc hid)

/-- **Bridge gaps are exact.** A subject is reported with the gap that a rule finds at it, once and
under an id of its own; the counts sum up to the gaps. The order of the edges does not matter, and a
consuming edge takes away the gap of its target and no other. -/
theorem bridgeGaps_exact (c : Codec) (hc : c.Faithful) (state : TopologyState)
    (sourcePacketId sourceSemanticHash : String)
    (intentBySubject : List (String × ActivationIntent))
    (hcapabilities : (state.capabilityRecords.map CapabilityRecord.capabilityId).Nodup) :
    let project := fun edges => projectBridgeGaps c { state with edgeRecords := edges }
      sourcePacketId sourceSemanticHash intentBySubject
    let projection := project state.edgeRecords
    (∀ subjectId gapType,
      (∃ gap ∈ projection.gaps, gap.subjectId = subjectId ∧ gap.gapType = gapType) ↔
        GapRule state.edgeRecords state.capabilityRecords subjectId gapType) ∧
    (projection.gaps.map BridgeGapRecord.subjectId).Nodup ∧
    (projection.gaps.map BridgeGapRecord.bridgeGapId).Nodup ∧
    (projection.countsByType.map Prod.snd).sum = projection.gaps.length ∧
    (projection.countsByDisposition.map Prod.snd).sum = projection.gaps.length ∧
    (∀ edges', edges'.Perm state.edgeRecords → project edges' = projection) ∧
    ∀ edge : EdgeRecord, edge.edgeType = .consumes → ∀ edges',
      edges'.Perm (edge :: state.edgeRecords) →
        (project edges').gaps =
          projection.gaps.filter fun gap => gap.subjectId ≠ edge.targetId := by
  intro project projection
  refine ⟨?_, subjects_nodup hcapabilities, gapIds_nodup hc hcapabilities, ?_, ?_, ?_, ?_⟩
  · intro subjectId gapType
    rw [← foundAt_rule c (intentFor state intentBySubject)]
    refine exists_congr fun gap => ?_
    rw [← and_assoc]
    refine and_congr_left fun _ => ?_
    constructor
    · intro h
      exact h.2 ▸ mem_bridgeGaps.1 h.1
    · intro h
      have hid := h.stands.subject
      exact ⟨mem_bridgeGaps.2 (hid.symm ▸ h), hid⟩
  · exact (sum_countsOf _).trans (List.length_map _)
  · exact (sum_countsOf _).trans (List.length_map _)
  · intro edges' hperm
    show projectBridgeGaps c _ _ _ _ = projectBridgeGaps c _ _ _ _
    unfold projectBridgeGaps
    have hgaps : bridgeGaps c (intentFor state intentBySubject) edges' state.capabilityRecords =
        bridgeGaps c (intentFor state intentBySubject) state.edgeRecords state.capabilityRecords :=
      bridgeGaps_perm hcapabilities hperm
    have hintents : intentFor { state with edgeRecords := edges' } intentBySubject =
        intentFor state intentBySubject := rfl
    simp only [hintents, hgaps]
  · intro edge htype edges' hperm
    exact bridgeGaps_consuming hcapabilities htype hperm

/-- A capability that a repository implements, and a report that a repository produces. -/
def unreachedState : TopologyState where
  capabilityRecords := [{ capabilityId := "capability:search", name := "search", description := "",
                          implementedBy := ["repo:index"] }]
  edgeRecords := [{ edgeId := "edge:report", sourceId := "repo:index",
                    targetId := "artifact:report", edgeType := .produces }]

/-- The capability is unreachable and the report an orphan; each is one gap. -/
theorem bridgeGaps_exact_unreached :
    (∃ gap ∈ (projectBridgeGaps textCodec unreachedState "packet:1" "sha256:1").gaps,
        gap.subjectId = "capability:search" ∧ gap.gapType = .builtUnreachable) ∧
      (∃ gap ∈ (projectBridgeGaps textCodec unreachedState "packet:1" "sha256:1").gaps,
        gap.subjectId = "artifact:report" ∧ gap.gapType = .orphanOutput) ∧
      ((projectBridgeGaps textCodec unreachedState "packet:1" "sha256:1").gaps.map
        BridgeGapRecord.bridgeGapId).Nodup := by
  have hexact := bridgeGaps_exact textCodec textCodec_faithful unreachedState "packet:1" "sha256:1"
    [] (by decide)
  refine ⟨(hexact.1 _ _).2 ?_, (hexact.1 _ _).2 ?_, hexact.2.2.1⟩
  · refine .capability List.mem_cons_self (.builtUnreachable ?_ (.inl (by decide)) ?_)
    · simp [Consumed, Incoming, unreachedState]
    · simp [Exposed, Incoming, Outgoing, unreachedState]
  · refine .orphanOutput (by decide) ?_ ?_
    · simp [Incoming, unreachedState]
    · simp [Consumed, Incoming, unreachedState]

end ConstellationTopology
