import ConstellationTopology.Stages.StatementCitation
import ConstellationTopology.Validation.FindingIdentity

set_option autoImplicit false

/-! # When two findings collide

`compile_topology` concatenates what its stages report. The conflict ids are always distinct. Unknown
ids collide in three ways only: a producer repeats a diagnostic, a corpus packet is given twice, or
the evidence stage and the assertion stage find the same undecided values in a field that is also a
predicate without a rule (`findings_distinct_iff`). -/

namespace ConstellationTopology

/-! ## Shapes -/

section Shape

def dependencyShape : List Bool := (FindingKey.dependency "" "").shape

/-- The shape that two stages share. -/
def valuesShape : List Bool := (FindingKey.values "" "" []).shape

def declaredShape : List Bool := (FindingKey.declared ("", "", none)).shape

def notRunShape : List Bool := (FindingKey.notRun ("", "", "", "")).shape

def targetShape : List Bool := (FindingKey.target "" "" [] "").shape

def repositoryShape : List Bool := (FindingKey.repository "" "" []).shape

def capabilityShape : List Bool := (FindingKey.capability "" "" []).shape

variable {c : Codec} (hc : c.Faithful) {kind : String} {xs ys : List String}

/-- Every id is that of a key of the shape. -/
def Shaped (c : Codec) (kind : String) (P : List Bool → Prop) (ids : List String) : Prop :=
  ∀ id ∈ ids, ∃ key : FindingKey, P key.shape ∧ id = key.id c kind

theorem Shaped.append {P : List Bool → Prop} (hxs : Shaped c kind P xs) (hys : Shaped c kind P ys) :
    Shaped c kind P (xs ++ ys) := by
  intro id hid
  rcases List.mem_append.1 hid with hid | hid
  · exact hxs id hid
  · exact hys id hid

theorem Shaped.ne {shape shape' : List Bool} (hxs : Shaped c kind (· = shape) xs)
    (hne : shape ≠ shape') : Shaped c kind (· ≠ shape') xs := by
  intro id hid
  obtain ⟨key, hkey, heq⟩ := hxs id hid
  exact ⟨key, hkey ▸ hne, heq⟩

include hc

/-- Ids of different shapes are different, so only those of one shape need to be compared. -/
theorem nodup_append_of_shape {shape : List Bool} (hxs : Shaped c kind (· = shape) xs)
    (hys : Shaped c kind (· ≠ shape) ys) : (xs ++ ys).Nodup ↔ xs.Nodup ∧ ys.Nodup := by
  rw [List.nodup_append]
  refine ⟨fun h => ⟨h.1, h.2.1⟩, fun h => ⟨h.1, h.2, ?_⟩⟩
  intro x hx y hy heq
  obtain ⟨v, hv, rfl⟩ := hxs x hx
  obtain ⟨w, hw, rfl⟩ := hys y hy
  obtain rfl := FindingKey.id_injective hc kind heq
  exact hw hv

theorem nodup_ids_iff {keys : List FindingKey} :
    (keys.map (FindingKey.id c kind)).Nodup ↔ keys.Nodup :=
  List.nodup_map_iff (FindingKey.id_injective hc kind)

omit hc

theorem shaped_map {keys : List FindingKey} {P : List Bool → Prop} (h : ∀ key ∈ keys, P key.shape) :
    Shaped c kind P (keys.map (FindingKey.id c kind)) := by
  intro id hid
  obtain ⟨key, hkey, rfl⟩ := List.mem_map.1 hid
  exact ⟨key, h key hkey, rfl⟩

end Shape

/-! ## The keys of each stage -/

section Keys

variable (c : Codec) (text : PythonText)

/-- The unresolved dependencies. -/
def dependencyKeys (records : List RepositoryRecord) : List FindingKey :=
  (AggregateRepositories.mergedRecords records).flatMap fun record =>
    (AggregateRepositories.unresolved text.lower (AggregateRepositories.mergedRecords records)
      record).map (.dependency record.repositoryId)

/-- The slots of the evidence pool that diverge under a cardinality. -/
def slotKeys (cardinality : Cardinality) (pool : List EvidenceRecord) : List FindingKey :=
  (ReconcileEvidence.divergentSlots c cardinality pool).map fun key =>
    .values (ofLex key).1 (ofLex key).2
      (ReconcileEvidence.slotValues c text.str (ReconcileEvidence.slotRecords pool key))

/-- The answers to a question. -/
def answers (statements : List SemanticInput) (question : String ×ₗ String) : List String :=
  groupObjects (groupOf SemanticInput.question question statements)

/-- The questions that pass a test, with their answers. -/
def questionKeys (test : String ×ₗ String → Prop) [DecidablePred test]
    (statements : List SemanticInput) : List FindingKey :=
  ((questions statements).filter test).map fun question =>
    .values (ofLex question).1 (ofLex question).2 (answers statements question)

/-- A question without a rule. -/
def Unruled (question : String ×ₗ String) : Prop :=
  predicateSupport (ofLex question).2 = .unsupported

instance : DecidablePred Unruled := fun _ => inferInstanceAs (Decidable (_ = _))

/-- A question with several answers where one is allowed. -/
def Contradicted (statements : List SemanticInput) (question : String ×ₗ String) : Prop :=
  Contradicts (predicateCardinality (ofLex question).2) (answers statements question)

instance (statements : List SemanticInput) : DecidablePred (Contradicted statements) :=
  fun _ => inferInstanceAs (Decidable (Contradicts _ _))

theorem repositoryUnknowns_ids (records : List RepositoryRecord) :
    (AggregateRepositories.unknowns c text.lower text.repr records).map UnknownRecord.unknownId =
      (dependencyKeys text records).map (FindingKey.id c "unknown") := by
  simp only [AggregateRepositories.unknowns, dependencyKeys, List.map_flatMap, List.map_map]
  rfl

theorem evidenceUnknowns_ids (pool : List EvidenceRecord) :
    (ReconcileEvidence.run c text.str pool).unknowns.map UnknownRecord.unknownId =
      (slotKeys c text .unknown pool).map (FindingKey.id c "unknown") := by
  simp only [ReconcileEvidence.run, slotKeys, List.map_map]
  rfl

theorem evidenceConflicts_ids (pool : List EvidenceRecord) :
    (ReconcileEvidence.run c text.str pool).conflicts.map ConflictRecord.conflictId =
      (slotKeys c text .single pool).map (FindingKey.id c "conflict") := by
  simp only [ReconcileEvidence.run, slotKeys, List.map_map]
  rfl

theorem declaredUnknowns_ids (diagnostics : List DiagnosticRecord) :
    ((DeriveUnknowns.run c text.str diagnostics).map UnknownRecord.unknownId).Perm
      (((DeriveUnknowns.declaredIdentities text.str diagnostics).map FindingKey.declared).map
        (FindingKey.id c "unknown")) := by
  refine ((sortedBy_perm _ _).map _).trans (List.Perm.of_eq ?_)
  simp only [DeriveUnknowns.declaredIdentities, List.map_filterMap, Option.map_map]
  rfl

theorem notRunUnknowns_ids (packets : List CorpusIntelligencePacket) :
    ((corpusDomainsNotRunUnknowns c text.repr packets).map UnknownRecord.unknownId).Perm
      ((((notRunStatements packets).map fun entry => notRunIdentity entry.1 entry.2).map
        FindingKey.notRun).map (FindingKey.id c "unknown")) := by
  refine ((sortedBy_perm _ _).map _).trans (List.Perm.of_eq ?_)
  simp only [List.map_map]
  rfl

theorem claimUnknowns_ids (statements : List SemanticInput) (evidence : List EvidenceRecord) :
    ((ReconcileAssertions.run c text.repr statements evidence).unknowns.map
        UnknownRecord.unknownId).Perm
      ((questionKeys Unruled statements).map (FindingKey.id c "unknown")) := by
  refine ((sortedBy_perm _ _).map _).trans (List.Perm.of_eq ?_)
  simp only [ReconcileAssertions.groups, List.flatMap_map, reconcileGroup]
  rw [flatMap_ite_singleton, questionKeys, List.map_map, List.map_map]
  rfl

theorem claimConflicts_ids (statements : List SemanticInput) (evidence : List EvidenceRecord) :
    ((ReconcileAssertions.run c text.repr statements evidence).conflicts.map
        ConflictRecord.conflictId).Perm
      ((questionKeys (Contradicted statements) statements).map (FindingKey.id c "conflict")) := by
  refine ((sortedBy_perm _ _).map _).trans (List.Perm.of_eq ?_)
  simp only [ReconcileAssertions.groups, List.flatMap_map, reconcileGroup, groupConflicts]
  rw [flatMap_ite_singleton, questionKeys, List.map_map, List.map_map]
  rfl

/-- The identifying fields on which the records of a repository differ. -/
def repositoryConflictKeys (records : List RepositoryRecord) : List FindingKey :=
  (AggregateRepositories.repositoryIds records).flatMap fun repositoryId =>
    (AggregateRepositories.identifyingFields.filter fun entry => isConflicting (some entry.1)
      (sortedSet ((groupOf RepositoryRecord.repositoryId repositoryId records).map entry.2))).map
        fun entry => .repository repositoryId entry.1
          (sortedSet ((groupOf RepositoryRecord.repositoryId repositoryId records).map entry.2))

theorem repositoryConflicts_ids (records : List RepositoryRecord) :
    (AggregateRepositories.conflicts c records).map ConflictRecord.conflictId =
      (repositoryConflictKeys records).map (FindingKey.id c "conflict") := by
  unfold AggregateRepositories.conflicts repositoryConflictKeys
  rw [List.map_flatMap, List.map_flatMap]
  refine congrArg (List.flatMap · _) (funext fun repositoryId => ?_)
  have hfields : AggregateRepositories.mergeConflicts c repositoryId
      (groupOf RepositoryRecord.repositoryId repositoryId records) = _ := flatMap_ite_singleton _
  rw [hfields, List.map_map, List.map_map]
  simp only [Bool.decide_eq_true]
  rfl

/-- The capabilities that are described in several ways. -/
def capabilityConflictKeys (records : List CapabilityRecord) : List FindingKey :=
  ((sortedSet (records.map CapabilityRecord.capabilityId)).filter fun capabilityId =>
    isConflicting (some "description") (sortedSet
      ((groupOf CapabilityRecord.capabilityId capabilityId records).map
        CapabilityRecord.description))).map fun capabilityId =>
    .capability capabilityId "description" (sortedSet
      ((groupOf CapabilityRecord.capabilityId capabilityId records).map
        CapabilityRecord.description))

theorem capabilityConflicts_ids (records : List CapabilityRecord) :
    (AggregateCapabilities.run c records).2.map ConflictRecord.conflictId =
      (capabilityConflictKeys records).map (FindingKey.id c "conflict") := by
  simp only [AggregateCapabilities.run, AggregateCapabilities.descriptionConflicts]
  rw [flatMap_ite_singleton, capabilityConflictKeys, List.map_map, List.map_map]
  simp only [Bool.decide_eq_true]
  rfl

end Keys

/-! ## Each stage says a thing once -/

section Once

variable {c : Codec} {text : PythonText}

theorem dependencyKeys_nodup (records : List RepositoryRecord) :
    (dependencyKeys text records).Nodup := by
  refine List.nodup_flatMap.2 ⟨fun record hrecord => ?_, ?_⟩
  · refine (AggregateRepositories.unresolved_nodup hrecord _ _).map ?_
    intro name name' heq
    exact (FindingKey.dependency.inj heq).2
  · have hids : ((AggregateRepositories.mergedRecords records).map
        RepositoryRecord.repositoryId).Nodup := by
      rw [AggregateRepositories.mergedRecords_ids]
      exact sortedSet_nodup _
    refine (List.pairwise_map.1 hids).imp fun hne key hkey hkey' => ?_
    obtain ⟨name, -, rfl⟩ := List.mem_map.1 hkey
    obtain ⟨name', -, heq⟩ := List.mem_map.1 hkey'
    exact hne (FindingKey.dependency.inj heq).1.symm

/-- Keys that name distinct slots are distinct. -/
theorem valueKeys_nodup {slots : List (String ×ₗ String)} (hslots : slots.Nodup)
    (found : String ×ₗ String → List String) :
    (slots.map fun slot => FindingKey.values (ofLex slot).1 (ofLex slot).2 (found slot)).Nodup := by
  refine hslots.map ?_
  intro slot slot' heq
  obtain ⟨hsubject, hfield, -⟩ := FindingKey.values.inj heq
  exact ofLex_inj.1 (Prod.ext hsubject hfield)

theorem slotKeys_nodup (cardinality : Cardinality) (pool : List EvidenceRecord) :
    (slotKeys c text cardinality pool).Nodup :=
  valueKeys_nodup ((sortedSet_nodup _).filter _) _

theorem questionKeys_nodup (test : String ×ₗ String → Prop) [DecidablePred test]
    (statements : List SemanticInput) : (questionKeys test statements).Nodup :=
  valueKeys_nodup ((sortedSet_nodup _).filter _) _

theorem repositoryConflictKeys_nodup (records : List RepositoryRecord) :
    (repositoryConflictKeys records).Nodup := by
  refine List.nodup_flatMap.2 ⟨fun repositoryId _ => ?_, ?_⟩
  · have hfields : (AggregateRepositories.identifyingFields.map Prod.fst).Nodup := by decide
    refine List.Nodup.map_on (fun entry hentry entry' hentry' heq => ?_) (hfields.of_map.filter _)
    exact List.inj_on_of_nodup_map hfields (List.mem_of_mem_filter hentry)
      (List.mem_of_mem_filter hentry') (FindingKey.repository.inj heq).2.1
  · refine (sortedSet_nodup _).imp fun hne key hkey hkey' => ?_
    obtain ⟨entry, -, rfl⟩ := List.mem_map.1 hkey
    obtain ⟨entry', -, heq⟩ := List.mem_map.1 hkey'
    exact hne (FindingKey.repository.inj heq).1.symm

theorem capabilityConflictKeys_nodup (records : List CapabilityRecord) :
    (capabilityConflictKeys records).Nodup := by
  refine ((sortedSet_nodup _).filter _).map ?_
  intro capabilityId capabilityId' heq
  exact (FindingKey.capability.inj heq).1

/-- The only unknown a work claim raises. -/
theorem workRelation_unknown {index : WorkTargetIndex} {claim : SemanticClaimRecord}
    {edgeType : EdgeType} {reverse : Bool} {unknown : UnknownRecord}
    (h : (workRelation c index claim edgeType reverse).unknown = some unknown) :
    ∃ found, unknown = ambiguousUnknown c claim found := by
  unfold workRelation at h
  split at h
  · cases h
  · next found _ =>
      split at h
      · cases h
      · exact ⟨found, (Option.some.inj h).symm⟩

theorem workUnknowns_nodup (claims : List SemanticClaimRecord) (artifacts : List ArtifactRecord) :
    ((projectWorkRelations c claims artifacts).unknowns.map UnknownRecord.unknownId).Nodup :=
  ((sortedBy_perm _ _).map _).nodup_iff.2 (Table.firstRows _ _).keys_nodup

end Once

/-! ## Each stage keeps to its shapes -/

section Shapes

variable (c : Codec) (text : PythonText)

theorem dependencies_shaped (records : List RepositoryRecord) :
    Shaped c "unknown" (· = dependencyShape)
      ((dependencyKeys text records).map (FindingKey.id c "unknown")) := by
  refine shaped_map fun key hkey => ?_
  obtain ⟨record, -, hkey⟩ := List.mem_flatMap.1 hkey
  obtain ⟨name, -, rfl⟩ := List.mem_map.1 hkey
  rfl

theorem declared_shaped (identities : List (String × String × Option String)) :
    Shaped c "unknown" (· = declaredShape)
      ((identities.map FindingKey.declared).map (FindingKey.id c "unknown")) := by
  refine shaped_map fun key hkey => ?_
  obtain ⟨identity, -, rfl⟩ := List.mem_map.1 hkey
  rfl

theorem notRun_shaped (identities : List (String × String × String × String)) :
    Shaped c "unknown" (· = notRunShape)
      ((identities.map FindingKey.notRun).map (FindingKey.id c "unknown")) := by
  refine shaped_map fun key hkey => ?_
  obtain ⟨identity, -, rfl⟩ := List.mem_map.1 hkey
  rfl

theorem values_shaped (kind : String) (cardinality : Cardinality) (pool : List EvidenceRecord)
    (test : String ×ₗ String → Prop) [DecidablePred test] (statements : List SemanticInput) :
    Shaped c kind (· = valuesShape) ((slotKeys c text cardinality pool
      ++ questionKeys test statements).map (FindingKey.id c kind)) := by
  refine shaped_map fun key hkey => ?_
  rcases List.mem_append.1 hkey with hkey | hkey
  · obtain ⟨slot, -, rfl⟩ := List.mem_map.1 hkey
    rfl
  · obtain ⟨question, -, rfl⟩ := List.mem_map.1 hkey
    rfl

theorem repositoryConflicts_shaped (records : List RepositoryRecord) :
    Shaped c "conflict" (· = repositoryShape)
      ((repositoryConflictKeys records).map (FindingKey.id c "conflict")) := by
  refine shaped_map fun key hkey => ?_
  obtain ⟨repositoryId, -, hkey⟩ := List.mem_flatMap.1 hkey
  obtain ⟨entry, -, rfl⟩ := List.mem_map.1 hkey
  rfl

theorem capabilityConflicts_shaped (records : List CapabilityRecord) :
    Shaped c "conflict" (· = capabilityShape)
      ((capabilityConflictKeys records).map (FindingKey.id c "conflict")) := by
  refine shaped_map fun key hkey => ?_
  obtain ⟨capabilityId, -, rfl⟩ := List.mem_map.1 hkey
  rfl

theorem workUnknowns_shaped (claims : List SemanticClaimRecord) (artifacts : List ArtifactRecord) :
    Shaped c "unknown" (· = targetShape) ((projectWorkRelations c claims artifacts).unknowns.map
      UnknownRecord.unknownId) := by
  intro unknownId hid
  obtain ⟨unknown, hunknown, rfl⟩ := List.mem_map.1 hid
  obtain ⟨claim, -, relation, hrelation, hsome⟩ := mem_work_unknowns hunknown
  obtain ⟨-, row, -, rfl⟩ := projectWorkClaim_eq_some.1 hrelation
  obtain ⟨found, rfl⟩ := workRelation_unknown hsome
  exact ⟨.target claim.subjectId claim.predicate (sortedBy id found) claim.object, rfl, rfl⟩

end Shapes

/-! ## Collisions -/

section Collision

variable {c : Codec} (hc : c.Faithful) (text : PythonText)

/-- When no two stages say the same thing, and no stage says it twice. -/
structure FindingsApart (c : Codec) (text : PythonText) (inputs : CompileInputs)
    (stages : CompiledStages) : Prop where
  /-- no diagnostic that declares an unknown is repeated -/
  declared : (DeriveUnknowns.declaredIdentities text.str stages.normalized.diagnostics).Nodup
  /-- no corpus packet states the same domain for the same reason as another of its id -/
  notRun : ((notRunStatements inputs.corpusPackets).map fun entry =>
    notRunIdentity entry.1 entry.2).Nodup
  /-- no question without a rule has the answers that stand undecided in the evidence -/
  slots : ∀ question ∈ questions stages.statements, Unruled question →
    question ∈ ReconcileEvidence.divergentSlots c .unknown stages.evidencePool →
      ReconcileEvidence.slotValues c text.str
        (ReconcileEvidence.slotRecords stages.evidencePool question) ≠
          answers stages.statements question

/-- The two stages that share a shape collide on a slot that is also a question. -/
theorem slotKeys_questionKeys_nodup_iff (pool : List EvidenceRecord)
    (statements : List SemanticInput) :
    (slotKeys c text .unknown pool ++ questionKeys Unruled statements).Nodup ↔
      ∀ question ∈ questions statements, Unruled question →
        question ∈ ReconcileEvidence.divergentSlots c .unknown pool →
          ReconcileEvidence.slotValues c text.str
            (ReconcileEvidence.slotRecords pool question) ≠ answers statements question := by
  rw [List.nodup_append]
  constructor
  · rintro ⟨-, -, hne⟩ question hquestion hunruled hslot heq
    refine hne _ (List.mem_map.2 ⟨question, hslot, rfl⟩) _ (List.mem_map.2 ⟨question, ?_, rfl⟩) ?_
    · exact List.mem_filter.2 ⟨hquestion, decide_eq_true hunruled⟩
    · rw [heq]
  · intro h
    refine ⟨slotKeys_nodup _ _, questionKeys_nodup _ _, ?_⟩
    intro key hkey key' hkey' heq
    obtain ⟨slot, hslot, rfl⟩ := List.mem_map.1 hkey
    obtain ⟨question, hmem, rfl⟩ := List.mem_map.1 hkey'
    obtain ⟨hquestion, hunruled⟩ := List.mem_filter.1 hmem
    obtain ⟨hsubject, hfield, hfound⟩ := FindingKey.values.inj heq
    obtain rfl : slot = question := ofLex_inj.1 (Prod.ext hsubject hfield)
    exact h slot hquestion (of_decide_eq_true hunruled) hslot hfound

/-- No field of one value is a predicate of one value. -/
theorem singleValued_not_predicate (field : String)
    (h : FieldCardinality.cardinalityOf field = .single) :
    predicateCardinality field ≠ .single := by
  have hfields : ∀ field ∈ FieldCardinality.singleValued,
      predicateCardinality field ≠ .single := by
    decide +kernel
  refine hfields field ?_
  unfold FieldCardinality.cardinalityOf at h
  split at h
  · cases h
  · split at h
    · assumption
    · cases h

theorem slotKeys_questionKeys_single_nodup (pool : List EvidenceRecord)
    (statements : List SemanticInput) :
    (slotKeys c text .single pool ++ questionKeys (Contradicted statements) statements).Nodup := by
  rw [List.nodup_append]
  refine ⟨slotKeys_nodup _ _, questionKeys_nodup _ _, ?_⟩
  intro key hkey key' hkey' heq
  obtain ⟨slot, hslot, rfl⟩ := List.mem_map.1 hkey
  obtain ⟨question, hmem, rfl⟩ := List.mem_map.1 hkey'
  obtain ⟨hsubject, hfield, -⟩ := FindingKey.values.inj heq
  obtain rfl : slot = question := ofLex_inj.1 (Prod.ext hsubject hfield)
  have hsingle := of_decide_eq_true (List.mem_filter.1 hslot).2
  have hcontradicted := of_decide_eq_true (List.mem_filter.1 hmem).2
  exact singleValued_not_predicate _ hsingle.2 hcontradicted.1

section Stages

variable (inputs : CompileInputs) (normalized : NormalizedInputs)
  (signalEvidence : List EvidenceRecord)

/-- The unknown ids, grouped by their shapes. -/
theorem unknowns_ids_perm :
    ((runStages c text inputs normalized signalEvidence).unknowns.map
        UnknownRecord.unknownId).Perm
      ((dependencyKeys text normalized.repositories).map (FindingKey.id c "unknown")
        ++ (((DeriveUnknowns.declaredIdentities text.str normalized.diagnostics).map
              FindingKey.declared).map (FindingKey.id c "unknown")
          ++ ((((notRunStatements inputs.corpusPackets).map fun entry =>
                notRunIdentity entry.1 entry.2).map FindingKey.notRun).map
                  (FindingKey.id c "unknown")
            ++ ((runStages c text inputs normalized signalEvidence).work.unknowns.map
                UnknownRecord.unknownId
              ++ (slotKeys c text .unknown (normalized.evidence ++ signalEvidence)
                ++ questionKeys Unruled (compiledInputs inputs.packets inputs.corpusPackets)).map
                  (FindingKey.id c "unknown"))))) := by
  have hdeclared := declaredUnknowns_ids c text normalized.diagnostics
  have hnotRun := notRunUnknowns_ids c text inputs.corpusPackets
  have hclaims := claimUnknowns_ids c text
    (compiledInputs inputs.packets inputs.corpusPackets)
    (ReconcileEvidence.run c text.str (normalized.evidence ++ signalEvidence)).evidence
  simp only [CompiledStages.unknowns, runStages, AggregateRepositories.run, List.map_append,
    repositoryUnknowns_ids, evidenceUnknowns_ids]
  refine (((((List.Perm.refl _).append hdeclared).append hnotRun).append hclaims).append
    (List.Perm.refl _)).trans ?_
  rw [List.perm_iff_count]
  intro id
  simp only [List.count_append]
  omega

theorem conflicts_ids_perm :
    ((runStages c text inputs normalized signalEvidence).conflicts.map
        ConflictRecord.conflictId).Perm
      ((repositoryConflictKeys normalized.repositories).map (FindingKey.id c "conflict")
        ++ ((capabilityConflictKeys
              (runStages c text inputs normalized signalEvidence).builtCapabilities).map
                (FindingKey.id c "conflict")
          ++ (slotKeys c text .single (normalized.evidence ++ signalEvidence)
            ++ questionKeys (Contradicted (compiledInputs inputs.packets inputs.corpusPackets))
              (compiledInputs inputs.packets inputs.corpusPackets)).map
                (FindingKey.id c "conflict"))) := by
  have hclaims := claimConflicts_ids c text
    (compiledInputs inputs.packets inputs.corpusPackets)
    (ReconcileEvidence.run c text.str (normalized.evidence ++ signalEvidence)).evidence
  have hcapabilities := capabilityConflicts_ids c
    (runStages c text inputs normalized signalEvidence).builtCapabilities
  have hstages : (runStages c text inputs normalized signalEvidence).conflicts =
      (ReconcileEvidence.run c text.str (normalized.evidence ++ signalEvidence)).conflicts
        ++ AggregateRepositories.conflicts c normalized.repositories
        ++ (AggregateCapabilities.run c
          (runStages c text inputs normalized signalEvidence).builtCapabilities).2
        ++ (runStages c text inputs normalized signalEvidence).reconciliation.conflicts := rfl
  rw [hstages, List.map_append, List.map_append, List.map_append, evidenceConflicts_ids,
    repositoryConflicts_ids, hcapabilities, List.map_append]
  refine ((List.Perm.refl _).append hclaims).trans ?_
  rw [List.perm_iff_count]
  intro id
  simp only [List.count_append]
  omega

include hc

/-- Unknown ids collide only where one stage repeats itself or two share a shape. -/
theorem unknowns_ids_nodup_iff :
    ((runStages c text inputs normalized signalEvidence).unknowns.map
        UnknownRecord.unknownId).Nodup ↔
      FindingsApart c text inputs (runStages c text inputs normalized signalEvidence) := by
  have hdependencies := dependencies_shaped c text normalized.repositories
  have hdeclared := declared_shaped c
    (DeriveUnknowns.declaredIdentities text.str normalized.diagnostics)
  have hnotRun := notRun_shaped c
    ((notRunStatements inputs.corpusPackets).map fun entry => notRunIdentity entry.1 entry.2)
  have hwork : Shaped c "unknown" (· = targetShape)
      ((runStages c text inputs normalized signalEvidence).work.unknowns.map
        UnknownRecord.unknownId) := workUnknowns_shaped c _ _
  have hvalues := values_shaped c text "unknown" .unknown
    (normalized.evidence ++ signalEvidence) Unruled
    (compiledInputs inputs.packets inputs.corpusPackets)
  have hafterWork := hvalues.ne (show valuesShape ≠ targetShape by decide)
  have hafterNotRun := (hwork.ne (show targetShape ≠ notRunShape by decide)).append
    (hvalues.ne (show valuesShape ≠ notRunShape by decide))
  have hafterDeclared := (hnotRun.ne (show notRunShape ≠ declaredShape by decide)).append
    ((hwork.ne (show targetShape ≠ declaredShape by decide)).append
      (hvalues.ne (show valuesShape ≠ declaredShape by decide)))
  have hafterDependencies := (hdeclared.ne (show declaredShape ≠ dependencyShape by decide)).append
    ((hnotRun.ne (show notRunShape ≠ dependencyShape by decide)).append
      ((hwork.ne (show targetShape ≠ dependencyShape by decide)).append
        (hvalues.ne (show valuesShape ≠ dependencyShape by decide))))
  rw [(unknowns_ids_perm text inputs normalized signalEvidence).nodup_iff,
    nodup_append_of_shape hc hdependencies hafterDependencies,
    nodup_append_of_shape hc hdeclared hafterDeclared,
    nodup_append_of_shape hc hnotRun hafterNotRun, nodup_append_of_shape hc hwork hafterWork,
    nodup_ids_iff hc, nodup_ids_iff hc, nodup_ids_iff hc, nodup_ids_iff hc,
    List.nodup_map_iff fun _ _ => FindingKey.declared.inj,
    List.nodup_map_iff fun _ _ => FindingKey.notRun.inj, slotKeys_questionKeys_nodup_iff]
  constructor
  · rintro ⟨-, hd, hn, -, hs⟩
    exact ⟨hd, hn, hs⟩
  · intro h
    exact ⟨dependencyKeys_nodup _, h.declared, h.notRun, workUnknowns_nodup _ _, h.slots⟩

/-- Conflict ids never collide. -/
theorem conflicts_ids_nodup :
    ((runStages c text inputs normalized signalEvidence).conflicts.map
        ConflictRecord.conflictId).Nodup := by
  have hrepositories := repositoryConflicts_shaped c normalized.repositories
  have hvalues := values_shaped c text "conflict" .single
    (normalized.evidence ++ signalEvidence)
    (Contradicted (compiledInputs inputs.packets inputs.corpusPackets))
    (compiledInputs inputs.packets inputs.corpusPackets)
  have hcapabilities := capabilityConflicts_shaped c
    (runStages c text inputs normalized signalEvidence).builtCapabilities
  have hafterCapabilities := hvalues.ne (show valuesShape ≠ capabilityShape by decide)
  have hafterRepositories :=
    (hcapabilities.ne (show capabilityShape ≠ repositoryShape by decide)).append
      (hvalues.ne (show valuesShape ≠ repositoryShape by decide))
  rw [(conflicts_ids_perm text inputs normalized signalEvidence).nodup_iff,
    nodup_append_of_shape hc hrepositories hafterRepositories,
    nodup_append_of_shape hc hcapabilities hafterCapabilities, nodup_ids_iff hc, nodup_ids_iff hc,
    nodup_ids_iff hc]
  exact ⟨repositoryConflictKeys_nodup _, capabilityConflictKeys_nodup _,
    slotKeys_questionKeys_single_nodup text _ _⟩

end Stages

include hc in
/-- **Findings.** The unknown ids and the conflict ids of a compilation are distinct exactly when no
    two stages said the same thing and no stage said it twice. -/
theorem findings_distinct_iff (inputs : CompileInputs) (stages : CompiledStages)
    (h : compileStages c text inputs = .ok stages) :
    ((stages.unknowns.map UnknownRecord.unknownId).Nodup ∧
        (stages.conflicts.map ConflictRecord.conflictId).Nodup) ↔
      FindingsApart c text inputs stages := by
  obtain ⟨normalized, -, signalEvidence, -, rfl⟩ := (compileStages_eq_ok c text).1 h
  rw [unknowns_ids_nodup_iff hc]
  exact and_iff_left (conflicts_ids_nodup hc text inputs normalized signalEvidence.flatten)

end Collision

/-! ## One field in two stages -/

/-- A repository's own record of a flag. -/
def flagEvidence (evidenceId value : String) : EvidenceRecord where
  evidenceId := evidenceId
  subjectId := "repo:a"
  field := some "custom.flag"
  stage := "scan"
  evidenceClass := .observed
  sourceType := .packet
  sourceRef := packetSourceRef "packet:1" none none
  value := .str value
  confidence := .unknown
  producer := "repo-model"
  producerVersion := "1.0.0"
  createdAt := ⟨"1970-01-01T00:00:00Z"⟩

/-- The two records of a flag that was seen on and off. -/
def flagRecords : List EvidenceRecord :=
  [flagEvidence "observation:on" "on", flagEvidence "observation:off" "off"]

/-- What a settings file declares of the same flag. -/
def flagAssertion (assertionId value : String) : RepositoryModelAssertion where
  assertionId := assertionId
  subjectId := "repo:a"
  predicate := "custom.flag"
  object := value
  sourcePath := "settings.ini"
  startLine := 1
  endLine := 1
  evidenceExcerpt := "flag = " ++ value
  sourceContentHash := "sha256:11"
  extractorId := "settings"
  evidenceClass := .declared
  authority := "source"
  confidence := "high"
  startLine_positive := Nat.one_pos
  endLine_positive := Nat.one_pos

/-- A packet that carries the records, and the assertions given. -/
def flagPacket (assertions : List RepositoryModelAssertion) : RepositoryModelPacket where
  packetId := "packet:1"
  repositoryId := "repo:a"
  revision := "r1"
  snapshotHash := "sha256:snapshot"
  producer := ⟨"repo-model", "1.0.0"⟩
  profile := ⟨"repo-model", "1.0.0", "sha256:profile"⟩
  schemaHash := "sha256:schema"
  semanticHash := "sha256:pending"
  payload := some { evidence := flagRecords, assertions := some assertions }

theorem flagPacket_accepted (assertions : List RepositoryModelAssertion) :
    RepositoryModelV1Adapter.Accepts textCodec ((flagPacket assertions).identified textCodec) :=
  RepositoryModelPacket.accepts_identified textCodec (List.mem_cons_of_mem _ List.mem_cons_self) rfl
    (show "r1" ≠ "" by decide) rfl

def flagInputs (assertions : List RepositoryModelAssertion) : CompileInputs where
  packets := [(flagPacket assertions).identified textCodec]

/-- The flag in the evidence alone is reported once. -/
theorem findings_distinct_flag :
    ∃ stages, compileStages textCodec plainText (flagInputs []) = .ok stages ∧
      (stages.unknowns.map UnknownRecord.unknownId).Nodup ∧
        (stages.conflicts.map ConflictRecord.conflictId).Nodup := by
  have hcompile : compileStages textCodec plainText (flagInputs []) =
      .ok (runStages textCodec plainText (flagInputs []) { evidence := flagRecords } []) :=
    (compileStages_eq_ok _ _).2 ⟨_, normalizeModels_eq_ok.2
      ⟨List.forall_mem_singleton.2 (flagPacket_accepted []), [flagRecords], rfl, rfl⟩, [], rfl, rfl⟩
  refine ⟨_, hcompile, ?_⟩
  refine (findings_distinct_iff textCodec_faithful plainText (flagInputs []) _ hcompile).2
    ⟨?_, ?_, ?_⟩
  · exact List.nodup_nil
  · exact List.nodup_nil
  · intro question hquestion
    cases mem_sortedSet.1 hquestion

/-- What is declared of the flag. -/
def flagAssertions : List RepositoryModelAssertion :=
  [flagAssertion "assertion:1" "on", flagAssertion "assertion:2" "off"]

/-- The flag is a slot that stands undecided, whatever the evidence of its assertions is. -/
theorem flag_undecided {statements : List EvidenceRecord}
    (hstage : ∀ record ∈ statements, record.stage ∈ statementEvidenceStages)
    (hids : ∀ record ∈ statements, ∀ other ∈ flagRecords, other.evidenceId ≠ record.evidenceId) :
    toLex ("repo:a", "custom.flag") ∈
        ReconcileEvidence.divergentSlots textCodec .unknown (flagRecords ++ statements) ∧
      ReconcileEvidence.slotValues textCodec plainText.str (ReconcileEvidence.slotRecords
        (flagRecords ++ statements) (toLex ("repo:a", "custom.flag"))) = ["off", "on"] := by
  have hclassified : ReconcileEvidence.classified (flagRecords ++ statements) = flagRecords :=
    ReconcileEvidence.classified_append (by decide) (by decide) hstage hids
  have hrecords : ReconcileEvidence.slotRecords (flagRecords ++ statements)
      (toLex ("repo:a", "custom.flag")) = flagRecords := by
    unfold ReconcileEvidence.slotRecords
    rw [hclassified]
    rfl
  constructor
  · refine List.mem_filter.2 ⟨?_, ?_⟩
    · unfold ReconcileEvidence.slots
      rw [hclassified]
      decide
    · rw [hrecords]
      decide +kernel
  · rw [hrecords]
    decide +kernel

/-- The evidence built for an assertion of the flag takes the id of no other record. -/
theorem flagAssertion_evidence (assertionId value : String) :
    ∃ record, assertionEvidenceRecord textCodec ((flagPacket flagAssertions).identified textCodec)
        (flagAssertion assertionId value) = .ok record ∧
      record.stage ∈ statementEvidenceStages ∧
        ∀ other ∈ flagRecords, other.evidenceId ≠ record.evidenceId := by
  have hpath : normalizeSourcePath "settings.ini" = .ok "settings.ini" :=
    normalizeSourcePath_name (by simp) (by simp) (by simp) (by decide) (by decide) (by decide)
  obtain ⟨record, hrecord, -, sourceRef, -, hmake⟩ := assertionEvidenceRecord_spec textCodec
    ((flagPacket flagAssertions).identified textCodec) (flagAssertion assertionId value) hpath
  refine ⟨record, hrecord, by rw [hmake]; exact List.mem_cons_self, ?_⟩
  intro other hother heq
  have hfirst : ∀ other ∈ flagRecords, other.evidenceId.toList.head? = some 'o' := by decide
  have hhead := hfirst other hother
  rw [heq, hmake] at hhead
  simp [makeEvidenceRecord, Codec.stableId] at hhead

/-- The flag in the evidence and in the assertions gets one id twice. -/
theorem findings_collide_flag :
    ∃ stages, compileStages textCodec plainText (flagInputs flagAssertions) = .ok stages ∧
      ¬ (stages.unknowns.map UnknownRecord.unknownId).Nodup := by
  obtain ⟨first, hfirst, hstage, hids⟩ := flagAssertion_evidence "assertion:1" "on"
  obtain ⟨second, hsecond, hstage', hids'⟩ := flagAssertion_evidence "assertion:2" "off"
  have hcompile : compileStages textCodec plainText (flagInputs flagAssertions) =
      .ok (runStages textCodec plainText (flagInputs flagAssertions)
        { evidence := flagRecords ++ [first, second] } []) := by
    refine (compileStages_eq_ok _ _).2 ⟨_, ?_, [], rfl, rfl⟩
    have hrecords : flagAssertions.mapM (assertionEvidenceRecord textCodec
        ((flagPacket flagAssertions).identified textCodec)) = .ok [first, second] := by
      rw [mapM_eq_ok]
      exact .cons hfirst (.cons hsecond .nil)
    have hevidence : (flagInputs flagAssertions).packets.mapM (adaptedEvidence textCodec) =
        .ok [flagRecords ++ [first, second]] := by
      rw [mapM_eq_ok]
      refine .cons ?_ .nil
      exact bind_eq_ok.2 ⟨_, hrecords, rfl⟩
    exact normalizeModels_eq_ok.2 ⟨List.forall_mem_singleton.2 (flagPacket_accepted flagAssertions), _,
      hevidence, rfl⟩
  refine ⟨_, hcompile, fun hnodup => ?_⟩
  have hapart := (unknowns_ids_nodup_iff textCodec_faithful plainText _ _ _).1 hnodup
  have hstages : ∀ record ∈ [first, second], record.stage ∈ statementEvidenceStages := by
    simp [hstage, hstage']
  have hother : ∀ record ∈ [first, second], ∀ other ∈ flagRecords,
      other.evidenceId ≠ record.evidenceId := by
    simpa using ⟨hids, hids'⟩
  obtain ⟨hslot, hvalues⟩ := flag_undecided hstages hother
  refine hapart.slots (toLex ("repo:a", "custom.flag")) ?_ ?_ ?_ ?_
  · show _ ∈ questions (flagAssertions.map assertionSemanticInput)
    decide
  · show predicateSupport "custom.flag" = .unsupported
    decide +kernel
  · show _ ∈ ReconcileEvidence.divergentSlots _ _ (flagRecords ++ [first, second] ++ [])
    rwa [List.append_nil]
  · have hanswers : answers (flagAssertions.map assertionSemanticInput)
        (toLex ("repo:a", "custom.flag")) = ["off", "on"] := by
      decide
    show ReconcileEvidence.slotValues _ _
      (ReconcileEvidence.slotRecords (flagRecords ++ [first, second] ++ []) _) =
        answers (flagAssertions.map assertionSemanticInput) _
    rw [List.append_nil, hvalues, hanswers]

end ConstellationTopology
