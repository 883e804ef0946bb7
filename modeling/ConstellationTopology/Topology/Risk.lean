import ConstellationTopology.Library.JsonText
import ConstellationTopology.Run.SemanticFields
import ConstellationTopology.Stages.RepositoryLinks
import ConstellationTopology.Topology.Profile

set_option autoImplicit false

/-! # Risks

`topology/risk.py`: the rules of a profile against every repository, and one risk for each
dependency that resolved to none. Who a risk is about and what it cites is the repository's
(`mem_assessed_iff`), and the risks have distinct identities exactly if no repository triggers two
rules of one id and version (`risks_exact`). -/

namespace ConstellationTopology

/-- The severity a profile names, as the record's `Literal` admits it. -/
def RiskSeverity.ofText (value : String) : Except String RiskSeverity :=
  expect ([low, medium, high, critical].find? fun severity => severity.value = value)
    "ValidationError: severity"

section Assess

variable (c : Codec) (text : PythonText)

/-! ## Rules -/

/-- `triggered`. -/
def ruleTriggered (repository : RepositoryRecord) (rule : Json) : Except String Bool := do
  demand rule.isObject "AttributeError: get"
  let kind := text.str (rule.getD "kind" .null)
  if kind = "empty" then do
    let field ← profileKey "field" rule
    return !repository.carries (text.str field)
  else if kind = "confidence_below" then do
    let threshold ← ConfidenceLevel.ofText (text.str (rule.getD "threshold" (.str "medium")))
    return decide (repository.confidence.level.rank < threshold.rank)
  else return false

/-- The identity of the risk of a rule. -/
def ruleRiskIdentity (repositoryId : String) (id version : Json) : Json :=
  .obj [("subject", .str repositoryId), ("rule", id), ("version", version)]

/-- The risk of a rule that is triggered. -/
def ruleRisk (repository : RepositoryRecord) (rule : Json) : Except String RiskRecord := do
  let id ← profileKey "id" rule
  let version ← profileKey "version" rule
  let severity ← profileKey "severity" rule
  let category ← profileKey "category" rule
  let description ← profileKey "description" rule
  let severity ← RiskSeverity.ofText (text.str severity)
  return {
    riskId := c.stableId "risk" (ruleRiskIdentity repository.repositoryId id version)
    subjectId := repository.repositoryId
    severity := severity
    category := text.str category
    description := text.str description
    ruleId := text.str id
    ruleVersion := text.str version
    evidenceRefs := repository.evidenceRefs
    remediation := ((rule.get? "remediation").filter Json.truthy).map text.str }

/-- One turn of the loop over the rules. -/
def ruleRisks (repository : RepositoryRecord) (rule : Json) : Except String (List RiskRecord) := do
  let triggered ← ruleTriggered text repository rule
  if triggered then do
    let risk ← ruleRisk c text repository rule
    return [risk]
  else return []

/-! ## Dependencies -/

/-- The identity of the risk of a dependency. -/
def dependencyRiskIdentity (repositoryId dependency : String) : Json :=
  .obj [("subject", .str repositoryId), ("dependency", .str dependency)]

/-- The risk of a dependency that resolved to no repository. -/
def dependencyRisk (repository : RepositoryRecord) (dependency : String) : RiskRecord where
  riskId := c.stableId "risk" (dependencyRiskIdentity repository.repositoryId dependency)
  subjectId := repository.repositoryId
  severity := .medium
  category := "unresolved_dependency"
  description := "Dependency " ++ text.repr dependency
    ++ " does not resolve to an input repository."
  ruleId := "unresolved-dependency"
  ruleVersion := "1.0.0"
  evidenceRefs := repository.evidenceRefs
  remediation := some
    "Provide the missing Repository Model Packet or mark the dependency external."

/-! ## The register -/

/-- The risks of one repository. -/
def repositoryRisks (rules : List Json) (repository : RepositoryRecord) :
    Except String (List RiskRecord) := do
  let ruled ← rules.mapM (ruleRisks c text repository)
  return ruled.flatten ++ repository.unresolvedDependencies.map (dependencyRisk c text repository)

/-- `profile.get("rules", [])`. -/
def riskRules (profile : Json) : Except String (List Json) :=
  sequenceItems (profile.getD "rules" (.arr []))

/-- `assess_topology_risks`. -/
def assessTopologyRisks (repositories : List RepositoryRecord) (profile : Json) :
    Except String (List RiskRecord) := do
  let rules ← riskRules profile
  let risks ← repositories.mapM (repositoryRisks c text rules)
  return sortedBy RiskRecord.riskId risks.flatten

end Assess

/-! ## What is in the register -/

section Register

variable {c : Codec} {text : PythonText} {rules : List Json} {repository : RepositoryRecord}

/-- The rule raises the risk of the repository. -/
structure RuleRaises (c : Codec) (text : PythonText) (repository : RepositoryRecord) (rule : Json)
    (risk : RiskRecord) : Prop where
  triggered : ruleTriggered text repository rule = .ok true
  risk : ruleRisk c text repository rule = .ok risk

/-- The rules the repository triggers. -/
def triggeredRules (text : PythonText) (rules : List Json) (repository : RepositoryRecord) :
    List Json :=
  rules.filter fun rule =>
    match ruleTriggered text repository rule with
    | .ok triggered => triggered
    | .error _ => false

theorem ruleRisks_eq_ok {rule : Json} {risks : List RiskRecord}
    (h : ruleRisks c text repository rule = .ok risks) :
    (ruleTriggered text repository rule = .ok false ∧ risks = []) ∨
      ∃ risk, RuleRaises c text repository rule risk ∧ risks = [risk] := by
  unfold ruleRisks at h
  obtain ⟨triggered, htriggered, h⟩ := bind_eq_ok.1 h
  cases triggered with
  | false => exact .inl ⟨htriggered, (pure_eq_ok.1 h).symm⟩
  | true =>
      obtain ⟨risk, hrisk, h⟩ := bind_eq_ok.1 h
      exact .inr ⟨risk, ⟨htriggered, hrisk⟩, (pure_eq_ok.1 h).symm⟩

/-- What identifies the risk that a rule raises: the id and the version of the rule. -/
def ruleIdentity (rule : Json) : Json × Json :=
  ((rule.getD "id" .null).semantic, (rule.getD "version" .null).semantic)

theorem ruleRisk_fields {rule : Json} {risk : RiskRecord}
    (h : ruleRisk c text repository rule = .ok risk) :
    risk.riskId = c.stableId "risk" (ruleRiskIdentity repository.repositoryId
        (rule.getD "id" .null) (rule.getD "version" .null)) ∧
      risk.subjectId = repository.repositoryId ∧ risk.evidenceRefs = repository.evidenceRefs := by
  simp only [ruleRisk, bind_eq_ok, profileKey, expect_eq_ok, pure_eq_ok] at h
  obtain ⟨id, hid, version, hversion, _, _, _, _, _, _, _, _, rfl⟩ := h
  rw [Json.getD, Json.getD, hid, hversion]
  exact ⟨rfl, rfl, rfl⟩

/-- The risks of the rules bear the identities of the rules that are triggered, in their order. -/
theorem ruled_ids {ruled : List (List RiskRecord)}
    (h : List.Forall₂ (fun rule risks => ruleRisks c text repository rule = .ok risks) rules
      ruled) :
    ruled.flatten.map RiskRecord.riskId = (triggeredRules text rules repository).map fun rule =>
      c.stableId "risk" (ruleRiskIdentity repository.repositoryId (rule.getD "id" .null)
        (rule.getD "version" .null)) := by
  induction h with
  | nil => rfl
  | cons hrule _ ih =>
      rw [List.flatten_cons, List.map_append, ih, triggeredRules, triggeredRules, List.filter_cons]
      rcases ruleRisks_eq_ok hrule with ⟨hquiet, rfl⟩ | ⟨risk, hraises, rfl⟩
      · rw [hquiet]
        rfl
      · rw [hraises.triggered, if_pos rfl, List.map_cons, List.map_cons, List.map_nil,
          (ruleRisk_fields hraises.risk).1]
        rfl

theorem mem_ruled_iff {ruled : List (List RiskRecord)} {risk : RiskRecord}
    (h : List.Forall₂ (fun rule risks => ruleRisks c text repository rule = .ok risks) rules
      ruled) :
    risk ∈ ruled.flatten ↔ ∃ rule ∈ rules, RuleRaises c text repository rule risk := by
  induction h with
  | nil => simp
  | cons hrule _ ih =>
      rw [List.flatten_cons, List.mem_append, ih, List.exists_mem_cons_iff]
      refine or_congr_left ?_
      rcases ruleRisks_eq_ok hrule with ⟨hquiet, rfl⟩ | ⟨raised, hraises, rfl⟩
      · refine ⟨fun hmem => absurd hmem List.not_mem_nil, fun hraises => ?_⟩
        cases hquiet.symm.trans hraises.triggered
      · rw [List.mem_singleton]
        constructor
        · rintro rfl
          exact hraises
        · intro hother
          exact Except.ok.inj (hother.risk.symm.trans hraises.risk)

/-! ## Identities -/

/-- Two rules give one repository risks of one identity exactly if their id and version agree. -/
theorem ruleRiskIdentity_semantic_iff {repositoryId repositoryId' : String}
    {id id' version version' : Json} :
    (ruleRiskIdentity repositoryId id version).semantic =
        (ruleRiskIdentity repositoryId' id' version').semantic ↔
      repositoryId = repositoryId' ∧ id.semantic = id'.semantic ∧
        version.semantic = version'.semantic := by
  constructor
  · intro h
    exact ⟨Json.str_semantic_inj _ _ (Json.field_of_semantic_eq h "subject" rfl rfl),
      Json.field_of_semantic_eq h "rule" rfl rfl, Json.field_of_semantic_eq h "version" rfl rfl⟩
  · rintro ⟨rfl, hid, hversion⟩
    exact Json.semantic_obj_congr (.cons ⟨rfl, rfl⟩ (.cons ⟨rfl, hid⟩ (.cons ⟨rfl, hversion⟩ .nil)))

theorem dependencyRiskIdentity_inj {repositoryId repositoryId' dependency dependency' : String}
    (h : (dependencyRiskIdentity repositoryId dependency).semantic =
      (dependencyRiskIdentity repositoryId' dependency').semantic) :
    repositoryId = repositoryId' ∧ dependency = dependency' :=
  ⟨Json.str_semantic_inj _ _ (Json.field_of_semantic_eq h "subject" rfl rfl),
    Json.str_semantic_inj _ _ (Json.field_of_semantic_eq h "dependency" rfl rfl)⟩

/-- The risk of a rule is not the risk of a dependency. -/
theorem rule_ne_dependency {repositoryId repositoryId' dependency : String} {id version : Json} :
    (ruleRiskIdentity repositoryId id version).semantic ≠
      (dependencyRiskIdentity repositoryId' dependency).semantic := by
  intro h
  have hfield := Json.get?_of_semantic_eq h (show "rule" ∉ volatileFields by decide)
  cases hfield

/-! ## The identities of the register -/

theorem repositoryRisks_eq_ok {risks : List RiskRecord} :
    repositoryRisks c text rules repository = .ok risks ↔
      ∃ ruled, List.Forall₂ (fun rule risks => ruleRisks c text repository rule = .ok risks) rules
        ruled ∧
        ruled.flatten ++ repository.unresolvedDependencies.map (dependencyRisk c text repository) =
          risks := by
  simp only [repositoryRisks, bind_eq_ok, mapM_eq_ok, pure_eq_ok]

/-- The identities of the risks of one repository: the rules that are triggered, then the
    dependencies. -/
def repositoryRiskIds (c : Codec) (text : PythonText) (rules : List Json)
    (repository : RepositoryRecord) : List String :=
  ((triggeredRules text rules repository).map fun rule =>
      c.stableId "risk" (ruleRiskIdentity repository.repositoryId (rule.getD "id" .null)
        (rule.getD "version" .null)))
    ++ repository.unresolvedDependencies.map fun dependency =>
      c.stableId "risk" (dependencyRiskIdentity repository.repositoryId dependency)

theorem repositoryRisks_ids {risks : List RiskRecord}
    (h : repositoryRisks c text rules repository = .ok risks) :
    risks.map RiskRecord.riskId = repositoryRiskIds c text rules repository := by
  obtain ⟨ruled, hruled, rfl⟩ := repositoryRisks_eq_ok.1 h
  rw [List.map_append, ruled_ids hruled, List.map_map]
  rfl

/-- A risk id of a repository is no risk id of another. -/
theorem repositoryRiskIds_subject (hc : c.Faithful) {other : RepositoryRecord} {riskId : String}
    (h : riskId ∈ repositoryRiskIds c text rules repository)
    (hother : riskId ∈ repositoryRiskIds c text rules other) :
    repository.repositoryId = other.repositoryId := by
  simp only [repositoryRiskIds, List.mem_append, List.mem_map] at h hother
  rcases h with ⟨rule, -, rfl⟩ | ⟨dependency, -, rfl⟩
  · rcases hother with ⟨rule', -, heq⟩ | ⟨dependency', -, heq⟩
    · exact (ruleRiskIdentity_semantic_iff.1 ((hc.stableId_inj "risk").1 heq)).1.symm
    · exact absurd ((hc.stableId_inj "risk").1 heq.symm) rule_ne_dependency
  · rcases hother with ⟨rule', -, heq⟩ | ⟨dependency', -, heq⟩
    · exact absurd ((hc.stableId_inj "risk").1 heq) rule_ne_dependency
    · exact (dependencyRiskIdentity_inj ((hc.stableId_inj "risk").1 heq)).1.symm

/-- The risks of a repository have distinct identities exactly if the rules it triggers do. -/
theorem repositoryRiskIds_nodup_iff (hc : c.Faithful)
    (hdependencies : repository.unresolvedDependencies.Nodup) :
    (repositoryRiskIds c text rules repository).Nodup ↔
      ((triggeredRules text rules repository).map ruleIdentity).Nodup := by
  have hrules : ((triggeredRules text rules repository).map fun rule =>
      c.stableId "risk" (ruleRiskIdentity repository.repositoryId (rule.getD "id" .null)
        (rule.getD "version" .null))).Nodup ↔
      ((triggeredRules text rules repository).map ruleIdentity).Nodup := by
    rw [List.Nodup, List.Nodup, List.pairwise_map, List.pairwise_map]
    refine List.Pairwise.iff ?_
    intro rule rule'
    rw [ne_eq, ne_eq, hc.stableId_inj "risk", ruleRiskIdentity_semantic_iff, ruleIdentity,
      ruleIdentity, Prod.mk.injEq]
    simp
  have hnames : (repository.unresolvedDependencies.map fun dependency =>
      c.stableId "risk" (dependencyRiskIdentity repository.repositoryId dependency)).Nodup := by
    refine hdependencies.map ?_
    intro dependency dependency' heq
    exact (dependencyRiskIdentity_inj ((hc.stableId_inj "risk").1 heq)).2
  rw [repositoryRiskIds, List.nodup_append, hrules]
  refine ⟨fun h => h.1, fun h => ⟨h, hnames, ?_⟩⟩
  intro riskId hrule riskId' hdependency heq
  obtain ⟨rule, -, rfl⟩ := List.mem_map.1 hrule
  obtain ⟨dependency, -, rfl⟩ := List.mem_map.1 hdependency
  exact rule_ne_dependency ((hc.stableId_inj "risk").1 heq)

/-- Repositories that are all different, each with a set of dependencies. -/
structure DistinctRepositories (repositories : List RepositoryRecord) : Prop where
  ids : (repositories.map RepositoryRecord.repositoryId).Nodup
  dependencies : ∀ repository ∈ repositories, repository.unresolvedDependencies.Nodup

variable {repositories : List RepositoryRecord} {profile : Json} {risks : List RiskRecord}

theorem assessTopologyRisks_eq_ok :
    assessTopologyRisks c text repositories profile = .ok risks ↔
      ∃ rules, riskRules profile = .ok rules ∧ ∃ found,
        List.Forall₂ (fun repository risks => repositoryRisks c text rules repository = .ok risks)
          repositories found ∧ sortedBy RiskRecord.riskId found.flatten = risks := by
  simp only [assessTopologyRisks, bind_eq_ok, mapM_eq_ok, pure_eq_ok]

/-- The risk is about the repository: one of its rules or of its dependencies raises it. -/
inductive RiskOf (c : Codec) (text : PythonText) (rules : List Json)
    (repository : RepositoryRecord) (risk : RiskRecord) : Prop
  | rule (rule : Json) (ruled : rule ∈ rules) (raises : RuleRaises c text repository rule risk)
  | dependency (dependency : String) (unresolved : dependency ∈ repository.unresolvedDependencies)
      (risk_eq : risk = dependencyRisk c text repository dependency)

theorem mem_repositoryRisks_iff {risk : RiskRecord}
    (h : repositoryRisks c text rules repository = .ok risks) :
    risk ∈ risks ↔ RiskOf c text rules repository risk := by
  obtain ⟨ruled, hruled, rfl⟩ := repositoryRisks_eq_ok.1 h
  rw [List.mem_append, mem_ruled_iff hruled, List.mem_map]
  constructor
  · rintro (⟨rule, hrule, hraises⟩ | ⟨dependency, hdependency, rfl⟩)
    · exact .rule rule hrule hraises
    · exact .dependency dependency hdependency rfl
  · rintro (⟨rule, hrule, hraises⟩ | ⟨dependency, hdependency, rfl⟩)
    · exact .inl ⟨rule, hrule, hraises⟩
    · exact .inr ⟨dependency, hdependency, rfl⟩

/-- What a risk of a repository says of it. -/
theorem RiskOf.cites {risk : RiskRecord} (h : RiskOf c text rules repository risk) :
    risk.subjectId = repository.repositoryId ∧ risk.evidenceRefs = repository.evidenceRefs := by
  cases h with
  | rule rule _ raises => exact (ruleRisk_fields raises.risk).2
  | dependency dependency _ risk_eq =>
      rw [risk_eq]
      exact ⟨rfl, rfl⟩

theorem mem_flatten_forall₂ {found : List (List RiskRecord)} {risk : RiskRecord}
    (h : List.Forall₂ (fun repository risks => repositoryRisks c text rules repository = .ok risks)
      repositories found) :
    risk ∈ found.flatten ↔ ∃ repository ∈ repositories, RiskOf c text rules repository risk := by
  induction h with
  | nil => simp
  | cons hrepository _ ih =>
      rw [List.flatten_cons, List.mem_append, ih, List.exists_mem_cons_iff,
        mem_repositoryRisks_iff hrepository]

theorem flatten_ids {found : List (List RiskRecord)}
    (h : List.Forall₂ (fun repository risks => repositoryRisks c text rules repository = .ok risks)
      repositories found) :
    found.flatten.map RiskRecord.riskId =
      repositories.flatMap (repositoryRiskIds c text rules) := by
  induction h with
  | nil => rfl
  | cons hrepository _ ih =>
      rw [List.flatten_cons, List.map_append, ih, repositoryRisks_ids hrepository,
        List.flatMap_cons]

theorem riskIds_nodup_iff (hc : c.Faithful) (hdistinct : DistinctRepositories repositories)
    {found : List (List RiskRecord)}
    (h : List.Forall₂ (fun repository risks => repositoryRisks c text rules repository = .ok risks)
      repositories found) :
    ((sortedBy RiskRecord.riskId found.flatten).map RiskRecord.riskId).Nodup ↔
      ∀ repository ∈ repositories,
        ((triggeredRules text rules repository).map ruleIdentity).Nodup := by
  rw [((sortedBy_perm _ _).map _).nodup_iff, flatten_ids h, List.nodup_flatMap]
  have hdisjoint : repositories.Pairwise
      (Function.onFun List.Disjoint (repositoryRiskIds c text rules)) := by
    refine (List.pairwise_map.1 hdistinct.ids).imp fun hne riskId hid hid' => ?_
    exact hne (repositoryRiskIds_subject hc hid hid')
  constructor
  · intro hnodup repository hmem
    exact (repositoryRiskIds_nodup_iff hc (hdistinct.dependencies repository hmem)).1
      (hnodup.1 repository hmem)
  · intro hnodup
    refine ⟨fun repository hmem => ?_, hdisjoint⟩
    exact (repositoryRiskIds_nodup_iff hc (hdistinct.dependencies repository hmem)).2
      (hnodup repository hmem)

end Register

/-! ## The compiled register -/

section Compiled

variable {c : Codec} {text : PythonText} {inputs : CompileInputs} {stages : CompiledStages}

/-- The repositories of a compile are all different, and so are the dependencies of each. -/
theorem compiled_distinct (h : compileStages c text inputs = .ok stages) :
    DistinctRepositories stages.repositories := by
  obtain ⟨normalized, -, signals, -, rfl⟩ := (compileStages_eq_ok c text).1 h
  have hrepositories : (runStages c text inputs normalized signals.flatten).repositories =
      (AggregateRepositories.links text.lower normalized.repositories).map
        (classifyRepository text.lower inputs.roleTaxonomy) := rfl
  rw [hrepositories]
  constructor
  · rw [List.map_map]
    show ((AggregateRepositories.links text.lower normalized.repositories).map
      RepositoryRecord.repositoryId).Nodup
    rw [AggregateRepositories.links_ids]
    exact sortedSet_nodup _
  · intro repository hmem
    obtain ⟨record, hrecord, rfl⟩ := List.mem_map.1 hmem
    show record.unresolvedDependencies.Nodup
    rw [← (AggregateRepositories.links_canonical record hrecord).unresolvedDependencies]
    exact sortedSet_nodup _

/-- **The risk register is exact.** Whatever the compiler was given, the risks are those that a rule
or an unresolved dependency of a repository raises, each about that repository and on its evidence,
and their identities are distinct exactly if no repository triggers two rules of one id and
version. -/
theorem risks_exact (hc : c.Faithful) (h : compileStages c text inputs = .ok stages)
    {profile : Json} {risks : List RiskRecord}
    (hrisks : assessTopologyRisks c text stages.repositories profile = .ok risks) :
    ∃ rules, riskRules profile = .ok rules ∧
      (∀ risk, risk ∈ risks ↔
        ∃ repository ∈ stages.repositories, RiskOf c text rules repository risk) ∧
      (∀ risk ∈ risks, ∃ repository ∈ stages.repositories,
        risk.subjectId = repository.repositoryId ∧
          risk.evidenceRefs = repository.evidenceRefs) ∧
      ((risks.map RiskRecord.riskId).Nodup ↔ ∀ repository ∈ stages.repositories,
        ((triggeredRules text rules repository).map ruleIdentity).Nodup) := by
  obtain ⟨rules, hrules, found, hfound, rfl⟩ := assessTopologyRisks_eq_ok.1 hrisks
  have hmem : ∀ risk, risk ∈ sortedBy RiskRecord.riskId found.flatten ↔
      ∃ repository ∈ stages.repositories, RiskOf c text rules repository risk := by
    intro risk
    rw [mem_sortedBy, mem_flatten_forall₂ hfound]
  refine ⟨rules, hrules, hmem, ?_, riskIds_nodup_iff hc (compiled_distinct h) hfound⟩
  intro risk hrisk
  obtain ⟨repository, hrepository, hof⟩ := (hmem risk).1 hrisk
  exact ⟨repository, hrepository, hof.cites⟩

end Compiled

/-! A packet of one repository without an owner, and a profile that asks for one. -/

/-- A repository without an owner. -/
def ownerlessRepository : RepositoryRecord where
  repositoryId := "repo:loose"
  name := "loose"
  sourceRevision := "r1"
  packetRef := "packet:loose"

/-- The packet that states it. -/
def ownerlessPacket : RepositoryModelPacket where
  packetId := "packet:loose"
  repositoryId := "repo:loose"
  revision := "r1"
  snapshotHash := "sha256:snapshot"
  producer := ⟨"observer", "1.0.0"⟩
  profile := ⟨"repo-model", "1.0.0", "sha256:profile"⟩
  schemaHash := "sha256:schema"
  semanticHash := "sha256:pending"
  payload := some { repositories := [ownerlessRepository] }

def ownerlessInputs : CompileInputs where
  packets := [ownerlessPacket.identified textCodec]

def ownerProfile : Json :=
  .obj [("id", .str "owners"), ("version", .str "1.0.0"),
    ("rules", .arr [.obj [("id", .str "missing-owner"), ("version", .str "1.0.0"),
      ("kind", .str "empty"), ("field", .str "owner_ids"), ("severity", .str "medium"),
      ("category", .str "ownership_gap"), ("description", .str "No owner is declared.")]])]

def ownerlessStages : CompiledStages :=
  runStages textCodec plainText ownerlessInputs { repositories := [ownerlessRepository] } []

theorem ownerless_compiled :
    compileStages textCodec plainText ownerlessInputs = .ok ownerlessStages := by
  have haccepted : RepositoryModelV1Adapter.Accepts textCodec
      (ownerlessPacket.identified textCodec) :=
    RepositoryModelPacket.accepts_identified textCodec (by decide) rfl (by decide) rfl
  exact (compileStages_eq_ok _ _).2 ⟨_, normalizeModels_eq_ok.2
    ⟨List.forall_mem_singleton.2 haccepted, [[]], rfl, rfl⟩, [], rfl, rfl⟩

theorem ownerless_assessed : ∃ risks, assessTopologyRisks textCodec plainText
    ownerlessStages.repositories ownerProfile = .ok risks ∧ risks.length = 1 :=
  ⟨_, rfl, rfl⟩

theorem risks_exact_ownerless :
    ∃ risks, assessTopologyRisks textCodec plainText ownerlessStages.repositories ownerProfile =
        .ok risks ∧ risks.length = 1 ∧
      ∃ rules, riskRules ownerProfile = .ok rules ∧
        ∀ risk ∈ risks, ∃ repository ∈ ownerlessStages.repositories,
          RiskOf textCodec plainText rules repository risk := by
  obtain ⟨risks, hrisks, hlength⟩ := ownerless_assessed
  obtain ⟨rules, hrules, hmem, -⟩ := risks_exact textCodec_faithful ownerless_compiled hrisks
  exact ⟨risks, hrisks, hlength, rules, hrules, fun risk hrisk => (hmem risk).1 hrisk⟩

end ConstellationTopology
