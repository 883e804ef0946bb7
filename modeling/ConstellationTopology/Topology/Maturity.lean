import ConstellationTopology.Topology.Profile
import Mathlib.Algebra.Order.BigOperators.Group.List
import Mathlib.Algebra.Ring.Int.Defs
import Mathlib.Algebra.Order.Group.Int
import Mathlib.Data.List.Infix
import Mathlib.Data.Prod.Lex

set_option autoImplicit false

/-! # Maturity

`topology/maturity.py`: what the dimensions of a profile award to a repository, and the band its
score falls into. A dimension awards its weight or nothing; a repository that shows at least as much
scores at least as high and is in no lower a band (`maturity_monotone`). -/

namespace ConstellationTopology

section Assess

variable (text : PythonText) (int : PythonInt)

/-! ## Dimensions -/

/-- `needle in path.lower()`, for the paths of some evidence. -/
def citesPath (needle : String) (evidence : List EvidenceRecord) : Bool :=
  evidence.any fun item => item.sourceRef.sourcePath.any fun path =>
    path ≠ "" ∧ needle.toList <:+: (text.lower path).toList

/-- The field of a rule is filled. -/
def fieldMet (repository : RepositoryRecord) (rule : Json) : Bool :=
  (rule.get? "field").any fun field => repository.carries (text.str field)

/-- A path of the evidence contains what the rule looks for. -/
def evidenceMet (evidence : List EvidenceRecord) (rule : Json) : Bool :=
  (rule.get? "evidence_contains").any fun needle =>
    citesPath text (text.lower (text.str needle)) evidence

/-- The confidence of the repository reaches that of the rule. -/
def confidenceMet (repository : RepositoryRecord) (rule : Json) : Except String Bool :=
  match rule.get? "minimum_confidence" with
  | none => .ok false
  | some minimum => do
      let threshold ← ConfidenceLevel.ofText (text.str minimum)
      return decide (threshold.rank ≤ repository.confidence.level.rank)

/-- `awarded`. -/
def awarded (repository : RepositoryRecord) (evidence : List EvidenceRecord) (rule : Json) :
    Except String ℤ := do
  demand rule.isObject "AttributeError: get"
  let weight ← int (rule.getD "weight" (.int 0))
  let confident ← confidenceMet text repository rule
  return if fieldMet text repository rule || evidenceMet text evidence rule || confident then weight
    else 0

/-- One turn of the loop over the dimensions. -/
def awardedDimension (repository : RepositoryRecord) (evidence : List EvidenceRecord)
    (dimension : String × Json) : Except String (String × ℤ) := do
  let award ← awarded text int repository evidence dimension.2
  return (dimension.1, award)

/-! ## Bands -/

/-- `bands`. -/
def maturityBands (profile : Json) : Except String (List (String × ℤ)) := do
  let items ← mappingItems (profile.getD "bands" (.obj [("nascent", .int 0)]))
  items.mapM fun item => (int item.2).map fun threshold => (item.1, threshold)

/-- `_band`: the thresholds from the greatest down. -/
def bandOf (score : ℤ) (bands : List (String × ℤ)) : Except String String :=
  expect (((sortedBy (fun band : String × ℤ => toLex (band.2, band.1)) bands).reverse.find?
    fun band => decide (band.2 ≤ score)).map Prod.fst) "StopIteration"

/-! ## The assessment -/

/-- The bounds `MaturityAssessment` puts on its numbers. -/
def makeAssessment (repository : RepositoryRecord) (profileId profileVersion band : String)
    (score maximum : ℤ) (dimensions : List (String × ℤ)) : Except String MaturityAssessment :=
  if hmax : 0 < maximum.toNat then
    if 0 ≤ score then
      .ok { subjectId := repository.repositoryId
            profileId := profileId
            profileVersion := profileVersion
            score := score.toNat
            maximumScore := maximum.toNat
            band := band
            dimensions := dimensions
            evidenceRefs := repository.evidenceRefs
            maximumScore_pos := hmax }
    else .error "ValidationError: score"
  else .error "ValidationError: maximum_score"

/-- One turn of the loop over the repositories. -/
def assessRepository (evidence : List EvidenceRecord) (profile : Json) (maximum : ℤ)
    (bands : List (String × ℤ)) (repository : RepositoryRecord) :
    Except String MaturityAssessment := do
  let config ← mappingItems (profile.getD "dimensions" (.obj []))
  let dimensions ← config.mapM
    (awardedDimension text int repository
      (groupOf EvidenceRecord.subjectId repository.repositoryId evidence))
  let score := min maximum (dimensions.map Prod.snd).sum
  let id ← profileKey "id" profile
  let version ← profileKey "version" profile
  let band ← bandOf score bands
  makeAssessment repository (text.str id) (text.str version) band score maximum dimensions

/-- `assess_maturity`. -/
def assessMaturity (repositories : List RepositoryRecord) (evidence : List EvidenceRecord)
    (profile : Json) : Except String (List MaturityAssessment) := do
  let maximum ← int (profile.getD "maximum_score" (.int 100))
  let bands ← maturityBands int profile
  repositories.mapM (assessRepository text int evidence profile maximum bands)

end Assess

/-! ## What an assessment says -/

section Assessed

variable {text : PythonText} {int : PythonInt} {repository : RepositoryRecord}
  {evidence : List EvidenceRecord} {rule : Json}

/-- The repository earns the weight of the rule. -/
def Earns (text : PythonText) (repository : RepositoryRecord) (evidence : List EvidenceRecord)
    (rule : Json) : Prop :=
  fieldMet text repository rule = true ∨ evidenceMet text evidence rule = true ∨
    confidenceMet text repository rule = .ok true

/-- A dimension awards its weight exactly if the repository earns it. -/
theorem awarded_eq_ok {award : ℤ} (h : awarded text int repository evidence rule = .ok award) :
    ∃ weight, int (rule.getD "weight" (.int 0)) = .ok weight ∧
      (Earns text repository evidence rule → award = weight) ∧
      (¬ Earns text repository evidence rule → award = 0) := by
  simp only [awarded, bind_eq_ok, demand_eq_ok, pure_eq_ok] at h
  obtain ⟨_, _, weight, hweight, confident, hconfident, rfl⟩ := h
  refine ⟨weight, hweight, ?_, ?_⟩
  · rintro (hfield | hevidence | hlevel)
    · simp [hfield]
    · simp [hevidence]
    · rw [hlevel] at hconfident
      simp [← Except.ok.inj hconfident]
  · intro hnot
    refine if_neg fun hmet => hnot ?_
    rw [Bool.or_eq_true, Bool.or_eq_true] at hmet
    rcases hmet with (hfield | hevidence) | rfl
    · exact .inl hfield
    · exact .inr (.inl hevidence)
    · exact .inr (.inr hconfident)

theorem bandOf_eq_ok {score : ℤ} {bands : List (String × ℤ)} {label : String}
    (h : bandOf score bands = .ok label) :
    ∃ threshold, (label, threshold) ∈ bands ∧ threshold ≤ score ∧
      ∀ band ∈ bands, band.2 ≤ score → band.2 ≤ threshold := by
  rw [bandOf, expect_eq_ok, Option.map_eq_some_iff] at h
  obtain ⟨⟨name, threshold⟩, hfind, rfl⟩ := h
  obtain ⟨hmem, hle, hgreatest⟩ := find?_reverse_sortedBy hfind
  refine ⟨threshold, hmem, of_decide_eq_true hle, ?_⟩
  intro band hband hscore
  have hkey := hgreatest band hband (decide_eq_true hscore)
  rcases Prod.Lex.le_iff.1 hkey with hlt | heq
  · exact hlt.le
  · exact heq.1.le

theorem makeAssessment_eq_ok {profileId profileVersion band : String} {score maximum : ℤ}
    {dimensions : List (String × ℤ)} {assessment : MaturityAssessment} :
    makeAssessment repository profileId profileVersion band score maximum dimensions =
        .ok assessment ↔
      ∃ hmax : 0 < maximum.toNat, 0 ≤ score ∧
        { subjectId := repository.repositoryId
          profileId := profileId
          profileVersion := profileVersion
          score := score.toNat
          maximumScore := maximum.toNat
          band := band
          dimensions := dimensions
          evidenceRefs := repository.evidenceRefs
          maximumScore_pos := hmax } = assessment := by
  unfold makeAssessment
  by_cases hmax : 0 < maximum.toNat
  · by_cases hscore : 0 ≤ score
    · simp [hmax, hscore]
    · simp [hmax, hscore]
  · simp [hmax]

end Assessed

/-! ## Showing more -/

section More

variable {text : PythonText} {int : PythonInt} {repository repository' : RepositoryRecord}
  {evidence evidence' : List EvidenceRecord} {profile : Json}

/-- The second repository shows everything that the first shows and a profile can ask for. -/
structure ShowsAtLeast (repository repository' : RepositoryRecord)
    (evidence evidence' : List EvidenceRecord) : Prop where
  fields : ∀ field, repository.carries field = true → repository'.carries field = true
  level : repository.confidence.level.rank ≤ repository'.confidence.level.rank
  paths : ∀ item ∈ groupOf EvidenceRecord.subjectId repository.repositoryId evidence,
    ∃ item' ∈ groupOf EvidenceRecord.subjectId repository'.repositoryId evidence',
      item'.sourceRef.sourcePath = item.sourceRef.sourcePath

/-- What the dimensions of a profile award is no penalty. -/
def WeightsNonneg (int : PythonInt) (profile : Json) : Prop :=
  ∀ config, mappingItems (profile.getD "dimensions" (.obj [])) = .ok config →
    ∀ dimension ∈ config, ∀ weight, int (dimension.2.getD "weight" (.int 0)) = .ok weight →
      0 ≤ weight

/-- A record whose fields are filled wherever those of another are carries what the other does. -/
theorem carries_mono (h : List.Forall₂ (fun truth truth' => truth.1 = truth'.1 ∧
      (truth.2 = true → truth'.2 = true)) repository.truths repository'.truths) (field : String) :
    repository.carries field = true → repository'.carries field = true := by
  unfold RepositoryRecord.carries
  generalize repository.truths = truths at h
  generalize repository'.truths = truths' at h
  induction h with
  | nil => exact id
  | @cons truth truth' _ _ htruth _ ih =>
      obtain ⟨name, value⟩ := truth
      obtain ⟨name', value'⟩ := truth'
      obtain ⟨rfl, himp⟩ := htruth
      rw [List.lookup_cons, List.lookup_cons]
      cases field == name with
      | true => exact himp
      | false => exact ih

theorem citesPath_mono {needle : String} {items items' : List EvidenceRecord}
    (h : ∀ item ∈ items, ∃ item' ∈ items', item'.sourceRef.sourcePath = item.sourceRef.sourcePath)
    (hcites : citesPath text needle items = true) : citesPath text needle items' = true := by
  rw [citesPath, List.any_eq_true] at hcites ⊢
  obtain ⟨item, hitem, hpath⟩ := hcites
  obtain ⟨item', hitem', heq⟩ := h item hitem
  exact ⟨item', hitem', heq ▸ hpath⟩

theorem confidenceMet_mono {rule : Json} {met : Bool}
    (h : repository.confidence.level.rank ≤ repository'.confidence.level.rank)
    (hmet : confidenceMet text repository rule = .ok met) :
    ∃ met', confidenceMet text repository' rule = .ok met' ∧ (met = true → met' = true) := by
  unfold confidenceMet at hmet ⊢
  split at hmet
  · exact ⟨false, rfl, fun heq => (Except.ok.inj hmet).trans heq⟩
  · next minimum =>
      obtain ⟨threshold, hthreshold, hmet⟩ := bind_eq_ok.1 hmet
      refine ⟨_, bind_eq_ok.2 ⟨threshold, hthreshold, rfl⟩, ?_⟩
      rintro rfl
      exact decide_eq_true ((of_decide_eq_true (pure_eq_ok.1 hmet)).trans h)

/-- A dimension awards no less to a repository that shows no less. -/
theorem awarded_mono (hshows : ShowsAtLeast repository repository' evidence evidence')
    {rule : Json} {award : ℤ}
    (hnonneg : ∀ weight, int (rule.getD "weight" (.int 0)) = .ok weight → 0 ≤ weight)
    (h : awarded text int repository
      (groupOf EvidenceRecord.subjectId repository.repositoryId evidence) rule = .ok award) :
    ∃ award', awarded text int repository'
        (groupOf EvidenceRecord.subjectId repository'.repositoryId evidence') rule = .ok award' ∧
      award ≤ award' := by
  simp only [awarded, bind_eq_ok, demand_eq_ok, pure_eq_ok] at h ⊢
  obtain ⟨_, hobject, weight, hweight, confident, hconfident, rfl⟩ := h
  obtain ⟨confident', hconfident', hlevel⟩ := confidenceMet_mono hshows.level hconfident
  refine ⟨_, ⟨(), hobject, weight, hweight, confident', hconfident', rfl⟩, ?_⟩
  have hweight_nonneg := hnonneg weight hweight
  split
  · next hmet =>
      have hmet' : (fieldMet text repository' rule || evidenceMet text
          (groupOf EvidenceRecord.subjectId repository'.repositoryId evidence') rule
            || confident') = true := by
        simp only [Bool.or_eq_true] at hmet ⊢
        rcases hmet with (hfield | hevidence) | hconf
        · rw [fieldMet, Option.any_eq_true] at hfield ⊢
          obtain ⟨field, hget, hcarries⟩ := hfield
          exact .inl (.inl ⟨field, hget, hshows.fields _ hcarries⟩)
        · rw [evidenceMet, Option.any_eq_true] at hevidence ⊢
          obtain ⟨needle, hget, hcites⟩ := hevidence
          exact .inl (.inr ⟨needle, hget, citesPath_mono hshows.paths hcites⟩)
        · exact .inr (hlevel hconf)
      rw [if_pos hmet']
  · split
    · exact hweight_nonneg
    · exact le_rfl

/-- An award of one dimension is no lower than another. -/
def AwardLe (award award' : String × ℤ) : Prop := award.1 = award'.1 ∧ award.2 ≤ award'.2

theorem sum_le_of_awards {awards awards' : List (String × ℤ)}
    (h : List.Forall₂ AwardLe awards awards') :
    (awards.map Prod.snd).sum ≤ (awards'.map Prod.snd).sum := by
  refine List.Forall₂.sum_le_sum ?_
  rw [List.forall₂_map_left_iff, List.forall₂_map_right_iff]
  exact h.imp fun _ _ hle => hle.2

theorem dimensions_mono (hshows : ShowsAtLeast repository repository' evidence evidence')
    {config : List (String × Json)} {dimensions : List (String × ℤ)}
    (hnonneg : ∀ dimension ∈ config, ∀ weight,
      int (dimension.2.getD "weight" (.int 0)) = .ok weight → 0 ≤ weight)
    (h : List.Forall₂ (fun dimension award => awardedDimension text int repository
      (groupOf EvidenceRecord.subjectId repository.repositoryId evidence) dimension = .ok award)
        config dimensions) :
    ∃ dimensions', List.Forall₂ (fun dimension award => awardedDimension text int repository'
        (groupOf EvidenceRecord.subjectId repository'.repositoryId evidence') dimension =
          .ok award) config dimensions' ∧
      List.Forall₂ AwardLe dimensions dimensions' := by
  induction h with
  | nil => exact ⟨[], .nil, .nil⟩
  | @cons dimension _ _ _ hdimension _ ih =>
      obtain ⟨rest, hrest, hle⟩ := ih fun d hd => hnonneg d (List.mem_cons_of_mem _ hd)
      obtain ⟨award, haward, heq⟩ := bind_eq_ok.1 hdimension
      obtain ⟨award', haward', haward_le⟩ :=
        awarded_mono hshows (hnonneg dimension List.mem_cons_self) haward
      refine ⟨(dimension.1, award') :: rest, .cons (bind_eq_ok.2 ⟨award', haward', rfl⟩) hrest, ?_⟩
      rw [← pure_eq_ok.1 heq]
      exact .cons ⟨rfl, haward_le⟩ hle

/-- The assessment is no lower: neither a dimension nor the score nor the threshold of the band. -/
structure NoLower (bands : List (String × ℤ)) (assessment assessment' : MaturityAssessment) :
    Prop where
  dimensions : List.Forall₂ AwardLe assessment.dimensions assessment'.dimensions
  score : assessment.score ≤ assessment'.score
  bounded : assessment'.score ≤ assessment'.maximumScore
  maximum : assessment'.maximumScore = assessment.maximumScore
  band : ∃ threshold threshold', (assessment.band, threshold) ∈ bands ∧
    (assessment'.band, threshold') ∈ bands ∧ threshold ≤ threshold'

theorem bandOf_mono {score score' : ℤ} {bands : List (String × ℤ)} {label : String}
    (hle : score ≤ score') (h : bandOf score bands = .ok label) :
    ∃ label', bandOf score' bands = .ok label' ∧
      ∃ threshold threshold', (label, threshold) ∈ bands ∧ (label', threshold') ∈ bands ∧
        threshold ≤ threshold' := by
  obtain ⟨threshold, hmem, hthreshold, -⟩ := bandOf_eq_ok h
  have hsome : ((sortedBy (fun band : String × ℤ => toLex (band.2, band.1)) bands).reverse.find?
      fun band => decide (band.2 ≤ score')).isSome :=
    find?_reverse_sortedBy_isSome.2
      ⟨(label, threshold), hmem, decide_eq_true (hthreshold.trans hle)⟩
  obtain ⟨band, hband⟩ := Option.isSome_iff_exists.1 hsome
  have hlabel : bandOf score' bands = .ok band.1 := by
    rw [bandOf, hband]
    rfl
  obtain ⟨threshold', hmem', -, hgreatest⟩ := bandOf_eq_ok hlabel
  exact ⟨band.1, hlabel, threshold, threshold', hmem, hmem',
    hgreatest (label, threshold) hmem (hthreshold.trans hle)⟩

theorem assessRepository_mono (hshows : ShowsAtLeast repository repository' evidence evidence')
    (hnonneg : WeightsNonneg int profile) {maximum : ℤ} {bands : List (String × ℤ)}
    {assessment : MaturityAssessment}
    (h : assessRepository text int evidence profile maximum bands repository = .ok assessment) :
    ∃ assessment', assessRepository text int evidence' profile maximum bands repository' =
        .ok assessment' ∧ NoLower bands assessment assessment' := by
  simp only [assessRepository, bind_eq_ok, mapM_eq_ok, makeAssessment_eq_ok] at h ⊢
  obtain ⟨config, hconfig, dimensions, hdimensions, id, hid, version, hversion, band, hband, hmax,
    hscore, rfl⟩ := h
  obtain ⟨dimensions', hdimensions', hawards⟩ :=
    dimensions_mono hshows (hnonneg config hconfig) hdimensions
  have hle : min maximum (dimensions.map Prod.snd).sum ≤
      min maximum (dimensions'.map Prod.snd).sum :=
    min_le_min le_rfl (sum_le_of_awards hawards)
  obtain ⟨band', hband', hthresholds⟩ := bandOf_mono hle hband
  refine ⟨_, ⟨config, hconfig, dimensions', hdimensions', id, hid, version, hversion, band', hband',
    hmax, hscore.trans hle, rfl⟩, ?_⟩
  exact ⟨hawards, Int.toNat_le_toNat hle, Int.toNat_le_toNat (min_le_left _ _), rfl, hthresholds⟩

/-- **Showing more never lowers maturity.** Where a profile is assessed at all and awards no
penalties, repositories that show at least as much are assessed too, each within the maximum, with
dimensions, a score and a band no lower than before. -/
theorem maturity_monotone {repositories : List RepositoryRecord}
    {assessments : List MaturityAssessment} (better : RepositoryRecord → RepositoryRecord)
    (h : assessMaturity text int repositories evidence profile = .ok assessments)
    (hnonneg : WeightsNonneg int profile)
    (hshows : ∀ repository ∈ repositories,
      ShowsAtLeast repository (better repository) evidence evidence') :
    ∃ bands assessments', maturityBands int profile = .ok bands ∧
      assessMaturity text int (repositories.map better) evidence' profile = .ok assessments' ∧
      List.Forall₂ (NoLower bands) assessments assessments' := by
  simp only [assessMaturity, bind_eq_ok, mapM_eq_ok] at h ⊢
  obtain ⟨maximum, hmaximum, bands, hbands, hassessed⟩ := h
  refine ⟨bands, ?_⟩
  have hrun : ∃ assessments', List.Forall₂ (fun repository assessment =>
      assessRepository text int evidence' profile maximum bands repository = .ok assessment)
        (repositories.map better) assessments' ∧
      List.Forall₂ (NoLower bands) assessments assessments' := by
    clear hmaximum hbands
    induction hassessed with
    | nil => exact ⟨[], .nil, .nil⟩
    | @cons repository _ _ _ hrepository _ ih =>
        obtain ⟨rest, hrest, hlower⟩ := ih fun r hr => hshows r (List.mem_cons_of_mem _ hr)
        obtain ⟨assessment', hassessment', hno⟩ :=
          assessRepository_mono (hshows repository List.mem_cons_self) hnonneg hrepository
        exact ⟨assessment' :: rest, .cons hassessment' hrest, .cons hno hlower⟩
  obtain ⟨assessments', hassessments', hlower⟩ := hrun
  exact ⟨assessments', hbands, ⟨maximum, hmaximum, bands, hbands, hassessments'⟩, hlower⟩

end More

/-! A repository that gains a workflow, under a profile that asks for one. -/

/-- A repository of which nothing else is known. -/
def bareRepository : RepositoryRecord where
  repositoryId := "repo:bare"
  name := "bare"
  sourceRevision := "r1"
  packetRef := "packet:bare"

/-- The repository with a workflow. -/
def addWorkflow (repository : RepositoryRecord) : RepositoryRecord :=
  { repository with workflows := "ci.yml" :: repository.workflows }

/-- A profile with one rule. -/
def workflowProfile : Json :=
  .obj [("id", .str "workflows"), ("version", .str "1.0.0"),
    ("bands", .obj [("mature", .int 10), ("nascent", .int 0)]),
    ("dimensions", .obj [("ci_workflow", .obj [("weight", .int 10), ("field", .str "workflows")])])]

theorem addWorkflow_showsAtLeast (evidence : List EvidenceRecord) :
    ShowsAtLeast bareRepository (addWorkflow bareRepository) evidence evidence where
  fields := carries_mono (by
    simp [RepositoryRecord.truths, addWorkflow, bareRepository])
  level := le_rfl
  paths item h := ⟨item, h, rfl⟩

theorem workflowProfile_nonneg : WeightsNonneg plainInt workflowProfile := by
  intro config hconfig dimension hdimension weight hweight
  obtain rfl := Except.ok.inj hconfig
  obtain rfl := List.mem_singleton.1 hdimension
  obtain rfl := Except.ok.inj hweight
  decide

theorem maturity_monotone_workflow :
    ∃ before after, assessMaturity plainText plainInt [bareRepository] [] workflowProfile =
        .ok before ∧
      assessMaturity plainText plainInt [addWorkflow bareRepository] [] workflowProfile =
        .ok after ∧
      before.map MaturityAssessment.band = ["nascent"] ∧
        List.Forall₂ (NoLower [("mature", 10), ("nascent", 0)]) before after := by
  have hbefore : ∃ before, assessMaturity plainText plainInt [bareRepository] []
      workflowProfile = .ok before ∧ before.map MaturityAssessment.band = ["nascent"] :=
    ⟨_, rfl, rfl⟩
  obtain ⟨before, hassessed, hband⟩ := hbefore
  obtain ⟨bands, after, hbands, hafter, hlower⟩ := maturity_monotone addWorkflow hassessed
    workflowProfile_nonneg (List.forall_mem_singleton.2 (addWorkflow_showsAtLeast []))
  obtain rfl : [("mature", 10), ("nascent", 0)] = bands := Except.ok.inj hbands
  exact ⟨before, after, hassessed, hafter, hband, hlower⟩

end ConstellationTopology
