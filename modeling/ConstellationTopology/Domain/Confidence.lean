import ConstellationTopology.Library.Json

set_option autoImplicit false

/-! # The decomposed confidence model

`domain/confidence.py`: six independent judgements about a record, and the four assessments the
compiler itself makes. -/

namespace ConstellationTopology

/-- How sure a record is. -/
inductive ConfidenceLevel
  | low
  | medium
  | high
  deriving DecidableEq, Repr

/-- How much evidence stands behind it. -/
inductive EvidenceStrength
  | none
  | weak
  | corroborated
  | direct
  deriving DecidableEq, Repr

/-- How it was arrived at. -/
inductive DerivationMethod
  | declared
  | deterministic
  | crossRecord
  | heuristic
  | modelAssisted
  | unknown
  deriving DecidableEq, Repr

/-- On whose word it stands. -/
inductive Authority
  | source
  | validatedMachine
  | derived
  | candidate
  | unknown
  deriving DecidableEq, Repr

/-- How much of the fact it covers. -/
inductive Completeness
  | partly
  | sufficient
  | complete
  deriving DecidableEq, Repr

/-- Whether something contradicts it. -/
inductive ConflictStatus
  | none
  | possible
  | confirmed
  deriving DecidableEq, Repr

/-! ## Their values -/

/-- The level as it is serialized. -/
def ConfidenceLevel.value : ConfidenceLevel → String
  | low => "low"
  | medium => "medium"
  | high => "high"

/-- The strength as it is serialized. -/
def EvidenceStrength.value : EvidenceStrength → String
  | none => "none"
  | weak => "weak"
  | corroborated => "corroborated"
  | direct => "direct"

/-- The method as it is serialized. -/
def DerivationMethod.value : DerivationMethod → String
  | declared => "declared"
  | deterministic => "deterministic"
  | crossRecord => "cross-record"
  | heuristic => "heuristic"
  | modelAssisted => "model-assisted"
  | unknown => "unknown"

/-- The authority as it is serialized. -/
def Authority.value : Authority → String
  | source => "source"
  | validatedMachine => "validated-machine"
  | derived => "derived"
  | candidate => "candidate"
  | unknown => "unknown"

/-- The completeness as it is serialized. -/
def Completeness.value : Completeness → String
  | partly => "partial"
  | sufficient => "sufficient"
  | complete => "complete"

/-- The conflict status as it is serialized. -/
def ConflictStatus.value : ConflictStatus → String
  | none => "none"
  | possible => "possible"
  | confirmed => "confirmed"

/-! ## Assessments -/

/-- The six judgements about one record. -/
structure ConfidenceAssessment where
  level : ConfidenceLevel
  evidenceStrength : EvidenceStrength
  derivationMethod : DerivationMethod
  authority : Authority
  completeness : Completeness
  conflictStatus : ConflictStatus := .none
  deriving DecidableEq, Repr

namespace ConfidenceAssessment

/-- What a rule derived, alone or corroborated. -/
def deterministic (corroborated : Bool := false) : ConfidenceAssessment where
  level := if corroborated then .high else .medium
  evidenceStrength := if corroborated then .corroborated else .direct
  derivationMethod := .deterministic
  authority := .validatedMachine
  completeness := .sufficient

/-- Nothing is known. -/
def unknown : ConfidenceAssessment where
  level := .low
  evidenceStrength := .none
  derivationMethod := .unknown
  authority := .unknown
  completeness := .partly

/-- An assessment as it is dumped. -/
def toJson (confidence : ConfidenceAssessment) : Json :=
  .obj [("level", .str confidence.level.value),
    ("evidence_strength", .str confidence.evidenceStrength.value),
    ("derivation_method", .str confidence.derivationMethod.value),
    ("authority", .str confidence.authority.value),
    ("completeness", .str confidence.completeness.value),
    ("conflict_status", .str confidence.conflictStatus.value)]

end ConfidenceAssessment

/-! ## Weakest first -/

/-- `_LEVEL_ORDER.index`. -/
def ConfidenceLevel.rank : ConfidenceLevel → ℕ
  | low => 0
  | medium => 1
  | high => 2

/-- `_AUTHORITY_ORDER.index`. -/
def Authority.rank : Authority → ℕ
  | unknown => 0
  | candidate => 1
  | derived => 2
  | validatedMachine => 3
  | source => 4

theorem ConfidenceLevel.rank_injective : Function.Injective ConfidenceLevel.rank := by
  intro a b h
  cases a <;> cases b <;> simp_all [rank]

theorem Authority.rank_injective : Function.Injective Authority.rank := by
  intro a b h
  cases a <;> cases b <;> simp_all [rank]

end ConstellationTopology
