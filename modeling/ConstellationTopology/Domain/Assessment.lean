import ConstellationTopology.Library.Json

set_option autoImplicit false

/-! # What went wrong with a fact, and what follows from the facts

`UnknownRecord`, `ConflictRecord` and `DiagnosticRecord`: the records in which the compiler reports
what it could neither establish nor decide; and the risk, maturity and impact it assesses. -/

namespace ConstellationTopology

/-- A fact that could not be established. -/
structure UnknownRecord where
  unknownId : String
  subjectId : String
  field : Option String := none
  reason : String
  evidenceRefs : List String := []
  deriving DecidableEq, Repr

/-- A fact on which the sources differ. -/
structure ConflictRecord where
  conflictId : String
  subjectId : String
  field : String
  values : List String
  evidenceRefs : List String := []
  blocking : Bool := false
  resolution : Option String := none
  deriving DecidableEq, Repr

/-! ## Diagnostics -/

/-- How serious a diagnostic is. -/
inductive Severity
  | info
  | warning
  | error
  deriving DecidableEq, Repr

/-- What the compiler did with a diagnostic. -/
inductive Disposition
  | preserved
  | translated
  | suppressed
  | rejected
  deriving DecidableEq, Repr

/-- A finding about an input, under the packet it came from. -/
structure DiagnosticRecord where
  diagnosticId : String
  sourcePacketId : String
  stage : String
  severity : Severity
  code : String
  message : String
  category : String := "upstream"
  subjectId : Option String := none
  evidenceRefs : List String := []
  disposition : Disposition := .preserved
  details : List (String × Json) := []

/-- The severity as it is serialized. -/
def Severity.value : Severity → String
  | info => "info"
  | warning => "warning"
  | error => "error"

/-- The disposition as it is serialized. -/
def Disposition.value : Disposition → String
  | preserved => "preserved"
  | translated => "translated"
  | suppressed => "suppressed"
  | rejected => "rejected"

/-! ## Assessments -/

/-- How serious a risk is. -/
inductive RiskSeverity
  | low
  | medium
  | high
  | critical
  deriving DecidableEq, Repr

/-- The severity of a risk as it is serialized. -/
def RiskSeverity.value : RiskSeverity → String
  | low => "low"
  | medium => "medium"
  | high => "high"
  | critical => "critical"

/-- Where a risk stands; `open` is a keyword here. -/
inductive RiskStatus
  | opened
  | accepted
  | mitigated
  | resolved
  deriving DecidableEq, Repr

/-- The status of a risk as it is serialized. -/
def RiskStatus.value : RiskStatus → String
  | opened => "open"
  | accepted => "accepted"
  | mitigated => "mitigated"
  | resolved => "resolved"

/-- A risk that a rule of the profile raised. -/
structure RiskRecord where
  riskId : String
  subjectId : String
  severity : RiskSeverity
  category : String
  description : String
  ruleId : String
  ruleVersion : String
  evidenceRefs : List String := []
  remediation : Option String := none
  status : RiskStatus := .opened
  deriving DecidableEq, Repr

/-- The score of a repository under a maturity profile. -/
structure MaturityAssessment where
  subjectId : String
  profileId : String
  profileVersion : String
  score : ℕ
  maximumScore : ℕ
  band : String
  dimensions : List (String × ℤ) := []
  evidenceRefs : List String := []
  maximumScore_pos : 0 < maximumScore
  deriving DecidableEq, Repr

/-- Which way an impact runs along the edges. -/
inductive ImpactDirection
  | upstream
  | downstream
  | both
  deriving DecidableEq, Repr

/-- The direction of an impact as it is serialized. -/
def ImpactDirection.value : ImpactDirection → String
  | upstream => "upstream"
  | downstream => "downstream"
  | both => "both"

/-- What an entity affects. -/
structure ImpactIndex where
  subjectId : String
  direction : ImpactDirection
  maximumDepth : ℕ
  affectedEntityIds : List String := []
  paths : List (List String) := []
  unresolvedEdgeIds : List String := []
  affectedRepositoryIds : List String := []
  affectedCapabilityIds : List String := []
  deriving DecidableEq, Repr

end ConstellationTopology
