import ConstellationTopology.Domain.Entities
import Mathlib.Data.List.Infix

set_option autoImplicit false

/-! # Classifying repositories

`topology/classifier.py`: the roles whose signals occur in what a repository says about itself. -/

namespace ConstellationTopology

/-- `_DEFAULT_ROLE_SIGNALS`. -/
def defaultRoleSignals : List (String × List String) :=
  [("api_gateway", ["gateway", "api-gateway", "ingress"]),
    ("agent", ["agent", "bot", "worker"]),
    ("library", ["lib", "sdk", "shared", "common"]),
    ("service", ["service", "svc", "microservice", "server"]),
    ("infrastructure", ["infra", "terraform", "helm", "k8s", "docker"]),
    ("data_pipeline", ["pipeline", "etl", "ingestion"]),
    ("frontend", ["frontend", "ui", "web", "app"]),
    ("topology", ["topology", "constellation", "map"]),
    ("memory", ["memory", "graphiti", "knowledge"]),
    ("documentation", ["docs", "documentation", "wiki"])]

section Classify

variable (lower : String → String)

/-- `matches`. -/
def matchedRoles (record : RepositoryRecord) (taxonomy : List (String × List String)) :
    List String :=
  let searchable := lower (String.intercalate " "
    (record.name :: (record.languages ++ record.packageManagers ++ record.entrypoints)))
  (taxonomy.filter fun role => role.2.any fun signal =>
    decide ((lower signal).toList <:+: searchable.toList)).map Prod.fst

/-- `dict.fromkeys`: the first occurrences. -/
def firstOccurrences (values : List String) : List String := values.reverse.dedup.reverse

/-- `classify_repository`. -/
def classifyRepository (roleTaxonomy : List (String × List String)) (record : RepositoryRecord) :
    RepositoryRecord :=
  let roles := matchedRoles lower record
    (if roleTaxonomy = [] then defaultRoleSignals else roleTaxonomy)
  let promoted := record.primaryRole ∈ ["", "unknown", "UNKNOWN"] ∧ roles ≠ []
  let primary := if promoted then roles.headD "" else record.primaryRole
  let secondary := record.secondaryRoles ++
    if promoted then roles.tail else roles.filter fun role => role ≠ record.primaryRole
  { record with
    primaryRole := if primary ∈ ["", "UNKNOWN"] then "unknown" else primary
    secondaryRoles := firstOccurrences secondary }

/-- `stages/classify_roles.py`. -/
def classifyRoles (roleTaxonomy : List (String × List String))
    (repositories : List RepositoryRecord) : List RepositoryRecord :=
  repositories.map (classifyRepository lower roleTaxonomy)

end Classify

end ConstellationTopology
