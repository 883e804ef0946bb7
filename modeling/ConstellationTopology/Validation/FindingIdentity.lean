import ConstellationTopology.Compiler

set_option autoImplicit false

/-! # The identities of findings

The stages report unknowns and conflicts under ids they hash from different objects. `FindingKey` is
what such an object says: one constructor for each shape. Under a faithful codec an id gives its key
back, so two findings collide only when two stages said the same thing in the same shape. -/

namespace ConstellationTopology

/-! ## Keys -/

/-- What the id of a finding is a hash of. -/
inductive FindingKey
  /-- an unresolved dependency of a repository -/
  | dependency (repositoryId name : String)
  /-- several values in one field of a subject; the shape two stages share -/
  | values (subjectId field : String) (found : List String)
  /-- a field that a diagnostic says its producer could not establish -/
  | declared (identity : String × String × Option String)
  /-- a corpus domain that was not run -/
  | notRun (identity : String × String × String × String)
  /-- a work target that several artifacts match -/
  | target (subjectId field : String) (found : List String) (name : String)
  /-- an identifying field of a repository -/
  | repository (id field : String) (found : List String)
  /-- the description of a capability -/
  | capability (capabilityId field : String) (found : List String)
  deriving DecidableEq

namespace FindingKey

/-- The hashed object. -/
def toJson : FindingKey → Json
  | dependency repositoryId name =>
      .obj [("repository_id", .str repositoryId), ("dependency", .str name)]
  | values subjectId field found =>
      .obj [("subject_id", .str subjectId), ("field", .str field), ("values", Json.strings found)]
  | declared identity =>
      .obj [("diagnostic_id", .str identity.1), ("subject_id", .str identity.2.1),
        ("field", (identity.2.2.map .str).getD .null)]
  | notRun identity =>
      .obj [("source_packet_id", .str identity.1), ("subject_id", .str identity.2.1),
        ("field", .str identity.2.2.1), ("reason", .str identity.2.2.2)]
  | target subjectId field found name =>
      .obj [("subject_id", .str subjectId), ("field", .str field),
        ("values", Json.strings found), ("target", .str name)]
  | repository id field found =>
      .obj [("id", .str id), ("field", .str field), ("values", Json.strings found)]
  | capability capabilityId field found =>
      .obj [("capability_id", .str capabilityId), ("field", .str field),
        ("values", Json.strings found)]

/-- The fields by which the shapes differ. -/
def markers : List String :=
  ["repository_id", "diagnostic_id", "reason", "target", "id", "capability_id"]

/-- The markers an object has. -/
def shape (key : FindingKey) : List Bool :=
  markers.map fun marker => (key.toJson.get? marker).isSome

section Semantic

@[simp] theorem semantic_str (text : String) : (Json.str text).semantic = .str text := rfl

@[simp] theorem semantic_null : Json.null.semantic = .null := rfl

@[simp] theorem semantic_strings (texts : List String) :
    (Json.strings texts).semantic = Json.strings texts := by
  rw [Json.semantic, Json.strings, Json.dropKeys, Json.dropKeysItems_eq_map, Json.canonicalData,
    Json.canonicalItems_eq_map, List.map_map, List.map_map]
  rfl

@[simp] theorem semantic_nullableText (value : Option String) :
    ((value.map Json.str).getD .null).semantic = (value.map Json.str).getD .null := by
  cases value <;> rfl

theorem nullableText_injective :
    Function.Injective fun value : Option String => (value.map Json.str).getD .null := by
  intro a b h
  cases a <;> cases b <;> simp_all

theorem strings_injective : Function.Injective Json.strings := by
  intro a b h
  exact List.map_injective_iff.2 (fun _ _ => Json.str.inj) (Json.arr.inj h)

variable {v w : FindingKey}

theorem shape_of_semantic_eq (h : v.toJson.semantic = w.toJson.semantic) : v.shape = w.shape := by
  refine List.map_congr_left fun marker hmarker => ?_
  have hnot : ∀ marker ∈ markers, marker ∉ volatileFields := by decide
  simpa using congrArg Option.isSome (Json.get?_of_semantic_eq h (hnot marker hmarker))

/-- **An object gives its key back.** -/
theorem toJson_semantic_inj (h : v.toJson.semantic = w.toJson.semantic) : v = w := by
  have hshape := shape_of_semantic_eq h
  -- the markers leave the pairs of one shape
  cases v <;> cases w <;> simp [shape, markers, toJson, List.lookup_cons] at hshape
  case dependency.dependency =>
      have hid := Json.str.inj (Json.field_of_semantic_eq h "repository_id" rfl rfl)
      have hname := Json.str.inj (Json.field_of_semantic_eq h "dependency" rfl rfl)
      rw [hid, hname]
  case values.values =>
      have hsubject := Json.str.inj (Json.field_of_semantic_eq h "subject_id" rfl rfl)
      have hfield := Json.str.inj (Json.field_of_semantic_eq h "field" rfl rfl)
      have hfound := Json.field_of_semantic_eq h "values" rfl rfl
      rw [semantic_strings, semantic_strings] at hfound
      rw [hsubject, hfield, strings_injective hfound]
  case declared.declared v w =>
      have hid := Json.str.inj (Json.field_of_semantic_eq h "diagnostic_id" rfl rfl)
      have hsubject := Json.str.inj (Json.field_of_semantic_eq h "subject_id" rfl rfl)
      have hfield := Json.field_of_semantic_eq h "field" rfl rfl
      rw [semantic_nullableText, semantic_nullableText] at hfield
      rw [show v = w from Prod.ext hid (Prod.ext hsubject (nullableText_injective hfield))]
  case notRun.notRun v w =>
      have hid := Json.str.inj (Json.field_of_semantic_eq h "source_packet_id" rfl rfl)
      have hsubject := Json.str.inj (Json.field_of_semantic_eq h "subject_id" rfl rfl)
      have hfield := Json.str.inj (Json.field_of_semantic_eq h "field" rfl rfl)
      have hreason := Json.str.inj (Json.field_of_semantic_eq h "reason" rfl rfl)
      rw [show v = w from Prod.ext hid (Prod.ext hsubject (Prod.ext hfield hreason))]
  case target.target =>
      have hsubject := Json.str.inj (Json.field_of_semantic_eq h "subject_id" rfl rfl)
      have hfield := Json.str.inj (Json.field_of_semantic_eq h "field" rfl rfl)
      have hfound := Json.field_of_semantic_eq h "values" rfl rfl
      have hname := Json.str.inj (Json.field_of_semantic_eq h "target" rfl rfl)
      rw [semantic_strings, semantic_strings] at hfound
      rw [hsubject, hfield, strings_injective hfound, hname]
  case repository.repository =>
      have hid := Json.str.inj (Json.field_of_semantic_eq h "id" rfl rfl)
      have hfield := Json.str.inj (Json.field_of_semantic_eq h "field" rfl rfl)
      have hfound := Json.field_of_semantic_eq h "values" rfl rfl
      rw [semantic_strings, semantic_strings] at hfound
      rw [hid, hfield, strings_injective hfound]
  case capability.capability =>
      have hid := Json.str.inj (Json.field_of_semantic_eq h "capability_id" rfl rfl)
      have hfield := Json.str.inj (Json.field_of_semantic_eq h "field" rfl rfl)
      have hfound := Json.field_of_semantic_eq h "values" rfl rfl
      rw [semantic_strings, semantic_strings] at hfound
      rw [hid, hfield, strings_injective hfound]

end Semantic

/-- The id under which a stage reports a finding. -/
def id (c : Codec) (kind : String) (key : FindingKey) : String := c.stableId kind key.toJson

theorem id_injective {c : Codec} (hc : c.Faithful) (kind : String) :
    Function.Injective (id c kind) := by
  intro v w h
  exact toJson_semantic_inj ((hc.stableId_inj kind).1 h)

end FindingKey

end ConstellationTopology
