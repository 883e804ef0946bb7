import ConstellationTopology.Library.Json

set_option autoImplicit false

/-! # Canonical serialization and semantic hashing

`canonical_json`, `semantic_hash` and `artifact_hash` over a `Codec`. A record is hashed through its
JSON form, from which the volatile keys are removed at every depth. -/

namespace ConstellationTopology

/-- A `datetime`, as the ISO text it is serialized to. -/
structure Timestamp where
  isoformat : String
  deriving DecidableEq, Repr

/-- A field that is left out when it is `None`. -/
def optionalField (key : String) (value : Option Json) : List (String × Json) :=
  match value with
  | none => []
  | some v => [(key, v)]

/-- The value of a field that may hold anything, `None` too. -/
def Json.present : Json → Option Json
  | .null => none
  | value => some value

/-- A tuple of texts. -/
def Json.strings (values : List String) : Json := .arr (values.map .str)

/-- The keys `semantic_hash` removes at every depth. -/
def volatileFields : List String :=
  ["created_at", "checked_at", "generated_at", "committed_at", "frozen_at", "run_id", "stage_id",
    "trace_id", "workflow_id", "artifact_hash", "semantic_hash", "packet_id", "receipt_id"]

namespace Codec

variable (c : Codec)

/-- `canonical_json`. -/
def canonicalJson (value : Json) : String := c.dumps value.canonicalData

/-- `canonical_bytes`. -/
def canonicalBytes (value : Json) : ByteArray := (c.canonicalJson value).toUTF8

/-- `sha256_bytes`. -/
def sha256Bytes (value : ByteArray) : String := "sha256:" ++ c.sha256 value

/-- `semantic_hash`. -/
def semanticHash (value : Json) : String :=
  c.sha256Bytes (c.canonicalBytes (value.dropKeys volatileFields))

/-- `artifact_hash`. -/
def artifactHash (content : ByteArray) : String := c.sha256Bytes content

/-- The hexadecimal part of `semantic_hash`, as the stable ids use it. -/
def semanticDigest (value : Json) : String :=
  c.sha256 (c.canonicalBytes (value.dropKeys volatileFields))

/-- `stable_id`: the prefix and the bare digest. -/
def stableId (idPrefix : String) (value : Json) : String :=
  idPrefix ++ ":" ++ c.semanticDigest value

end Codec

/-- What `semantic_hash` sees of a value. -/
def Json.semantic (value : Json) : Json := (value.dropKeys volatileFields).canonicalData

theorem Json.get?_semantic (key : String) (value : Json) (h : key ∉ volatileFields) :
    value.semantic.get? key = (value.get? key).map Json.semantic := by
  unfold Json.semantic
  rw [get?_canonicalData, get?_dropKeys _ _ _ h, Option.map_map]
  rfl

/-! ## What the semantics tells -/

namespace Json

variable {v w : Json}

/-- Values of one semantics have the same fields, except for the volatile ones. -/
theorem get?_of_semantic_eq (h : v.semantic = w.semantic) {key : String}
    (hkey : key ∉ volatileFields) :
    (v.get? key).map Json.semantic = (w.get? key).map Json.semantic := by
  rw [← get?_semantic key v hkey, h, get?_semantic key w hkey]

/-- A field of both values. -/
theorem field_of_semantic_eq (h : v.semantic = w.semantic) (key : String) {x y : Json}
    (hx : v.get? key = some x) (hy : w.get? key = some y)
    (hkey : key ∉ volatileFields := by decide) : x.semantic = y.semantic := by
  have heq := get?_of_semantic_eq h hkey
  rw [hx, hy] at heq
  exact Option.some.inj heq

/-- A field that stays is told apart as far as its own form is. -/
theorem field_inj {α : Type*} {toJson : α → Json}
    (hinj : ∀ a b, (toJson a).semantic = (toJson b).semantic → a = b)
    (h : v.semantic = w.semantic) {key : String} {x y : Option α} (hkey : key ∉ volatileFields)
    (hx : v.get? key = x.map toJson) (hy : w.get? key = y.map toJson) : x = y := by
  have hget := get?_of_semantic_eq h hkey
  rw [hx, hy, Option.map_map, Option.map_map] at hget
  exact Option.map_injective (fun a b => hinj a b) hget

theorem str_semantic_inj (a b : String) (h : (Json.str a).semantic = (Json.str b).semantic) :
    a = b :=
  Json.str.inj h

end Json

namespace Codec.Faithful

variable {c : Codec}

theorem artifactHash_inj (h : c.Faithful) {v w : ByteArray} :
    c.artifactHash v = c.artifactHash w ↔ v = w := by
  unfold artifactHash sha256Bytes
  constructor
  · intro heq
    exact h.sha256_inj (String.append_right_inj _ |>.1 heq)
  · exact fun heq => by rw [heq]

theorem canonicalBytes_inj (h : c.Faithful) {v w : Json} :
    c.canonicalBytes v = c.canonicalBytes w ↔ v.canonicalData = w.canonicalData := by
  unfold canonicalBytes canonicalJson
  constructor
  · intro heq
    exact h.dumps_inj v w (String.toByteArray_inj.1 heq)
  · exact fun heq => by rw [heq]

theorem semanticDigest_inj (h : c.Faithful) {v w : Json} :
    c.semanticDigest v = c.semanticDigest w ↔ v.semantic = w.semantic := by
  unfold semanticDigest Json.semantic
  rw [h.sha256_inj.eq_iff, h.canonicalBytes_inj]

theorem semanticHash_inj (h : c.Faithful) {v w : Json} :
    c.semanticHash v = c.semanticHash w ↔ v.semantic = w.semantic := by
  rw [← h.semanticDigest_inj]
  unfold semanticHash sha256Bytes semanticDigest
  exact String.append_right_inj _

theorem stableId_inj (h : c.Faithful) (idPrefix : String) {v w : Json} :
    c.stableId idPrefix v = c.stableId idPrefix w ↔ v.semantic = w.semantic := by
  rw [← h.semanticDigest_inj]
  unfold stableId
  exact String.append_right_inj _

end Codec.Faithful

end ConstellationTopology
