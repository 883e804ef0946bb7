import ConstellationTopology.Library.DotSegments
import ConstellationTopology.Run.SourcePath
import Mathlib.Data.List.DropRight
import Mathlib.Data.List.Infix

set_option autoImplicit false

/-! # The path allow-list of callbacks

`path_is_allowed` of `worker/callback.py` compares texts. Where the allowed path leads is decided by
its segments: it stays at or below the prefix exactly when the prefix has no dots to remove and the
segments behind it come back into every one that they climb out of (`atOrBelow_iff`). -/

namespace ConstellationTopology

/-- `_ENCODED_PATH_SEPARATORS`. -/
def encodedPathSeparators : List String := ["%2f", "%5c"]

/-- `_contains_ambiguous_separator`. The tokens are ASCII, and so is the lower case they need. -/
def containsAmbiguousSeparator (value : String) : Bool :=
  let lowered := value.toList.map Char.toLower
  '\\' ∈ value.toList || encodedPathSeparators.any fun token => token.toList <:+: lowered

/-- `path or "/"`. -/
def normalizedPath (path : String) : String := if path = "" then "/" else path

/-- `prefix.rstrip("/") or "/"`. -/
def normalizedPrefix (allowed : String) : String :=
  normalizedPath (String.ofList (allowed.toList.rdropWhile fun ch => ch = '/'))

/-- `text.startswith("/")`. -/
def startsWithSlash (text : String) : Bool := text.toList.head? = some '/'

/-- `path_is_allowed`. -/
def pathIsAllowed (path allowed : String) : Bool :=
  let path := normalizedPath path
  let front := normalizedPrefix allowed
  if !startsWithSlash path || !startsWithSlash front then false
  else if containsAmbiguousSeparator path || containsAmbiguousSeparator front then false
  else if front = "/" then true
  else path = front || (front ++ "/").toList <+: path.toList

/-! ## Where a path leads -/

/-- The segments of an absolute path, each behind its slash. -/
def urlSegments (path : String) : List String := (pathSegments path).tail

/-- The segments of the path once its dots are decoded and its dot segments removed. -/
def location (path : String) : List String :=
  removeDotSegments [] ((urlSegments (normalizedPath path)).map decodeDots)

/-- The place is the prefix or below it at a segment boundary. -/
def AtOrBelow (allowed : String) (place : List String) : Prop :=
  normalizedPrefix allowed = "/" ∨ urlSegments (normalizedPrefix allowed) <+: place

/-- A segment without a dot to decode that is no dot segment. -/
def LiteralSegment (segment : String) : Prop :=
  PlainSegment segment ∧ hasEncodedDot segment.toList = false

/-- The segments of the path behind those of the prefix, with their dots decoded. -/
def remainder (path allowed : String) : List String :=
  ((urlSegments (normalizedPath path)).drop
    (urlSegments (normalizedPrefix allowed)).length).map decodeDots

/-- The names entered behind the prefix begin with the segments of it that are climbed out of. -/
def ComesBack (path allowed : String) : Prop :=
  let segments := urlSegments (normalizedPrefix allowed)
  let detour := Detour.stay.walk (remainder path allowed)
  segments.drop (segments.length - detour.climbs) <+: detour.names

theorem decodeDots_of_literal {segment : String} (h : LiteralSegment segment) :
    decodeDots segment = segment := by
  rw [decodeDots, decodeDotChars_of_not_hasEncodedDot h.2, String.ofList_toList]

theorem hasEncodedDot_decodeDots (segment : String) :
    hasEncodedDot (decodeDots segment).toList = false := by
  rw [decodeDots, String.toList_ofList]
  exact hasEncodedDot_decodeDotChars segment.toList

/-- What a path leads to has no dots to remove. -/
theorem location_literal (path : String) : ∀ segment ∈ location path, LiteralSegment segment := by
  intro segment hsegment
  refine ⟨removeDotSegments_plain (by simp) segment hsegment, ?_⟩
  rcases mem_removeDotSegments hsegment with hin | hin | rfl
  · cases hin
  · obtain ⟨before, -, rfl⟩ := List.mem_map.1 hin
    exact hasEncodedDot_decodeDots before
  · rfl

/-- An allowed path has the segments of the prefix in front. -/
theorem urlSegments_of_allowed {path allowed : String} (h : pathIsAllowed path allowed = true)
    (hroot : normalizedPrefix allowed ≠ "/") :
    urlSegments (normalizedPrefix allowed) <+: urlSegments (normalizedPath path) := by
  simp only [pathIsAllowed, if_neg hroot] at h
  split at h
  · cases h
  split at h
  · cases h
  rw [Bool.or_eq_true, decide_eq_true_eq, decide_eq_true_eq] at h
  rcases h with heq | ⟨behind, hbehind⟩
  · exact heq ▸ List.prefix_rfl
  · have hsplit : pathSegments (normalizedPath path) =
        pathSegments (normalizedPrefix allowed) ++ pathSegments (String.ofList behind) := by
      have htext : normalizedPath path =
          String.ofList ((normalizedPrefix allowed).toList ++ '/' :: behind) := by
        rw [← String.ofList_toList (s := normalizedPath path), ← hbehind]
        simp
      rw [htext]
      simp only [pathSegments, String.toList_ofList, List.splitOn_append_cons_self,
        List.map_append]
    have hne : pathSegments (normalizedPrefix allowed) ≠ [] := by simp [pathSegments]
    rw [urlSegments, urlSegments, hsplit, List.tail_append_of_ne_nil hne]
    exact List.prefix_append _ _

/-- Behind a prefix without dots the path makes the detour of its remainder. -/
theorem location_of_literal {path allowed : String}
    (hfront : urlSegments (normalizedPrefix allowed) <+: urlSegments (normalizedPath path))
    (hliteral : ∀ segment ∈ urlSegments (normalizedPrefix allowed), LiteralSegment segment) :
    location path =
      (Detour.stay.walk (remainder path allowed)).apply
        (urlSegments (normalizedPrefix allowed)) := by
  obtain ⟨behind, hbehind⟩ := hfront
  have hremainder : remainder path allowed = behind.map decodeDots := by
    rw [remainder, ← hbehind, List.drop_left]
  have hdecode : (urlSegments (normalizedPrefix allowed)).map decodeDots =
      urlSegments (normalizedPrefix allowed) := by
    conv_rhs => rw [← List.map_id (urlSegments (normalizedPrefix allowed))]
    exact List.map_congr_left fun segment hsegment =>
      decodeDots_of_literal (hliteral segment hsegment)
  have hplain : ∀ segment ∈ urlSegments (normalizedPrefix allowed), PlainSegment segment :=
    fun segment hsegment => (hliteral segment hsegment).1
  rw [location, ← hbehind, List.map_append, hdecode, ← hremainder,
    ← Detour.removeDotSegments_apply, Detour.apply_stay]
  by_cases hnil : remainder path allowed = []
  · rw [hnil, List.append_nil, removeDotSegments_of_plain hplain, List.nil_append]
    simp [removeDotSegments]
  · rw [removeDotSegments_append hplain hnil, List.nil_append]

/-- **Soundness of the allow-list.** An allowed path leads to the prefix or below it exactly when
    the prefix is the root, or has no dots to remove and the path comes back into it. -/
theorem atOrBelow_iff {path allowed : String} (h : pathIsAllowed path allowed = true) :
    AtOrBelow allowed (location path) ↔
      normalizedPrefix allowed = "/" ∨
        (∀ segment ∈ urlSegments (normalizedPrefix allowed), LiteralSegment segment) ∧
          ComesBack path allowed := by
  by_cases hroot : normalizedPrefix allowed = "/"
  · exact iff_of_true (Or.inl hroot) (Or.inl hroot)
  · have hfront := urlSegments_of_allowed h hroot
    rw [AtOrBelow, or_iff_right hroot, or_iff_right hroot]
    constructor
    · intro hbelow
      have hliteral : ∀ segment ∈ urlSegments (normalizedPrefix allowed),
          LiteralSegment segment :=
        fun segment hsegment => location_literal path segment (hbelow.subset hsegment)
      rw [location_of_literal hfront hliteral, Detour.prefix_apply_iff] at hbelow
      exact ⟨hliteral, hbelow⟩
    · rintro ⟨hliteral, hback⟩
      rw [location_of_literal hfront hliteral, Detour.prefix_apply_iff]
      exact hback

/-- An ordinary path below the prefix. -/
theorem atOrBelow_iff_results :
    AtOrBelow "/api/results" (location "/api/results/run-123") ↔
      normalizedPrefix "/api/results" = "/" ∨
        (∀ segment ∈ urlSegments (normalizedPrefix "/api/results"), LiteralSegment segment) ∧
          ComesBack "/api/results/run-123" "/api/results" :=
  atOrBelow_iff (by decide +kernel)

/-- A path that climbs out of the prefix is allowed. -/
theorem allowed_above :
    pathIsAllowed "/api/results/../admin" "/api/results" = true ∧
      ¬ AtOrBelow "/api/results" (location "/api/results/../admin") := by
  refine ⟨by decide +kernel, ?_⟩
  unfold AtOrBelow
  decide +kernel

end ConstellationTopology
