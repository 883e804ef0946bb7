import Mathlib.Data.String.Basic

set_option autoImplicit false

/-! # POSIX paths

`normalize_source_path` and the resolution of a relative destination below a root. A resolved path
is the list of its components; there are no symbolic links. -/

namespace ConstellationTopology

/-- A resolved absolute path, as its components. -/
abbrev Path := List String

/-- Named here, so that every test of paths refers to one proof. -/
instance : LawfulBEq Path := inferInstance

/-- `text.replace(old, new)` for single characters. -/
def replaceChar (old new : Char) (text : String) : String :=
  String.ofList (text.toList.map fun ch => if ch = old then new else ch)

theorem replaceChar_of_notMem {old new : Char} {text : String} (h : old ∉ text.toList) :
    replaceChar old new text = text := by
  have hmap : (text.toList.map fun ch => if ch = old then new else ch) = text.toList := by
    conv_rhs => rw [← List.map_id text.toList]
    refine List.map_congr_left fun ch hch => ?_
    have hne : ch ≠ old := fun heq => h (heq ▸ hch)
    rw [if_neg hne]
    rfl
  rw [replaceChar, hmap, String.ofList_toList]

theorem notMem_replaceChar {old new : Char} (h : old ≠ new) (text : String) :
    old ∉ (replaceChar old new text).toList := by
  rw [replaceChar, String.toList_ofList, List.mem_map]
  rintro ⟨ch, _, heq⟩
  split at heq
  · exact h heq.symm
  · next hne => exact hne heq

/-- The text between the slashes, empty segments included. -/
def pathSegments (path : String) : List String := (path.toList.splitOn '/').map String.ofList

/-- `PurePosixPath(raw).as_posix()` of a relative path: empty and `.` segments go. -/
def purePosixPath (raw : String) : String :=
  match (pathSegments raw).filter fun segment => segment ≠ "" ∧ segment ≠ "." with
  | [] => "."
  | parts => String.intercalate "/" parts

/-- `^[A-Za-z]:[\\/]` at the start of the text. -/
def windowsAbsolute (raw : String) : Bool :=
  match raw.toList with
  | letter :: ':' :: separator :: _ => letter.isAlpha && (separator == '/' || separator == '\\')
  | _ => false

/-- `normalize_source_path` without a repository root. -/
def normalizeSourcePath (path : String) : Except String String :=
  let raw := replaceChar '\\' '/' path
  if raw.toList.head? = some '/' ∨ windowsAbsolute raw then
    .error ("absolute source path is not canonical: " ++ path)
  else
    let normalized := purePosixPath raw
    if normalized = "" ∨ normalized = "." then .ok "."
    else if normalized = ".." ∨ "../".toList <+: normalized.toList then
      .error ("source path escapes repository root: " ++ path)
    else .ok normalized

/-! ## Resolution -/

/-- One segment of `Path.resolve`: `..` pops, the root has no parent. -/
def resolveSegment (path : Path) (segment : String) : Path :=
  if segment = "" ∨ segment = "." then path
  else if segment = ".." then path.dropLast
  else path ++ [segment]

/-- `(root / destination).resolve()`. -/
def resolvePath (root : Path) (destination : String) : Path :=
  (pathSegments destination).foldl resolveSegment
    (if destination.toList.head? = some '/' then [] else root)

/-- A single ordinary name is one component below the root. -/
theorem resolvePath_name {root : Path} {name : String} (hslash : '/' ∉ name.toList)
    (hempty : name ≠ "") (hdot : name ≠ ".") (hdots : name ≠ "..") :
    resolvePath root name = root ++ [name] := by
  have hsegments : pathSegments name = [name] := by
    simp [pathSegments, List.splitOn_eq_singleton hslash]
  have hhead : name.toList.head? ≠ some '/' := fun h => hslash (List.mem_of_head? h)
  simp [resolvePath, hsegments, hhead, resolveSegment, hempty, hdot, hdots]

/-- An ordinary file name is its own normal form. -/
theorem normalizeSourcePath_name {name : String} (hslash : '/' ∉ name.toList)
    (hback : '\\' ∉ name.toList) (hcolon : ':' ∉ name.toList) (hempty : name ≠ "")
    (hdot : name ≠ ".") (hdots : name ≠ "..") : normalizeSourcePath name = .ok name := by
  have hraw : replaceChar '\\' '/' name = name := replaceChar_of_notMem hback
  have hhead : name.toList.head? ≠ some '/' := fun h => hslash (List.mem_of_head? h)
  have hwindows : windowsAbsolute name = false := by
    unfold windowsAbsolute
    split
    · next heq =>
        rw [heq] at hcolon
        simp at hcolon
    · rfl
  have hsegments : pathSegments name = [name] := by
    simp [pathSegments, List.splitOn_eq_singleton hslash]
  have hjoin : String.intercalate "/" [name] = name := rfl
  have hpure : purePosixPath name = name := by
    simp [purePosixPath, hsegments, hempty, hdot, hjoin]
  have hescape : ¬ "../".toList <+: name.toList :=
    fun hpre => hslash (hpre.subset (by decide))
  simp only [normalizeSourcePath, hraw, hhead, hwindows, hpure, hempty, hdot, hdots, hescape,
    Bool.false_eq_true, or_self, if_false]

/-! ## File URIs -/

/-- One byte of `urllib.parse.quote`. -/
def quoteByte (byte : UInt8) : List Char :=
  let ch := Char.ofNat byte.toNat
  if ch.isAlphanum ∨ ch ∈ ['_', '.', '-', '~'] then [ch]
  else '%' :: (Nat.toDigits 16 (256 + byte.toNat)).tail.map Char.toUpper

/-- `path.as_uri()`. -/
def pathToFileUri (path : Path) : String :=
  "file://" ++ String.ofList (path.flatMap fun part =>
    '/' :: part.toUTF8.toList.flatMap quoteByte)

end ConstellationTopology
