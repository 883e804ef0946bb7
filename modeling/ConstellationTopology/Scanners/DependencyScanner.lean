import ConstellationTopology.Library.Fallible
import ConstellationTopology.Library.Lines
import ConstellationTopology.Packets.PayloadFraming

set_option autoImplicit false

/-! # The dependency scanner

`scanners/dependency_scanner.py`: the upstream names that the manifest files of a repository
declare. `pyproject.toml` is read line by line with one flag, which a line `dependencies =` raises
and a blank line or a line that starts with a bracket lowers. Which lines the flag reaches is said
without it by `InReach`, and the scan names what stands on these (`mem_scanPyprojectLines_iff`). -/

namespace ConstellationTopology

/-! ## Data -/

/-- What a dependency was read from. -/
inductive SourceType
  | file
  | inference
  | unknown
  deriving DecidableEq, Repr

/-- A dependency that was found. -/
structure EvidenceItem where
  sourceFile : String
  sourceType : SourceType := .file
  excerpt : String := ""
  lineNumber : Option ℕ := none
  deriving DecidableEq, Repr

/-- The files of a repository: `none` where nothing exists, an error for what cannot be read. -/
abbrev RepositoryFiles := String → Option (Except String ByteArray)

/-- What ends a scan: the `ValueError` of the scanner, or an exception nothing translates. -/
inductive ScanError
  | value (message : String)
  | uncaught (exception message : String)

/-- What `read_text` runs into. -/
inductive ReadFailure
  | os (message : String)
  | decode (message : String)

/-- `deps` and `evidence`. -/
structure ScanState where
  deps : List String := []
  evidence : List EvidenceItem := []

/-- A name that is not listed yet is listed with its evidence. -/
def ScanState.add (state : ScanState) (depName : String) (item : EvidenceItem) : ScanState :=
  if depName ∈ state.deps then state
  else { deps := state.deps ++ [depName], evidence := state.evidence ++ [item] }

/-- `read_text(encoding="utf-8")`. -/
def readSource (python : PythonReader) : Except String ByteArray → Except ReadFailure String
  | .error message => .error (.os message)
  | .ok bytes =>
      match String.fromUTF8? bytes with
      | none => .error (.decode (python.decodeError bytes))
      | some text => .ok (String.ofList (universalNewlines text.toList))

/-- A failed reading that the scanner does not catch. -/
def ReadFailure.uncaught : ReadFailure → ScanError
  | os message => .uncaught "OSError" message
  | decode message => .uncaught "UnicodeDecodeError" message

/-! ## Names -/

/-- `[A-Za-z0-9_\-\.]`. -/
def nameChar (ch : Char) : Bool := ch.isAlphanum || ch = '_' || ch = '-' || ch = '.'

/-- The name at the head of a text. -/
def nameRun (text : List Char) : Option String :=
  match text.takeWhile nameChar with
  | [] => none
  | run => some (String.ofList run)

/-- `^dependencies\s*=`. -/
def opensDependencies (stripped : String) : Bool :=
  match "dependencies".toList.isPrefixOf? stripped.toList with
  | some rest => (rest.dropWhile (· ∈ blanks)).head? = some '='
  | none => false

/-- The characters of `strip("\"[] ',")`. -/
def listMarks : List Char := ['"', '[', ']', ' ', '\'', ',']

/-- `stripped.strip("\"[] ',")`. -/
def stripMarks (stripped : String) : List Char :=
  ((stripped.toList.dropWhile (· ∈ listMarks)).reverse.dropWhile (· ∈ listMarks)).reverse

/-- `^["\']?([A-Za-z0-9_\-\.]+)`, its group stripped and lowered, unless that is empty. -/
def pyprojectName (stripped : String) : Option String :=
  let chars := stripMarks stripped
  let unquoted := if chars.head? = some '"' ∨ chars.head? = some '\'' then chars.tail else chars
  ((nameRun unquoted).map fun name => lowerAscii (strip name)).filter fun depName => depName ≠ ""

/-! ## The manifest files -/

/-- The dependency of one line. -/
def pyprojectItem (depName : String) (lineNumber : ℕ) : EvidenceItem where
  sourceFile := "pyproject.toml"
  excerpt := "dep:" ++ depName
  lineNumber := some lineNumber

/-- The loop over the lines of `pyproject.toml`, from line `i` on. -/
def scanPyprojectLines : ℕ → Bool → ScanState → List String → ScanState
  | _, _, state, [] => state
  | i, inDeps, state, line :: rest =>
      let stripped := strip line
      let inDeps := if "[project]".toList <+: stripped.toList then false else inDeps
      if opensDependencies stripped then scanPyprojectLines (i + 1) true state rest
      else if inDeps then
        if "[".toList <+: stripped.toList ∨ stripped = "" then
          scanPyprojectLines (i + 1) false state rest
        else
          match pyprojectName stripped with
          | some depName =>
              scanPyprojectLines (i + 1) true (state.add depName (pyprojectItem depName i)) rest
          | none => scanPyprojectLines (i + 1) true state rest
      else scanPyprojectLines (i + 1) false state rest

/-- The lines of `pyproject.toml`. -/
def scanPyproject (python : PythonReader) (files : RepositoryFiles) (state : ScanState) :
    Except ScanError ScanState :=
  match files "pyproject.toml" with
  | none => .ok state
  | some file => do
      let text ← (readSource python file).mapError ReadFailure.uncaught
      return scanPyprojectLines 1 false state (splitLines text)

/-- One line of `requirements.txt`. -/
def scanRequirement (state : ScanState) (numbered : String × ℕ) : ScanState :=
  let line := strip numbered.1
  if line ≠ "" ∧ ¬ "#".toList <+: line.toList then
    match (nameRun line.toList).map lowerAscii with
    | some depName =>
        state.add depName
          { sourceFile := "requirements.txt"
            excerpt := "dep:" ++ depName
            lineNumber := some numbered.2 }
    | none => state
  else state

/-- The lines of `requirements.txt`. -/
def scanRequirements (python : PythonReader) (files : RepositoryFiles) (state : ScanState) :
    Except ScanError ScanState :=
  match files "requirements.txt" with
  | none => .ok state
  | some file => do
      let text ← (readSource python file).mapError ReadFailure.uncaught
      return ((splitLines text).zipIdx 1).foldl scanRequirement state

/-- One section of `package.json`. -/
def scanSection (repoId : String) (data : Json) (state : ScanState) (packageSection : String) :
    Except ScanError ScanState :=
  match (data.get? packageSection).getD (.obj []) with
  | .obj declared =>
      .ok (declared.foldl (fun state field =>
        state.add field.1 { sourceFile := "package.json", excerpt := "dep:" ++ field.1 }) state)
  | _ => .error (.value (repoId ++ ": package.json " ++ packageSection ++ " must be an object"))

/-- The dependencies of `package.json`. -/
def scanPackageJson (python : PythonReader) (files : RepositoryFiles) (repoId : String)
    (state : ScanState) : Except ScanError ScanState :=
  match files "package.json" with
  | none => .ok state
  | some file => do
      let invalid (exc : String) : ScanError :=
        .value (repoId ++ ": invalid package.json: " ++ exc)
      let text ← (readSource python file).mapError fun failure =>
        match failure with
        | .os message => invalid message
        | .decode message => .uncaught "UnicodeDecodeError" message
      let data ← (python.loads text).mapError invalid
      demand (data.isObject = true) (.value (repoId ++ ": package.json root must be an object"))
      ["dependencies", "devDependencies", "peerDependencies"].foldlM (scanSection repoId data) state

/-- `scan_dependencies`. -/
def scanDependencies (python : PythonReader) (files : RepositoryFiles) (repoId : String) :
    Except ScanError (List String × List EvidenceItem) := do
  let state ← scanPyproject python files {}
  let state ← scanRequirements python files state
  let state ← scanPackageJson python files repoId state
  return (state.deps, state.evidence)

/-! ## Listed names -/

theorem ScanState.mem_add_iff (state : ScanState) (depName : String) (item : EvidenceItem)
    (name : String) : name ∈ (state.add depName item).deps ↔ name ∈ state.deps ∨ name = depName := by
  unfold add
  split
  · next hlisted =>
      constructor
      · exact Or.inl
      · rintro (hmem | rfl)
        · exact hmem
        · exact hlisted
  · simp

/-- No name is listed twice, and each has one item of evidence that quotes it. -/
structure ScanState.Listed (state : ScanState) : Prop where
  nodup : state.deps.Nodup
  quoted : state.evidence.map EvidenceItem.excerpt = state.deps.map fun depName => "dep:" ++ depName

theorem ScanState.listed_add {state : ScanState} (h : state.Listed) {depName : String}
    {item : EvidenceItem} (hitem : item.excerpt = "dep:" ++ depName) :
    (state.add depName item).Listed := by
  unfold add
  split
  · exact h
  · next hnew =>
      have hdisjoint : List.Disjoint state.deps [depName] := by simpa using hnew
      refine ⟨h.nodup.append (List.nodup_singleton _) hdisjoint, ?_⟩
      simp only [List.map_append, List.map_singleton, hitem, h.quoted]

/-! ## The lines in reach -/

/-- A line that raises the flag. -/
def Opens (line : String) : Prop := opensDependencies (strip line) = true

/-- A line that lowers the flag: blank, or with a bracket first. -/
def Stops (line : String) : Prop := strip line = "" ∨ "[".toList <+: (strip line).toList

/-- The line comes among `lines` before any that lowers the flag, and does neither itself. -/
def Follows (lines : List String) (line : String) : Prop :=
  ∃ between rest, lines = between ++ line :: rest ∧ (∀ other ∈ between, ¬ Stops other) ∧
    ¬ Stops line ∧ ¬ Opens line

/-- The line follows a line `dependencies =`. -/
def InReach (lines : List String) (line : String) : Prop :=
  ∃ before opener rest, lines = before ++ opener :: rest ∧ Opens opener ∧ Follows rest line

theorem follows_nil (line : String) : ¬ Follows [] line := by
  rintro ⟨between, rest, heq, -⟩
  simp at heq

theorem follows_cons_iff (head line : String) (rest : List String) :
    Follows (head :: rest) line ↔
      ¬ Stops head ∧ ((line = head ∧ ¬ Opens head) ∨ Follows rest line) := by
  constructor
  · rintro ⟨between, behind, heq, hbetween, hline, hopens⟩
    cases between with
    | nil =>
        obtain ⟨rfl, rfl⟩ := List.cons.inj heq
        exact ⟨hline, Or.inl ⟨rfl, hopens⟩⟩
    | cons first between =>
        obtain ⟨rfl, rfl⟩ := List.cons.inj heq
        exact ⟨hbetween _ List.mem_cons_self, Or.inr ⟨between, behind, rfl,
          fun other hother => hbetween other (List.mem_cons_of_mem _ hother), hline, hopens⟩⟩
  · rintro ⟨hhead, ⟨rfl, hopens⟩ | ⟨between, behind, rfl, hbetween, hline, hopens⟩⟩
    · exact ⟨[], rest, rfl, by simp, hhead, hopens⟩
    · exact ⟨head :: between, behind, rfl, List.forall_mem_cons.2 ⟨hhead, hbetween⟩, hline, hopens⟩

theorem inReach_nil (line : String) : ¬ InReach [] line := by
  rintro ⟨before, opener, rest, heq, -⟩
  simp at heq

theorem inReach_cons_iff (head line : String) (rest : List String) :
    InReach (head :: rest) line ↔ (Opens head ∧ Follows rest line) ∨ InReach rest line := by
  constructor
  · rintro ⟨before, opener, behind, heq, hopens, hfollows⟩
    cases before with
    | nil =>
        obtain ⟨rfl, rfl⟩ := List.cons.inj heq
        exact Or.inl ⟨hopens, hfollows⟩
    | cons first before =>
        obtain ⟨rfl, rfl⟩ := List.cons.inj heq
        exact Or.inr ⟨before, opener, behind, rfl, hopens, hfollows⟩
  · rintro (⟨hopens, hfollows⟩ | ⟨before, opener, behind, rfl, hopens, hfollows⟩)
    · exact ⟨[], head, rest, rfl, hopens, hfollows⟩
    · exact ⟨head :: before, opener, behind, rfl, hopens, hfollows⟩

/-! ## What the scan finds -/

/-- A line that opens the array starts with a letter. -/
theorem head_of_opens {line : String} (h : Opens line) :
    (strip line).toList.head? = some 'd' := by
  unfold Opens opensDependencies at h
  split at h
  · next rest heq =>
      rw [List.isPrefixOf?_eq_some_iff_append_eq] at heq
      rw [← heq]
      rfl
  · cases h

theorem not_stops_of_opens {line : String} (h : Opens line) : ¬ Stops line := by
  have hhead := head_of_opens h
  rintro (hempty | ⟨behind, hbracket⟩)
  · simp [hempty] at hhead
  · rw [← hbracket] at hhead
    simp at hhead

theorem stops_of_project {line : String} (h : "[project]".toList <+: (strip line).toList) :
    Stops line :=
  Or.inr (List.IsPrefix.trans (by decide) h)

/-- **The scan of the lines.** A name is listed if it was before, or if it stands on a line in reach
    of a line `dependencies =`, which may be one that was read before these. -/
theorem mem_scanPyprojectLines_iff (i : ℕ) (inDeps : Bool) (state : ScanState)
    (lines : List String) (name : String) :
    name ∈ (scanPyprojectLines i inDeps state lines).deps ↔
      name ∈ state.deps ∨ ∃ line, ((inDeps = true ∧ Follows lines line) ∨ InReach lines line) ∧
        pyprojectName (strip line) = some name := by
  induction lines generalizing i inDeps state with
  | nil => simp [scanPyprojectLines, follows_nil, inReach_nil]
  | cons head rest ih =>
      unfold scanPyprojectLines
      simp only [follows_cons_iff, inReach_cons_iff]
      by_cases hopens : opensDependencies (strip head) = true
      · have hstops : ¬ Stops head := not_stops_of_opens hopens
        have hraised : Opens head := hopens
        rw [if_pos hopens, ih]
        simp only [hraised, hstops]
        grind
      · have hlowered : ¬ Opens head := hopens
        rw [if_neg hopens]
        by_cases hproject : "[project]".toList <+: (strip head).toList
        · have hstops : Stops head := stops_of_project hproject
          rw [if_pos hproject, if_neg (by decide), ih]
          simp only [hlowered, hstops]
          grind
        · rw [if_neg hproject]
          cases inDeps with
          | false =>
              rw [if_neg (by decide), ih]
              simp only [hlowered]
              grind
          | true =>
              rw [if_pos rfl]
              by_cases hstops : Stops head
              · rw [if_pos hstops.symm, ih]
                simp only [hlowered, hstops]
                grind
              · rw [if_neg fun h => hstops h.symm]
                -- the line is an entry: it names something, or nothing
                cases hname : pyprojectName (strip head) with
                | none =>
                    simp only
                    rw [ih]
                    simp only [hlowered, hstops]
                    grind
                | some depName =>
                    simp only
                    rw [ih, ScanState.mem_add_iff]
                    simp only [hlowered, hstops]
                    grind

/-- One line lists at most one name. -/
theorem scanPyprojectLines_cons (i : ℕ) (inDeps : Bool) (state : ScanState) (head : String)
    (rest : List String) :
    ∃ inDeps' state', scanPyprojectLines i inDeps state (head :: rest) =
        scanPyprojectLines (i + 1) inDeps' state' rest ∧
      (state' = state ∨ ∃ depName, state' = state.add depName (pyprojectItem depName i)) := by
  simp only [scanPyprojectLines]
  generalize (if "[project]".toList <+: (strip head).toList then false else inDeps) = raised
  by_cases hopens : opensDependencies (strip head) = true
  · rw [if_pos hopens]
    exact ⟨_, _, rfl, Or.inl rfl⟩
  · rw [if_neg hopens]
    cases raised with
    | false => exact ⟨_, _, rfl, Or.inl rfl⟩
    | true =>
        rw [if_pos rfl]
        by_cases hstops : "[".toList <+: (strip head).toList ∨ strip head = ""
        · rw [if_pos hstops]
          exact ⟨_, _, rfl, Or.inl rfl⟩
        · rw [if_neg hstops]
          cases pyprojectName (strip head) with
          | none => exact ⟨_, _, rfl, Or.inl rfl⟩
          | some depName => exact ⟨_, _, rfl, Or.inr ⟨depName, rfl⟩⟩

theorem ScanState.listed_empty : ({} : ScanState).Listed := ⟨List.nodup_nil, rfl⟩

theorem listed_scanPyprojectLines (i : ℕ) (inDeps : Bool) {state : ScanState} (h : state.Listed)
    (lines : List String) : (scanPyprojectLines i inDeps state lines).Listed := by
  induction lines generalizing i inDeps state with
  | nil => exact h
  | cons head rest ih =>
      obtain ⟨inDeps', state', heq, rfl | ⟨depName, rfl⟩⟩ :=
        scanPyprojectLines_cons i inDeps state head rest
      · rw [heq]
        exact ih _ _ h
      · rw [heq]
        exact ih _ _ (ScanState.listed_add h rfl)

theorem listed_scanRequirement {state : ScanState} (h : state.Listed) (numbered : String × ℕ) :
    (scanRequirement state numbered).Listed := by
  simp only [scanRequirement]
  generalize strip numbered.1 = line
  by_cases hcode : line ≠ "" ∧ ¬ "#".toList <+: line.toList
  · rw [if_pos hcode]
    cases (nameRun line.toList).map lowerAscii with
    | none => exact h
    | some depName => exact ScanState.listed_add h rfl
  · rw [if_neg hcode]
    exact h

theorem listed_scanSection {repoId packageSection : String} {data : Json} {state state' : ScanState}
    (h : state.Listed) (hscan : scanSection repoId data state packageSection = .ok state') :
    state'.Listed := by
  unfold scanSection at hscan
  split at hscan
  · next declared _ =>
      rw [← Except.ok.inj hscan]
      exact List.foldlRecOn _ _ h fun state hstate field _ => ScanState.listed_add hstate rfl
  · cases hscan

/-- Whatever the manifest files hold, a scan that succeeds lists each name once. -/
theorem scanDependencies_listed {python : PythonReader} {files : RepositoryFiles} {repoId : String}
    {deps : List String} {evidence : List EvidenceItem}
    (h : scanDependencies python files repoId = .ok (deps, evidence)) :
    (ScanState.mk deps evidence).Listed := by
  unfold scanDependencies at h
  obtain ⟨project, hproject, h⟩ := bind_eq_ok.1 h
  obtain ⟨required, hrequired, h⟩ := bind_eq_ok.1 h
  obtain ⟨package, hpackage, h⟩ := bind_eq_ok.1 h
  have hproject' : project.Listed := by
    unfold scanPyproject at hproject
    split at hproject
    · exact Except.ok.inj hproject ▸ ScanState.listed_empty
    · obtain ⟨text, -, hlines⟩ := bind_eq_ok.1 hproject
      exact pure_eq_ok.1 hlines ▸ listed_scanPyprojectLines _ _ ScanState.listed_empty _
  have hrequired' : required.Listed := by
    unfold scanRequirements at hrequired
    split at hrequired
    · exact Except.ok.inj hrequired ▸ hproject'
    · obtain ⟨text, -, hlines⟩ := bind_eq_ok.1 hrequired
      rw [← pure_eq_ok.1 hlines]
      exact List.foldlRecOn _ _ hproject' fun state hstate numbered _ =>
        listed_scanRequirement hstate numbered
  have hpackage' : package.Listed := by
    unfold scanPackageJson at hpackage
    split at hpackage
    · exact Except.ok.inj hpackage ▸ hrequired'
    · obtain ⟨text, -, hpackage⟩ := bind_eq_ok.1 hpackage
      obtain ⟨data, -, hpackage⟩ := bind_eq_ok.1 hpackage
      obtain ⟨_, -, hpackage⟩ := bind_eq_ok.1 hpackage
      simp only [List.foldlM_cons, List.foldlM_nil] at hpackage
      obtain ⟨first, hfirst, hpackage⟩ := bind_eq_ok.1 hpackage
      obtain ⟨second, hsecond, hpackage⟩ := bind_eq_ok.1 hpackage
      obtain ⟨third, hthird, hpackage⟩ := bind_eq_ok.1 hpackage
      rw [← pure_eq_ok.1 hpackage]
      exact listed_scanSection (listed_scanSection (listed_scanSection hrequired' hfirst) hsecond)
        hthird
  have hresult := pure_eq_ok.1 h
  rw [Prod.mk.injEq] at hresult
  rw [← hresult.1, ← hresult.2]
  exact hpackage'

/-! ## A repository with a `pyproject.toml` only -/

/-- No other manifest file is present. -/
def onlyPyproject (text : String) : RepositoryFiles := fun file =>
  if file = "pyproject.toml" then some (.ok text.toUTF8) else none

/-- The lines that the scanner reads. -/
def manifestLines (text : String) : List String :=
  splitLines (String.ofList (universalNewlines text.toList))

theorem scanDependencies_onlyPyproject (python : PythonReader) (text repoId : String) :
    scanDependencies python (onlyPyproject text) repoId =
      .ok ((scanPyprojectLines 1 false {} (manifestLines text)).deps,
        (scanPyprojectLines 1 false {} (manifestLines text)).evidence) := by
  have hread : readSource python (.ok text.toUTF8) =
      .ok (String.ofList (universalNewlines text.toList)) := by
    rw [readSource, fromUTF8?_toUTF8]
  have hpyproject : scanPyproject python (onlyPyproject text) {} =
      .ok (scanPyprojectLines 1 false {} (manifestLines text)) := by
    simp only [scanPyproject, onlyPyproject, if_true, hread]
    rfl
  have hrequirements : ∀ state, scanRequirements python (onlyPyproject text) state = .ok state :=
    fun _ => rfl
  have hpackage : ∀ state, scanPackageJson python (onlyPyproject text) repoId state = .ok state :=
    fun _ => rfl
  unfold scanDependencies
  rw [hpyproject]
  simp only [bind, Except.bind, hrequirements, hpackage]
  rfl

end ConstellationTopology
