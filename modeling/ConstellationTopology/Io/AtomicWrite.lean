import ConstellationTopology.Io.FileSystemOutputSink

set_option autoImplicit false

/-! # One write, call by call

`_atomic_write` with the calls it makes of the operating system: the parents are made, the bytes go
to a temporary file beside the target, that file is linked to a target that must not exist or moved
over one that may, and what is left of it is removed. Each call may fail, which decides what the
tree holds when the error arrives. Whatever fails, short of the removal itself, the files are as
the outcome says (`atomicWriteCalls_files`). -/

namespace ConstellationTopology

/-- What the operating system refuses while one entry is committed, besides what the tree itself
    rules out, and what it chooses. -/
structure EntryFaults where
  /-- `str(exc)` of the `OSError` of the write, if there is one. -/
  message : String := ""
  /-- The random part of the name of the temporary file. -/
  random : String := ""
  /-- The exception that reading the target again raises. -/
  reading : Option String := none
  /-- How many names of the parent are there when `mkdir` fails. -/
  parents : Option ℕ := none
  opening : Bool := false
  /-- The bytes in the file when writing it fails. -/
  writing : Option ByteArray := none
  placing : Bool := false
  cleanup : Bool := false

namespace EntryFaults

variable (faults : EntryFaults)

/-! ## The calls -/

/-- `target.parent.mkdir(parents=True, exist_ok=True)`. -/
def makeParents (target : Path) (tree : FileTree) : Except String Unit × FileTree :=
  if tree.throughFile target.dropLast then (.error faults.message, tree)
  else
    match faults.parents with
    | some made => (.error faults.message, tree.makeDirectory (target.dropLast.take made))
    | none => (.ok (), tree.makeDirectory target.dropLast)

/-- The bytes go to a file that has been opened. -/
def writeBytes (path : Path) (content : ByteArray) (tree : FileTree) :
    Except String Unit × FileTree :=
  match faults.writing with
  | some part => (.error faults.message, tree.writeFile path part)
  | none => (.ok (), tree.writeFile path content)

/-- The write of a policy without atomic writes. -/
def writeDirect (target : Path) (content : ByteArray) (exclusive : Bool) (tree : FileTree) :
    Except String Unit × FileTree :=
  if faults.opening ∨ tree.pathExists target ∧ (exclusive ∨ tree.readFile? target = none) then
    (.error faults.message, tree)
  else faults.writeBytes target content tree

/-- The name `tempfile.mkstemp` gives. -/
def temporaryPath (target : Path) : Path :=
  target.dropLast ++ ["." ++ target.getLast?.getD "" ++ "." ++ faults.random ++ ".tmp"]

/-- `os.link` where the target must not exist, `os.replace` elsewhere. -/
def placeTemporary (target : Path) (exclusive : Bool) (tree : FileTree) :
    Except String Unit × FileTree :=
  let placed :=
    if exclusive then tree.link (faults.temporaryPath target) target
    else tree.replaceFile (faults.temporaryPath target) target
  match faults.placing, placed with
  | false, some tree' => (.ok (), tree')
  | _, _ => (.error faults.message, tree)

/-- The `finally`: an error of its own hides what came before. -/
def removeTemporary (target : Path) (outcome : Except String Unit × FileTree) :
    Except String Unit × FileTree :=
  if faults.cleanup then (.error faults.message, outcome.2)
  else (outcome.1, outcome.2.unlink (faults.temporaryPath target))

/-- The write of a policy with atomic writes. -/
def writeStaged (target : Path) (content : ByteArray) (exclusive : Bool) (tree : FileTree) :
    Except String Unit × FileTree :=
  if faults.opening ∨ tree.pathExists (faults.temporaryPath target) then
    (.error faults.message, tree)
  else
    faults.removeTemporary target
      (match faults.writeBytes (faults.temporaryPath target) content tree with
      | (.error message, tree') => (.error message, tree')
      | (.ok (), tree') => faults.placeTemporary target exclusive tree')

end EntryFaults

/-- `_atomic_write`. -/
def FileSystemOutputSink.atomicWriteCalls (sink : FileSystemOutputSink) (target : Path)
    (content : ByteArray) (exclusive : Bool) (faults : EntryFaults) (tree : FileTree) :
    Except String Unit × FileTree :=
  match faults.makeParents target tree with
  | (.error message, tree') => (.error message, tree')
  | (.ok (), tree') =>
      if sink.policy.atomicWrites then faults.writeStaged target content exclusive tree'
      else faults.writeDirect target content exclusive tree'

/-! ## What is left of a write -/

/-- The files after a write are as its outcome says: the bytes are at the target, or nothing has
    changed; no other file has. -/
structure WriteOutcome (target : Path) (content : ByteArray) (outcome : Except String Unit)
    (before after : FileTree) : Prop where
  bytes : outcome = .ok () → after.readFile? target = some content
  others : ∀ path, path ≠ target ∨ outcome ≠ .ok () →
    after.readFile? path = before.readFile? path

/-- An error that has left the files as they were. -/
theorem WriteOutcome.of_error {target : Path} {content : ByteArray} {message : String}
    {before after : FileTree} (h : ∀ path, after.readFile? path = before.readFile? path) :
    WriteOutcome target content (.error message) before after :=
  ⟨nofun, fun path _ => h path⟩

/-- Calls that change no file may come first. -/
theorem WriteOutcome.of_before {target : Path} {content : ByteArray}
    {outcome : Except String Unit} {tree before after : FileTree}
    (h : WriteOutcome target content outcome before after)
    (hsame : ∀ path, before.readFile? path = tree.readFile? path) :
    WriteOutcome target content outcome tree after :=
  ⟨h.bytes, fun path hpath => (h.others path hpath).trans (hsame path)⟩

namespace EntryFaults

variable (faults : EntryFaults)

theorem makeParents_files (target : Path) (tree : FileTree) (path : Path) :
    (faults.makeParents target tree).2.readFile? path = tree.readFile? path := by
  unfold makeParents
  split
  · rfl
  · cases faults.parents with
    | some made => exact tree.readFile?_makeDirectory _ path
    | none => exact tree.readFile?_makeDirectory _ path

/-- The name of the temporary file is longer than the target's. -/
theorem temporaryPath_ne (target : Path) : faults.temporaryPath target ≠ target := by
  intro heq
  have hlast : (faults.temporaryPath target).getLast? =
      some ("." ++ target.getLast?.getD "" ++ "." ++ faults.random ++ ".tmp") := by
    simp [temporaryPath]
  rw [heq] at hlast
  rw [hlast, Option.getD_some] at hlast
  have hlength := congrArg String.length (Option.some.inj hlast)
  simp only [String.length_append] at hlength
  have hdot : ".".length = 1 := rfl
  omega

/-- The bytes in the temporary file do not outlast its removal. -/
theorem readFile?_staged_unlink {tree : FileTree} {temporary : Path}
    (hfree : tree.pathExists temporary = false) (content : ByteArray) (path : Path) :
    ((tree.writeFile temporary content).unlink temporary).readFile? path =
      tree.readFile? path := by
  by_cases hpath : path = temporary
  · rw [hpath, FileTree.readFile?_unlink_self, FileTree.readFile?_of_not_pathExists hfree]
  · rw [FileTree.readFile?_unlink_ne _ hpath, FileTree.readFile?_writeFile_ne _ _ hpath]

/-- The temporary file put into place holds the bytes, and nothing else has changed. -/
theorem placeTemporary_files {target : Path} {content : ByteArray} {exclusive : Bool}
    {tree : FileTree} (hstaged : tree.readFile? (faults.temporaryPath target) = some content)
    (hok : (faults.placeTemporary target exclusive tree).1 = .ok ()) :
    (faults.placeTemporary target exclusive tree).2.readFile? target = some content ∧
      ∀ other, other ≠ faults.temporaryPath target → other ≠ target →
        (faults.placeTemporary target exclusive tree).2.readFile? other =
          tree.readFile? other := by
  unfold placeTemporary at hok ⊢
  simp only at hok ⊢
  split at hok
  · next tree' hplacing hplaced =>
      cases exclusive with
      | true =>
          obtain ⟨hbytes, hothers⟩ := FileTree.readFile?_link hstaged hplaced
          exact ⟨hbytes, fun other _ => hothers other⟩
      | false => exact FileTree.readFile?_replaceFile hstaged hplaced
  · cases hok

/-- A temporary file that cannot be put into place leaves the tree alone. -/
theorem placeTemporary_error {target : Path} {exclusive : Bool} {tree : FileTree}
    (h : (faults.placeTemporary target exclusive tree).1 ≠ .ok ()) :
    faults.placeTemporary target exclusive tree = (.error faults.message, tree) := by
  unfold placeTemporary at h ⊢
  simp only at h ⊢
  split at h
  · exact absurd rfl h
  · rfl

theorem writeStaged_files {target : Path} {content : ByteArray} {exclusive : Bool}
    {tree : FileTree} (hcleanup : faults.cleanup = false) :
    WriteOutcome target content (faults.writeStaged target content exclusive tree).1 tree
      (faults.writeStaged target content exclusive tree).2 := by
  unfold writeStaged
  split
  · exact .of_error fun _ => rfl
  · next hopened =>
      have hfree : tree.pathExists (faults.temporaryPath target) = false := by
        simpa using fun h => hopened (Or.inr h)
      simp only [removeTemporary, hcleanup, Bool.false_eq_true, if_false, writeBytes]
      cases faults.writing with
      | some part => exact .of_error (readFile?_staged_unlink hfree part)
      | none =>
          have hstaged := tree.readFile?_writeFile_self (faults.temporaryPath target) content
          by_cases hok : (faults.placeTemporary target exclusive
              (tree.writeFile (faults.temporaryPath target) content)).1 = .ok ()
          · obtain ⟨hbytes, hothers⟩ := faults.placeTemporary_files hstaged hok
            refine ⟨fun _ => ?_, fun path hpath => ?_⟩
            · rw [FileTree.readFile?_unlink_ne _ (faults.temporaryPath_ne target).symm]
              exact hbytes
            · have hne : path ≠ target := hpath.resolve_right (not_not.2 hok)
              rw [← readFile?_staged_unlink hfree content path]
              by_cases htemporary : path = faults.temporaryPath target
              · rw [htemporary, FileTree.readFile?_unlink_self, FileTree.readFile?_unlink_self]
              · rw [FileTree.readFile?_unlink_ne _ htemporary,
                  FileTree.readFile?_unlink_ne _ htemporary, hothers path htemporary hne]
          · simp only [faults.placeTemporary_error hok]
            exact .of_error (readFile?_staged_unlink hfree content)

end EntryFaults

namespace FileSystemOutputSink

variable (sink : FileSystemOutputSink)

/-- **A write is all or nothing**, whichever call fails, unless the temporary file cannot be
    removed. -/
theorem atomicWriteCalls_files (hatomic : sink.policy.atomicWrites = true) {target : Path}
    {content : ByteArray} {exclusive : Bool} {faults : EntryFaults} {tree : FileTree}
    (hcleanup : faults.cleanup = false) :
    WriteOutcome target content (sink.atomicWriteCalls target content exclusive faults tree).1 tree
      (sink.atomicWriteCalls target content exclusive faults tree).2 := by
  have hparents := faults.makeParents_files target tree
  unfold atomicWriteCalls
  split
  · next message tree' heq =>
      rw [heq] at hparents
      exact .of_error hparents
  · next tree' heq =>
      rw [heq] at hparents
      rw [if_pos hatomic]
      exact (faults.writeStaged_files hcleanup).of_before hparents

/-- The write with one fault for each path has every outcome of the calls. -/
theorem atomicWriteCalls_refines (hatomic : sink.policy.atomicWrites = true) (target : Path)
    (content : ByteArray) (exclusive : Bool) {faults : EntryFaults} (tree : FileTree)
    (hcleanup : faults.cleanup = false) :
    ∃ writeFaults : WriteFaults,
      (sink.atomicWrite target content writeFaults tree).1 =
        (sink.atomicWriteCalls target content exclusive faults tree).1 ∧
      ∀ path, (sink.atomicWrite target content writeFaults tree).2.readFile? path =
        (sink.atomicWriteCalls target content exclusive faults tree).2.readFile? path := by
  have hfiles : WriteOutcome target content
      (sink.atomicWriteCalls target content exclusive faults tree).1 tree
      (sink.atomicWriteCalls target content exclusive faults tree).2 :=
    sink.atomicWriteCalls_files hatomic hcleanup
  obtain ⟨hbytes, hothers⟩ := hfiles
  cases houtcome : (sink.atomicWriteCalls target content exclusive faults tree).1 with
  | ok done =>
      refine ⟨fun _ => none, rfl, fun path => ?_⟩
      show (tree.writeFile target content).readFile? path = _
      by_cases hpath : path = target
      · rw [hpath, FileTree.readFile?_writeFile_self, hbytes houtcome]
      · rw [FileTree.readFile?_writeFile_ne _ _ hpath, hothers path (Or.inl hpath)]
  | error message =>
      refine ⟨fun _ => some { message }, ?_, fun path => ?_⟩
      · simp only [atomicWrite, hatomic]
      · simp only [atomicWrite, hatomic]
        rw [hothers path (Or.inr (by simp [houtcome]))]

end FileSystemOutputSink

end ConstellationTopology
