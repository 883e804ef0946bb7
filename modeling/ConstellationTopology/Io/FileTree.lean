import ConstellationTopology.Library.Table
import ConstellationTopology.Run.SourcePath

set_option autoImplicit false

/-! # The file tree the sinks write to

Regular files and explicit directories, keyed by resolved path. A directory that some file lies
below exists without an entry of its own. Whatever the operating system refuses is an error the
caller of an operation supplies. -/

namespace ConstellationTopology

/-- What stands at a path. -/
inductive FileNode
  | file (content : ByteArray)
  | directory

/-- A path and what stands there. -/
structure FileEntry where
  path : Path
  node : FileNode

/-- A tree: one entry for each path. -/
abbrev FileTree := Table FileEntry.path

namespace FileTree

/-- `path.is_file()` together with `path.read_bytes()`. -/
def readFile? (tree : FileTree) (path : Path) : Option ByteArray :=
  match Table.lookup tree path with
  | some ⟨_, .file content⟩ => some content
  | _ => none

/-- `path.exists()`: an entry at the path or below it. -/
def pathExists (tree : FileTree) (path : Path) : Bool :=
  tree.rows.any fun entry => path <+: entry.path

/-- The file's content is in place; its parents exist implicitly. -/
def writeFile (tree : FileTree) (path : Path) (content : ByteArray) : FileTree :=
  Table.upsert tree ⟨path, .file content⟩

@[simp] theorem readFile?_writeFile_self (tree : FileTree) (path : Path) (content : ByteArray) :
    (tree.writeFile path content).readFile? path = some content := by
  have h : Table.lookup (tree.writeFile path content) path = some ⟨path, .file content⟩ :=
    Table.lookup_upsert_self tree ⟨path, .file content⟩
  simp only [readFile?, h]

/-- Frame: a write changes no other file. -/
theorem readFile?_writeFile_ne (tree : FileTree) {path other : Path} (content : ByteArray)
    (h : other ≠ path) :
    (tree.writeFile path content).readFile? other = tree.readFile? other := by
  have hne : other ≠ (FileEntry.mk path (.file content)).path := h
  have hlookup : Table.lookup (tree.writeFile path content) other = Table.lookup tree other :=
    Table.lookup_upsert_ne tree hne
  simp only [readFile?, hlookup]

theorem pathExists_of_readFile? {tree : FileTree} {path : Path} {content : ByteArray}
    (h : tree.readFile? path = some content) : tree.pathExists path = true := by
  unfold readFile? at h
  split at h
  · next entry heq =>
      obtain ⟨hmem, hpath⟩ := (Table.lookup_eq_some_iff tree path _).1 heq
      refine List.any_eq_true.2 ⟨_, hmem, ?_⟩
      simp only [decide_eq_true_eq]
      exact hpath ▸ List.prefix_rfl
  · cases h

theorem readFile?_of_not_pathExists {tree : FileTree} {path : Path}
    (h : tree.pathExists path = false) : tree.readFile? path = none := by
  cases hfile : tree.readFile? path with
  | none => rfl
  | some content =>
      rw [pathExists_of_readFile? hfile] at h
      cases h

/-- What is read is an entry of the tree. -/
theorem readFile?_eq_some_iff {tree : FileTree} {path : Path} {content : ByteArray} :
    tree.readFile? path = some content ↔ FileEntry.mk path (.file content) ∈ tree.rows := by
  rw [Table.mem_rows_iff]
  unfold readFile?
  constructor
  · intro h
    split at h
    · next heq =>
        have hpath := Table.lookup_key heq
        simp only at hpath
        rw [heq, hpath, Option.some.inj h]
    · cases h
  · intro h
    simp only at h
    rw [h]

/-- A write makes nothing exist but what is above it. -/
theorem pathExists_writeFile_of_apart {tree : FileTree} {path other : Path} (content : ByteArray)
    (hapart : ¬ other <+: path) (h : tree.pathExists other = false) :
    (tree.writeFile path content).pathExists other = false := by
  rw [Bool.eq_false_iff]
  intro hexists
  obtain ⟨entry, hmem, hpre⟩ := List.any_eq_true.1 hexists
  rcases (Table.mem_upsert tree _ _).1 hmem with rfl | ⟨hentry, _⟩
  · exact hapart (by simpa using hpre)
  · have hthere : tree.pathExists other = true := List.any_eq_true.2 ⟨entry, hentry, hpre⟩
    simp [h] at hthere

/-- Put every entry of `staged` into `tree`. -/
def union (tree staged : FileTree) : FileTree := Table.union tree staged

theorem readFile?_union (tree : FileTree) {staged : FileTree} {path : Path} {content : ByteArray}
    (h : staged.readFile? path = some content) :
    (tree.union staged).readFile? path = some content := by
  unfold readFile? at h ⊢
  unfold union
  rw [Table.lookup_union]
  cases hl : Table.lookup staged path with
  | none => simp [hl] at h
  | some entry => simpa [hl] using h

/-! ## Directories -/

/-- What is read at a path depends on its entry only. -/
theorem readFile?_congr {tree tree' : FileTree} {path : Path}
    (h : Table.lookup tree' path = Table.lookup tree path) :
    tree'.readFile? path = tree.readFile? path := by
  unfold readFile?
  rw [h]

/-- `path.mkdir(parents=True, exist_ok=True)`. -/
def makeDirectory (tree : FileTree) (path : Path) : FileTree :=
  if tree.pathExists path then tree else Table.upsert tree ⟨path, .directory⟩

theorem lookup_makeDirectory_ne (tree : FileTree) {path other : Path} (h : other ≠ path) :
    Table.lookup (tree.makeDirectory path) other = Table.lookup tree other := by
  unfold makeDirectory
  split
  · rfl
  · exact Table.lookup_upsert_ne tree (show other ≠ FileEntry.path ⟨path, .directory⟩ from h)

/-- `shutil.rmtree(path, ignore_errors=True)`: what cannot be removed is left. -/
def removeTree (tree : FileTree) (path : Path) (leftover : Path → Bool) : FileTree where
  rows := tree.rows.filter fun entry => !decide (path <+: entry.path) || leftover entry.path
  keys_nodup := tree.keys_nodup.sublist (List.filter_sublist.map _)

theorem lookup_removeTree (tree : FileTree) {path other : Path} (leftover : Path → Bool)
    (h : ¬ path <+: other) :
    Table.lookup (tree.removeTree path leftover) other = Table.lookup tree other := by
  refine Option.ext fun entry => ?_
  rw [Table.lookup_eq_some_iff, Table.lookup_eq_some_iff, removeTree, List.mem_filter]
  constructor
  · exact fun ⟨⟨hmem, _⟩, hpath⟩ => ⟨hmem, hpath⟩
  · rintro ⟨hmem, hpath⟩
    exact ⟨⟨hmem, by simp [hpath, h]⟩, hpath⟩

/-- Where `os.replace(source, target)` takes a path. -/
def movePath (source target path : Path) : Path :=
  if source <+: path then target ++ path.drop source.length else path

/-- `os.replace(source, target)` of a directory. -/
def replaceTree (tree : FileTree) (source target : Path) : FileTree :=
  Table.ofRows FileEntry.path
    (tree.rows.map fun entry => { entry with path := movePath source target entry.path })

theorem movePath_append (source target rest : Path) :
    movePath source target (source ++ rest) = target ++ rest := by
  rw [movePath, if_pos (List.prefix_append _ _), List.drop_left]

/-- Where nothing is yet at the target, no two entries are moved to one place. -/
theorem movePath_nodup {tree : FileTree} {source target : Path}
    (hfree : tree.pathExists target = false) :
    ((tree.rows.map fun entry : FileEntry =>
      { entry with path := movePath source target entry.path }).map FileEntry.path).Nodup := by
  have habsent : ∀ entry ∈ tree.rows, ¬ target <+: entry.path := by
    intro entry hentry hbelow
    have hexists : tree.pathExists target = true :=
      List.any_eq_true.2 ⟨entry, hentry, by simp [hbelow]⟩
    simp [hfree] at hexists
  have hmap : (tree.rows.map fun entry : FileEntry =>
      { entry with path := movePath source target entry.path }).map FileEntry.path =
      (tree.rows.map FileEntry.path).map (movePath source target) := by
    rw [List.map_map, List.map_map]
    rfl
  rw [hmap]
  refine List.Nodup.map_on ?_ tree.keys_nodup
  intro path hpath other hother heq
  obtain ⟨entry, hentry, rfl⟩ := List.mem_map.1 hpath
  obtain ⟨entry', hentry', rfl⟩ := List.mem_map.1 hother
  by_cases hmoved : source <+: entry.path
  · by_cases hmoved' : source <+: entry'.path
    · obtain ⟨rest, hrest⟩ := hmoved
      obtain ⟨rest', hrest'⟩ := hmoved'
      rw [← hrest, ← hrest', movePath_append, movePath_append] at heq
      rw [← hrest, ← hrest', List.append_cancel_left heq]
    · rw [movePath, movePath, if_pos hmoved, if_neg hmoved'] at heq
      exact absurd (heq ▸ List.prefix_append _ _) (habsent entry' hentry')
  · by_cases hmoved' : source <+: entry'.path
    · rw [movePath, movePath, if_neg hmoved, if_pos hmoved'] at heq
      exact absurd (heq ▸ List.prefix_append _ _) (habsent entry hentry)
    · rwa [movePath, movePath, if_neg hmoved, if_neg hmoved'] at heq

/-- A directory that is moved to a free place holds there what it held. -/
theorem readFile?_replaceTree {tree : FileTree} {source target : Path}
    (hfree : tree.pathExists target = false) (rest : Path) :
    (tree.replaceTree source target).readFile? (target ++ rest) =
      tree.readFile? (source ++ rest) := by
  have hlookup : Table.lookup (tree.replaceTree source target) (target ++ rest) =
      (Table.lookup tree (source ++ rest)).map fun entry =>
        { entry with path := target ++ rest } := by
    refine Option.ext fun entry => ?_
    rw [replaceTree, Table.lookup_ofRows_of_nodup (movePath_nodup hfree), List.mem_map,
      Option.map_eq_some_iff]
    constructor
    · rintro ⟨⟨moved, hmoved, heq⟩, hpath⟩
      have hplace : movePath source target moved.path = target ++ rest := by
        rw [← hpath, ← heq]
      by_cases hbelow : source <+: moved.path
      · obtain ⟨own, hown⟩ := hbelow
        rw [← hown, movePath_append, List.append_cancel_left_eq] at hplace
        refine ⟨moved, ?_, ?_⟩
        · rw [Table.lookup_eq_some_iff]
          exact ⟨hmoved, by rw [← hown, hplace]⟩
        · rw [← heq, ← hown, movePath_append, hplace]
      · rw [movePath, if_neg hbelow] at hplace
        have hexists : tree.pathExists target = true :=
          List.any_eq_true.2 ⟨moved, hmoved, by simp [hplace]⟩
        simp [hfree] at hexists
    · rintro ⟨moved, hmoved, heq⟩
      obtain ⟨hmem, hpath⟩ := (Table.lookup_eq_some_iff _ _ _).1 hmoved
      rw [← heq]
      exact ⟨⟨moved, hmem, by rw [hpath, movePath_append]⟩, rfl⟩
  unfold readFile?
  rw [hlookup]
  cases Table.lookup tree (source ++ rest) with
  | none => rfl
  | some entry =>
      obtain ⟨path, node⟩ := entry
      cases node <;> rfl

/-! ## Single files -/

/-- A directory that is made where nothing was is no file. -/
theorem readFile?_makeDirectory (tree : FileTree) (directory path : Path) :
    (tree.makeDirectory directory).readFile? path = tree.readFile? path := by
  by_cases hpath : path = directory
  · unfold makeDirectory
    split
    · rfl
    · next hfree =>
        have hlookup : Table.lookup (Table.upsert tree ⟨directory, .directory⟩) directory =
            some ⟨directory, .directory⟩ :=
          Table.lookup_upsert_self tree ⟨directory, .directory⟩
        have hnone : tree.readFile? directory = none :=
          readFile?_of_not_pathExists (by simpa using hfree)
        rw [hpath, hnone]
        unfold readFile?
        rw [hlookup]
  · exact readFile?_congr (tree.lookup_makeDirectory_ne hpath)

/-- Some name of the path is a regular file, so that no directory can be there. -/
def throughFile (tree : FileTree) (path : Path) : Bool :=
  path.inits.any fun above => (tree.readFile? above).isSome

/-- `path.unlink()`, where there is something to remove. -/
def unlink (tree : FileTree) (path : Path) : FileTree where
  rows := tree.rows.filter fun entry => entry.path ≠ path
  keys_nodup := tree.keys_nodup.sublist (List.filter_sublist.map _)

theorem readFile?_unlink_ne (tree : FileTree) {path other : Path} (h : other ≠ path) :
    (tree.unlink path).readFile? other = tree.readFile? other := by
  refine readFile?_congr (Option.ext fun entry => ?_)
  rw [Table.lookup_eq_some_iff, Table.lookup_eq_some_iff, unlink, List.mem_filter]
  constructor
  · exact fun ⟨⟨hmem, _⟩, hpath⟩ => ⟨hmem, hpath⟩
  · rintro ⟨hmem, hpath⟩
    exact ⟨⟨hmem, by simp [hpath, h]⟩, hpath⟩

theorem readFile?_unlink_self (tree : FileTree) (path : Path) :
    (tree.unlink path).readFile? path = none := by
  cases hfile : (tree.unlink path).readFile? path with
  | none => rfl
  | some content =>
      unfold readFile? at hfile
      split at hfile
      · next heq =>
          obtain ⟨hmem, hpath⟩ := (Table.lookup_eq_some_iff _ _ _).1 heq
          rw [unlink, List.mem_filter, hpath] at hmem
          exact absurd rfl (of_decide_eq_true hmem.2)
      · cases hfile

/-- `os.link(source, target)`: an existing target is refused. -/
def link (tree : FileTree) (source target : Path) : Option FileTree :=
  match tree.readFile? source with
  | some content => if tree.pathExists target then none else some (tree.writeFile target content)
  | none => none

/-- `os.replace(source, target)` of a file: only a directory at the target is refused. -/
def replaceFile (tree : FileTree) (source target : Path) : Option FileTree :=
  match tree.readFile? source with
  | some content =>
      if tree.pathExists target ∧ tree.readFile? target = none then none
      else some ((tree.unlink source).writeFile target content)
  | none => none

/-- A link puts the source's bytes at the target and changes no other file. -/
theorem readFile?_link {tree tree' : FileTree} {source target : Path} {content : ByteArray}
    (hsource : tree.readFile? source = some content) (h : tree.link source target = some tree') :
    tree'.readFile? target = some content ∧
      ∀ other, other ≠ target → tree'.readFile? other = tree.readFile? other := by
  unfold link at h
  rw [hsource] at h
  simp only at h
  split at h
  · cases h
  · rw [← Option.some.inj h]
    exact ⟨tree.readFile?_writeFile_self _ _, fun other => tree.readFile?_writeFile_ne content⟩

/-- A replacement changes the files at its source and at its target. -/
theorem readFile?_replaceFile {tree tree' : FileTree} {source target : Path} {content : ByteArray}
    (hsource : tree.readFile? source = some content)
    (h : tree.replaceFile source target = some tree') :
    tree'.readFile? target = some content ∧
      ∀ other, other ≠ source → other ≠ target →
        tree'.readFile? other = tree.readFile? other := by
  unfold replaceFile at h
  rw [hsource] at h
  simp only at h
  split at h
  · cases h
  · rw [← Option.some.inj h]
    refine ⟨readFile?_writeFile_self _ _ _, ?_⟩
    intro other hother htarget
    rw [readFile?_writeFile_ne _ content htarget, tree.readFile?_unlink_ne hother]

end FileTree

end ConstellationTopology
