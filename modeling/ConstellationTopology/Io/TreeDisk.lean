import ConstellationTopology.Io.FileTree
import ConstellationTopology.Library.Collection
import ConstellationTopology.Packets.BundleVerification
import Mathlib.Data.List.Infix

set_option autoImplicit false

/-! # What the sinks wrote, as the loaders see it

The file tree of the sinks is a disk without links. A file of the tree is opened at its own path as
long as no regular file stands where one of its directories should be (`openFile_disk`). -/

namespace ConstellationTopology

/-- A node of the tree as a node of the disk. -/
def FileNode.onDisk : FileNode → DiskNode
  | .file content => .file content
  | .directory => .directory

namespace FileTree

/-- The tree as a disk: a directory that something lies below has a node as well. -/
def disk (tree : FileTree) : LinkedDisk where
  nodes := (tree.rows.map fun entry => (entry.path, FileNode.onDisk entry.node)) ++
    tree.rows.flatMap fun entry => entry.path.inits.map fun above => (above, DiskNode.directory)

/-- No regular file stands above another entry. -/
def Hierarchical (tree : FileTree) : Prop :=
  ∀ entry ∈ tree.rows, ∀ above, above <+: entry.path → above ≠ entry.path →
    tree.readFile? above = none

variable {tree : FileTree}

theorem lookup_onDisk (rows : List FileEntry) (path : Path) :
    (rows.map fun entry => (entry.path, FileNode.onDisk entry.node)).lookup path =
      (rows.find? fun entry => entry.path = path).map fun entry => FileNode.onDisk entry.node := by
  induction rows with
  | nil => rfl
  | cons entry rest ih =>
      rw [List.map_cons, List.lookup_cons, List.find?_cons, ih]
      by_cases hpath : entry.path = path
      · simp [hpath]
      · simp [hpath, beq_false_of_ne (Ne.symm hpath)]

theorem nodeAt_disk {path : Path} (hne : path ≠ []) :
    tree.disk.nodeAt path =
      ((Table.lookup tree path).map fun entry => FileNode.onDisk entry.node).or
        ((tree.rows.flatMap fun entry =>
          entry.path.inits.map fun above => (above, DiskNode.directory)).lookup path) := by
  rw [LinkedDisk.nodeAt, if_neg hne, disk, List.lookup_append, lookup_onDisk]
  rfl

/-- A file is on the disk where it is in the tree. -/
theorem nodeAt_file {path : Path} {content : ByteArray} (hne : path ≠ [])
    (h : tree.readFile? path = some content) :
    tree.disk.nodeAt path = some (.file content) := by
  rw [nodeAt_disk hne]
  unfold readFile? at h
  split at h
  · next heq =>
      rw [heq, ← Option.some.inj h]
      rfl
  · cases h

theorem isLink_disk (path : Path) : tree.disk.isLink path = false := by
  have hdirectories : ∀ node, (tree.rows.flatMap fun entry => entry.path.inits.map fun above =>
      (above, DiskNode.directory)).lookup path = some node → node = .directory := by
    intro node hnode
    obtain ⟨entry, -, hmem⟩ := List.mem_flatMap.1 (mem_of_lookup hnode)
    obtain ⟨above, -, heq⟩ := List.mem_map.1 hmem
    rw [← (Prod.mk.inj heq).2]
  unfold LinkedDisk.isLink
  by_cases hne : path = []
  · rw [hne]
    rfl
  · rw [nodeAt_disk hne]
    cases hentry : Table.lookup tree path with
    | some entry =>
        obtain ⟨_, node⟩ := entry
        cases node <;> rfl
    | none =>
        rw [Option.map_none, Option.none_or]
        split
        · next absolute target hlink => cases hdirectories _ hlink
        · rfl

/-- A directory of a file is on the disk. -/
theorem isDirectory_above {path above : Path} {content : ByteArray} (htree : tree.Hierarchical)
    (h : tree.readFile? path = some content) (habove : above <+: path) (hne : above ≠ path) :
    tree.disk.isDirectory above = true := by
  unfold LinkedDisk.isDirectory
  by_cases hroot : above = []
  · rw [hroot]
    rfl
  · have hmem := readFile?_eq_some_iff.1 h
    have hlisted : (above, DiskNode.directory) ∈ tree.rows.flatMap fun entry =>
        entry.path.inits.map fun above => (above, DiskNode.directory) :=
      List.mem_flatMap.2 ⟨_, hmem, List.mem_map_of_mem ((List.mem_inits _ _).2 habove)⟩
    have hnone := htree _ hmem above habove hne
    rw [nodeAt_disk hroot]
    unfold readFile? at hnone
    cases hentry : Table.lookup tree above with
    | some entry =>
        obtain ⟨_, node⟩ := entry
        cases node with
        | file content => simp [hentry] at hnone
        | directory => rfl
    | none =>
        rw [Option.map_none, Option.none_or]
        cases hnode : (tree.rows.flatMap fun entry => entry.path.inits.map fun above =>
            (above, DiskNode.directory)).lookup above with
        | none => exact absurd (List.lookup_eq_none_iff.1 hnode _ hlisted) (by simp)
        | some node =>
            obtain ⟨entry, -, hnode⟩ := List.mem_flatMap.1 (mem_of_lookup hnode)
            obtain ⟨_, -, heq⟩ := List.mem_map.1 hnode
            rw [← (Prod.mk.inj heq).2]

/-- A path of plain names has no link on its way. -/
theorem plain_disk {path : Path} (hnames : ∀ segment ∈ path, LinkedDisk.Named segment) :
    tree.disk.Plain path :=
  ⟨hnames, fun front _ => isLink_disk front⟩

/-- **A file is opened where it was written.** -/
theorem openFile_disk {path : Path} {content : ByteArray} (htree : tree.Hierarchical)
    (hne : path ≠ []) (hnames : ∀ segment ∈ path, LinkedDisk.Named segment)
    (h : tree.readFile? path = some content) :
    tree.disk.openFile path = some ⟨path, content⟩ :=
  (plain_disk hnames).openFile (fun _ => isDirectory_above htree h) (nodeAt_file hne h)

end FileTree

/-! ## References into a bundle -/

/-- A relative reference that goes down only. -/
def PlainReference (reference : String) : Prop :=
  remoteReference reference = false ∧ reference.toList.head? ≠ some '/' ∧
    pathParts reference ≠ [] ∧ ∀ segment ∈ pathParts reference, LinkedDisk.Named segment

/-- A reference without a colon is on this disk. -/
theorem not_remoteReference {reference : String} (h : ':' ∉ reference.toList) :
    remoteReference reference = false := by
  have hinside : ∀ rest : List Char, rest <:+ reference.toList → ':' ∉ rest :=
    fun rest hrest hmem => h (hrest.subset hmem)
  rw [remoteReference, Bool.or_eq_false_iff]
  constructor
  · rw [List.any_eq_false]
    intro rest hrest hscheme
    refine hinside rest ((List.mem_tails _ _).1 hrest) ?_
    exact (List.isPrefixOf_iff_prefix.1 hscheme).subset (by decide)
  · rw [Bool.eq_false_iff]
    intro hurn
    exact h ((List.isPrefixOf_iff_prefix.1 hurn).subset (by decide))

/-- A path of plain names is such a reference. -/
theorem plainReference_of_portable {names : List String} (hne : names ≠ [])
    (hportable : ∀ name ∈ names, PortableName name)
    (hnull : ∀ name ∈ names, '\x00' ∉ name.toList) :
    PlainReference (String.intercalate "/" names) := by
  refine ⟨?_, ?_, ?_, ?_⟩
  · exact not_remoteReference (separator_notMem_of_portable hportable (by decide) (by decide))
  · rw [← purePosixPath_of_portable hne hportable]
    exact relative_purePosixPath _
  · rwa [pathParts_of_portable hne hportable]
  · rw [pathParts_of_portable hne hportable]
    intro name hname
    obtain ⟨hempty, hdot, hdots, -⟩ := hportable name hname
    exact ⟨hnull name hname, hempty, hdot, hdots⟩

theorem joinPath_plain {reference : String} (root : Path) (h : PlainReference reference) :
    joinPath root reference = root ++ pathParts reference := by
  rw [joinPath, if_neg h.2.1]

/-- The sinks resolve such a destination to the same path. -/
theorem resolvePath_plain {reference : String} (root : Path) (h : PlainReference reference) :
    resolvePath root reference = root ++ pathParts reference := by
  have hsegments : ∀ segments : List String, ".." ∉ segments → ∀ path : Path,
      segments.foldl resolveSegment path = path ++ segments.filter namesSegment := by
    intro segments
    induction segments with
    | nil => simp
    | cons segment rest ih =>
        intro hup path
        rw [List.foldl_cons, ih fun hmem => hup (List.mem_cons_of_mem _ hmem), List.filter_cons]
        have hne : segment ≠ ".." := fun heq => hup (heq ▸ List.mem_cons_self)
        by_cases hnames : segment = "" ∨ segment = "."
        · rcases hnames with rfl | rfl <;> simp [resolveSegment, namesSegment]
        · simp [resolveSegment, namesSegment, hne, not_or.1 hnames]
  rw [resolvePath, if_neg h.2.1, hsegments]
  · rfl
  · intro hup
    have hpart : ".." ∈ pathParts reference :=
      List.mem_filter.2 ⟨hup, by simp [namesSegment]⟩
    exact (h.2.2.2 _ hpart).notDots rfl

section Reading

variable {tree : FileTree} {root : Path} {reference : String} {content : ByteArray}

/-- A reference leads to the file the sink wrote. -/
theorem openFile_plain (htree : tree.Hierarchical)
    (hroot : ∀ segment ∈ root, LinkedDisk.Named segment) (href : PlainReference reference)
    (h : tree.readFile? (resolvePath root reference) = some content) :
    (∀ segment ∈ root ++ pathParts reference, LinkedDisk.Named segment) ∧
      tree.disk.openFile (root ++ pathParts reference) =
        some ⟨root ++ pathParts reference, content⟩ := by
  rw [resolvePath_plain root href] at h
  have hnames : ∀ segment ∈ root ++ pathParts reference, LinkedDisk.Named segment := by
    intro segment hsegment
    rcases List.mem_append.1 hsegment with hin | hin
    · exact hroot segment hin
    · exact href.2.2.2 segment hin
  exact ⟨hnames, FileTree.openFile_disk htree (by simp [href.2.2.1]) hnames h⟩

/-- So the loader finds it in the bundle. -/
theorem storedAt_disk (htree : tree.Hierarchical)
    (hroot : ∀ segment ∈ root, LinkedDisk.Named segment) (href : PlainReference reference)
    (h : tree.readFile? (resolvePath root reference) = some content) :
    StoredAt tree.disk root reference content := by
  obtain ⟨hnames, hopen⟩ := openFile_plain htree hroot href h
  have hresolve : resolveMember tree.disk root reference = .ok (root ++ pathParts reference) := by
    refine resolveMember_eq_ok.2 ⟨href.1, ?_, ⟨root, ?_, List.prefix_append _ _⟩, ?_⟩
    · rw [joinPath_plain root href]
      exact (FileTree.plain_disk hnames).resolve
    · exact (FileTree.plain_disk hroot).resolve
    · rw [hopen, Option.isSome_some]
  refine ⟨⟨reference, ⟨root ++ pathParts reference, content⟩⟩, ?_, rfl⟩
  simp only [readMember, bind_eq_ok, expect_eq_ok, pure_eq_ok]
  exact ⟨_, hresolve, _, hopen, rfl⟩

end Reading

end ConstellationTopology
