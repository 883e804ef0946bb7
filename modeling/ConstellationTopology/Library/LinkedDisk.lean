import Mathlib.Data.List.Basic
import Mathlib.Data.Nat.Notation

set_option autoImplicit false

/-! # A disk with symbolic links

A path is walked segment by segment. The walk that opens a file is strict: a segment is looked up
in a directory, what it names must be there, and only so many links are followed. The walk that
resolves a path goes on by name past what is missing.

Either walk ends at a plain place, one with no link on the way to it. So an opened path and a
resolved path agree about where they lead (`locate_resolve`), and a resolved path resolves to
itself (`resolve_resolve`). -/

namespace ConstellationTopology

/-- A node of the disk. A link holds the segments of its target. -/
inductive DiskNode
  | file (content : ByteArray)
  | directory
  | link (absolute : Bool) (target : List String)

/-- The nodes by their places. -/
structure LinkedDisk where
  nodes : List (List String × DiskNode)

/-- A file that was opened: where it is and what it holds. -/
structure OpenedFile where
  location : List String
  content : ByteArray

/-- How far a walk has come, and how many links it has followed. -/
structure DiskWalk where
  place : List String
  followed : ℕ

namespace LinkedDisk

/-- How many links the system follows to open one path. -/
def linkLimit : ℕ := 40

variable (disk : LinkedDisk)

/-- What is at a place; the place without segments is the root directory. -/
def nodeAt (place : List String) : Option DiskNode :=
  if place = [] then some .directory else disk.nodes.lookup place

/-- A directory stands at the place. -/
def isDirectory (place : List String) : Bool :=
  match disk.nodeAt place with
  | some .directory => true
  | _ => false

/-- A link stands at the place. -/
def isLink (place : List String) : Bool :=
  match disk.nodeAt place with
  | some (.link _ _) => true
  | _ => false

/-- One segment of a walk; `follow` walks the target of a link. -/
def enter (strict : Bool) (follow : DiskWalk → List String → Option DiskWalk) (walk : DiskWalk)
    (segment : String) : Option DiskWalk :=
  if '\x00' ∈ segment.toList then none
  else if strict = true ∧ disk.isDirectory walk.place = false then none
  else if segment = "" ∨ segment = "." then some walk
  else if segment = ".." then some { walk with place := walk.place.dropLast }
  else match disk.nodeAt (walk.place ++ [segment]) with
    | some (.link absolute target) =>
        if strict = true ∧ linkLimit ≤ walk.followed then none
        else follow ⟨if absolute then [] else walk.place, walk.followed + 1⟩ target
    | some _ => some { walk with place := walk.place ++ [segment] }
    | none => if strict then none else some { walk with place := walk.place ++ [segment] }

/-- A walk through links in links up to a depth. -/
def walk (strict : Bool) : ℕ → DiskWalk → List String → Option DiskWalk
  | 0, _, _ => none
  | depth + 1, start, segments => segments.foldlM (disk.enter strict (walk strict depth)) start

/-- A walk from the root directory. Links nested deeper than there are nodes go in a circle. -/
def walkFromRoot (strict : Bool) (segments : List String) : Option (List String) :=
  (disk.walk strict (disk.nodes.length + 1) ⟨[], 0⟩ segments).map DiskWalk.place

/-- Where an absolute path leads when it is resolved; `none` for a circle. -/
def resolve (segments : List String) : Option (List String) := disk.walkFromRoot false segments

/-- Where an absolute path leads when it is opened. -/
def locate (segments : List String) : Option (List String) := disk.walkFromRoot true segments

/-- Read the file that an absolute path leads to. -/
def openFile (segments : List String) : Option OpenedFile :=
  match disk.locate segments with
  | none => none
  | some location =>
      match disk.nodeAt location with
      | some (.file content) => some ⟨location, content⟩
      | _ => none

variable {disk}

/-! ## One step -/

/-- The segment is looked up by its name. -/
structure Named (segment : String) : Prop where
  noNull : '\x00' ∉ segment.toList
  nonempty : segment ≠ ""
  notDot : segment ≠ "."
  notDots : segment ≠ ".."

/-- What one segment can do to a walk. -/
theorem enter_cases {strict : Bool} {follow : DiskWalk → List String → Option DiskWalk}
    {start stop : DiskWalk} {segment : String}
    (h : disk.enter strict follow start segment = some stop) :
    ((segment = "" ∨ segment = ".") ∧ stop = start) ∨
    (segment = ".." ∧ stop = { start with place := start.place.dropLast }) ∨
    (Named segment ∧ ∃ absolute target,
      disk.nodeAt (start.place ++ [segment]) = some (.link absolute target) ∧
      follow ⟨if absolute then [] else start.place, start.followed + 1⟩ target = some stop) ∨
    (Named segment ∧ disk.isLink (start.place ++ [segment]) = false ∧
      stop = { start with place := start.place ++ [segment] }) := by
  unfold enter at h
  by_cases hnull : '\x00' ∈ segment.toList
  · simp [hnull] at h
  rw [if_neg hnull] at h
  split at h
  · cases h
  by_cases hdot : segment = "" ∨ segment = "."
  · rw [if_pos hdot, Option.some.injEq] at h
    exact Or.inl ⟨hdot, h.symm⟩
  by_cases hdots : segment = ".."
  · rw [if_neg hdot, if_pos hdots, Option.some.injEq] at h
    exact Or.inr (Or.inl ⟨hdots, h.symm⟩)
  have hname : Named segment :=
    ⟨hnull, fun heq => hdot (Or.inl heq), fun heq => hdot (Or.inr heq), hdots⟩
  rw [if_neg hdot, if_neg hdots] at h
  cases hnode : disk.nodeAt (start.place ++ [segment]) with
  | none =>
      cases strict with
      | true => simp [hnode] at h
      | false =>
          simp only [hnode, Bool.false_eq_true, if_false, Option.some.injEq] at h
          exact Or.inr (Or.inr (Or.inr ⟨hname, by rw [isLink, hnode], h.symm⟩))
  | some node =>
      cases node with
      | link absolute target =>
          simp only [hnode] at h
          split at h
          · cases h
          · exact Or.inr (Or.inr (Or.inl ⟨hname, absolute, target, rfl, h⟩))
      | file _ | directory =>
          simp only [hnode, Option.some.injEq] at h
          exact Or.inr (Or.inr (Or.inr ⟨hname, by rw [isLink, hnode], h.symm⟩))

/-! ## Opening and resolving -/

theorem foldlM_weaken {α β : Type} {f g : α → β → Option α}
    (h : ∀ a b c, f a b = some c → g a b = some c) {xs : List β} {start stop : α}
    (hfold : xs.foldlM f start = some stop) : xs.foldlM g start = some stop := by
  induction xs generalizing start with
  | nil => exact hfold
  | cons x xs ih =>
      rw [List.foldlM_cons, Option.bind_eq_bind, Option.bind_eq_some_iff] at hfold ⊢
      obtain ⟨next, hstep, hrest⟩ := hfold
      exact ⟨next, h _ _ _ hstep, ih hrest⟩

/-- A segment that opens resolves to the same place. -/
theorem enter_weaken {follow follow' : DiskWalk → List String → Option DiskWalk}
    (h : ∀ start segments stop, follow start segments = some stop →
      follow' start segments = some stop) {start stop : DiskWalk} {segment : String}
    (henter : disk.enter true follow start segment = some stop) :
    disk.enter false follow' start segment = some stop := by
  unfold enter at henter ⊢
  simp only [Bool.false_eq_true, false_and, if_false]
  split at henter
  · cases henter
  · next hnull =>
      rw [if_neg hnull]
      split at henter
      · cases henter
      · split at henter
        · next hdot => rwa [if_pos hdot]
        · next hdot =>
            rw [if_neg hdot]
            split at henter
            · next hdots => rwa [if_pos hdots]
            · next hdots =>
                rw [if_neg hdots]
                split at henter
                · split at henter
                  · cases henter
                  · exact h _ _ _ henter
                · exact henter
                · cases henter

theorem walk_weaken {depth : ℕ} {start stop : DiskWalk} {segments : List String}
    (h : disk.walk true depth start segments = some stop) :
    disk.walk false depth start segments = some stop := by
  induction depth generalizing start stop segments with
  | zero => cases h
  | succ depth ih =>
      exact foldlM_weaken (fun _ _ _ => enter_weaken fun _ _ _ => ih) h

/-- **Opening and resolving agree.** A path that opens is resolved to the place it opens. -/
theorem locate_resolve {segments place : List String} (h : disk.locate segments = some place) :
    disk.resolve segments = some place := by
  obtain ⟨stop, hwalk, hplace⟩ := Option.map_eq_some_iff.1 h
  exact Option.map_eq_some_iff.2 ⟨stop, walk_weaken hwalk, hplace⟩

/-! ## Plain places -/

/-- No link lies on the way to the place, nor at it. -/
structure Plain (disk : LinkedDisk) (place : List String) : Prop where
  names : ∀ segment ∈ place, Named segment
  noLink : ∀ front, front <+: place → disk.isLink front = false

theorem plain_nil : disk.Plain [] where
  names := by simp
  noLink := by
    intro front hfront
    rw [List.prefix_nil.1 hfront]
    rfl

theorem Plain.front {place front : List String} (h : disk.Plain place) (hfront : front <+: place) :
    disk.Plain front where
  names := fun segment hsegment => h.names segment (hfront.subset hsegment)
  noLink := fun _ hshorter => h.noLink _ (hshorter.trans hfront)

theorem Plain.append {place : List String} {segment : String} (h : disk.Plain place)
    (hname : Named segment) (hlink : disk.isLink (place ++ [segment]) = false) :
    disk.Plain (place ++ [segment]) where
  names := by
    intro other hother
    rcases List.mem_append.1 hother with hin | hlast
    · exact h.names other hin
    · exact List.mem_singleton.1 hlast ▸ hname
  noLink := by
    intro front hfront
    rcases List.prefix_concat_iff.1 hfront with heq | hin
    · exact heq ▸ hlink
    · exact h.noLink front hin

theorem enter_plain {strict : Bool} {follow : DiskWalk → List String → Option DiskWalk}
    (hfollow : ∀ start segments stop, disk.Plain start.place →
      follow start segments = some stop → disk.Plain stop.place)
    {start stop : DiskWalk} {segment : String} (hstart : disk.Plain start.place)
    (h : disk.enter strict follow start segment = some stop) : disk.Plain stop.place := by
  rcases enter_cases h with ⟨_, rfl⟩ | ⟨_, rfl⟩ | ⟨_, absolute, target, _, hthrough⟩ |
    ⟨hname, hlink, rfl⟩
  · exact hstart
  · exact hstart.front (List.dropLast_prefix _)
  · refine hfollow _ _ _ ?_ hthrough
    cases absolute
    · exact hstart
    · exact plain_nil
  · exact hstart.append hname hlink

theorem walk_plain {strict : Bool} {depth : ℕ} {start stop : DiskWalk} {segments : List String}
    (hstart : disk.Plain start.place) (h : disk.walk strict depth start segments = some stop) :
    disk.Plain stop.place := by
  induction depth generalizing start stop segments with
  | zero => cases h
  | succ depth ih =>
      unfold walk at h
      induction segments generalizing start with
      | nil => exact Option.some.inj h ▸ hstart
      | cons segment rest ihrest =>
          rw [List.foldlM_cons, Option.bind_eq_bind, Option.bind_eq_some_iff] at h
          obtain ⟨next, hstep, hrest⟩ := h
          exact ihrest (enter_plain (fun _ _ _ => ih) hstart hstep) hrest

/-- What a path resolves to has no link on its way. -/
theorem resolve_plain {segments place : List String} (h : disk.resolve segments = some place) :
    disk.Plain place := by
  obtain ⟨stop, hwalk, rfl⟩ := Option.map_eq_some_iff.1 h
  exact walk_plain plain_nil hwalk

/-! ## Walking a plain place -/

theorem enter_named {strict : Bool} {follow : DiskWalk → List String → Option DiskWalk}
    {start stop : DiskWalk} {segment : String} (hname : Named segment)
    (hlink : disk.isLink (start.place ++ [segment]) = false)
    (h : disk.enter strict follow start segment = some stop) :
    stop.place = start.place ++ [segment] := by
  rcases enter_cases h with ⟨hdot | hdot, _⟩ | ⟨hdots, _⟩ | ⟨_, absolute, target, hnode, _⟩ |
    ⟨_, _, rfl⟩
  · exact absurd hdot hname.nonempty
  · exact absurd hdot hname.notDot
  · exact absurd hdots hname.notDots
  · simp [isLink, hnode] at hlink
  · rfl

/-- A resolving walk never stops at a name that is no link. -/
theorem enter_resolving {follow : DiskWalk → List String → Option DiskWalk} {start : DiskWalk}
    {segment : String} (hname : Named segment)
    (hlink : disk.isLink (start.place ++ [segment]) = false) :
    ∃ stop, disk.enter false follow start segment = some stop := by
  unfold enter
  have hdot : ¬ (segment = "" ∨ segment = ".") := not_or.2 ⟨hname.nonempty, hname.notDot⟩
  rw [if_neg hname.noNull, if_neg (by simp), if_neg hdot, if_neg hname.notDots]
  split
  · next hnode => simp [isLink, hnode] at hlink
  · exact ⟨_, rfl⟩
  · exact ⟨_, rfl⟩

/-- A name in a directory where something is that is no link. -/
theorem enter_opening {follow : DiskWalk → List String → Option DiskWalk} {start : DiskWalk}
    {segment : String} (hname : Named segment)
    (hdirectory : disk.isDirectory start.place = true)
    (hnode : (disk.nodeAt (start.place ++ [segment])).isSome = true)
    (hlink : disk.isLink (start.place ++ [segment]) = false) :
    ∃ next, disk.enter true follow start segment = some next := by
  obtain ⟨node, hnode⟩ := Option.isSome_iff_exists.1 hnode
  have hdot : ¬ (segment = "" ∨ segment = ".") := not_or.2 ⟨hname.nonempty, hname.notDot⟩
  unfold enter
  simp only [if_neg hname.noNull, hdirectory, if_neg hdot, if_neg hname.notDots, hnode]
  cases node with
  | link absolute target => simp [isLink, hnode] at hlink
  | file _ | directory => exact ⟨_, rfl⟩

theorem walk_of_plain {strict : Bool} {depth : ℕ} {start stop : DiskWalk} {segments : List String}
    (hplain : disk.Plain (start.place ++ segments))
    (h : disk.walk strict (depth + 1) start segments = some stop) :
    stop.place = start.place ++ segments := by
  unfold walk at h
  induction segments generalizing start with
  | nil => rw [← Option.some.inj h, List.append_nil]
  | cons segment rest ih =>
      rw [List.foldlM_cons, Option.bind_eq_bind, Option.bind_eq_some_iff] at h
      obtain ⟨next, hstep, hrest⟩ := h
      have hsplit : start.place ++ segment :: rest = (start.place ++ [segment]) ++ rest := by simp
      have hfront : start.place ++ [segment] <+: start.place ++ segment :: rest :=
        hsplit ▸ List.prefix_append _ _
      have hnext := enter_named (hplain.names segment (by simp)) (hplain.noLink _ hfront) hstep
      rw [hsplit, ← hnext] at hplain ⊢
      exact ih hplain hrest

theorem walk_resolving {depth : ℕ} {start : DiskWalk} {segments : List String}
    (hplain : disk.Plain (start.place ++ segments)) :
    ∃ stop, disk.walk false (depth + 1) start segments = some stop := by
  unfold walk
  induction segments generalizing start with
  | nil => exact ⟨start, rfl⟩
  | cons segment rest ih =>
      have hsplit : start.place ++ segment :: rest = (start.place ++ [segment]) ++ rest := by simp
      have hfront : start.place ++ [segment] <+: start.place ++ segment :: rest :=
        hsplit ▸ List.prefix_append _ _
      have hname := hplain.names segment (by simp)
      have hlink := hplain.noLink _ hfront
      have hentered : ∃ next, disk.enter false (disk.walk false depth) start segment = some next :=
        enter_resolving hname hlink
      obtain ⟨next, hstep⟩ := hentered
      rw [hsplit, ← enter_named hname hlink hstep] at hplain
      obtain ⟨stop, hrest⟩ := ih hplain
      exact ⟨stop, by rw [List.foldlM_cons, hstep]; exact hrest⟩

theorem Plain.resolve {place : List String} (h : disk.Plain place) :
    disk.resolve place = some place := by
  have hwalked : ∃ stop, disk.walk false (disk.nodes.length + 1) ⟨[], 0⟩ place = some stop :=
    walk_resolving h
  obtain ⟨stop, hwalk⟩ := hwalked
  have hstop : stop.place = place := walk_of_plain h hwalk
  exact Option.map_eq_some_iff.2 ⟨stop, hwalk, hstop⟩

/-- **Resolving is idempotent.** -/
theorem resolve_resolve {segments place : List String} (h : disk.resolve segments = some place) :
    disk.resolve place = some place := (resolve_plain h).resolve

/-! ## Going on from where a path leads -/

/-- A resolving step does not ask how many links were followed. -/
theorem enter_place {follow : DiskWalk → List String → Option DiskWalk}
    (hfollow : ∀ start start' : DiskWalk, start.place = start'.place → ∀ target,
      (follow start target).map DiskWalk.place = (follow start' target).map DiskWalk.place)
    {start start' : DiskWalk} (h : start.place = start'.place) (segment : String) :
    (disk.enter false follow start segment).map DiskWalk.place =
      (disk.enter false follow start' segment).map DiskWalk.place := by
  unfold enter
  rw [h]
  by_cases hnull : '\x00' ∈ segment.toList
  · rw [if_pos hnull, if_pos hnull]
  by_cases hstay : segment = "" ∨ segment = "."
  · simp [hnull, hstay, h]
  by_cases hup : segment = ".."
  · simp [hup]
  · cases hnode : disk.nodeAt (start'.place ++ [segment]) with
    | none => simp [hnull, hstay, hup]
    | some node =>
        cases node with
        | link absolute target =>
            simp only [hnull, hstay, hup, if_false, Bool.false_eq_true, false_and]
            exact hfollow ⟨if absolute then [] else start'.place, start.followed + 1⟩
              ⟨if absolute then [] else start'.place, start'.followed + 1⟩ rfl target
        | file _ | directory => simp [hnull, hstay, hup]

theorem foldlM_place {step : DiskWalk → String → Option DiskWalk}
    (hstep : ∀ start start' : DiskWalk, start.place = start'.place → ∀ segment,
      (step start segment).map DiskWalk.place = (step start' segment).map DiskWalk.place)
    (segments : List String) :
    ∀ {start start' : DiskWalk}, start.place = start'.place →
      (segments.foldlM step start).map DiskWalk.place =
        (segments.foldlM step start').map DiskWalk.place := by
  induction segments with
  | nil =>
      intro start start' h
      simp [h]
  | cons segment rest ih =>
      intro start start' h
      have hentered := hstep start start' h segment
      rw [List.foldlM_cons, List.foldlM_cons]
      cases hnext : step start segment with
      | none =>
          rw [hnext, Option.map_none, eq_comm, Option.map_eq_none_iff] at hentered
          rw [hentered]
      | some next =>
          rw [hnext, Option.map_some, eq_comm, Option.map_eq_some_iff] at hentered
          obtain ⟨next', hnext', hplace⟩ := hentered
          rw [hnext']
          exact ih hplace.symm

theorem walk_place (depth : ℕ) : ∀ {start start' : DiskWalk}, start.place = start'.place →
    ∀ segments, (disk.walk false depth start segments).map DiskWalk.place =
      (disk.walk false depth start' segments).map DiskWalk.place := by
  induction depth with
  | zero =>
      intro start start' h segments
      rfl
  | succ depth ih =>
      intro start start' h segments
      exact foldlM_place (fun _ _ hplace segment =>
        enter_place (fun _ _ hstart target => ih hstart target) hplace segment) segments h

/-- **A path goes on from the place it was resolved to.** -/
theorem resolve_append {segments place : List String} (h : disk.resolve segments = some place)
    (rest : List String) : disk.resolve (segments ++ rest) = disk.resolve (place ++ rest) := by
  obtain ⟨stop, hwalk, hplace⟩ := Option.map_eq_some_iff.1 h
  obtain ⟨stop', hwalk', hplace'⟩ := Option.map_eq_some_iff.1 (resolve_resolve h)
  unfold walk at hwalk hwalk'
  unfold resolve walkFromRoot walk
  rw [List.foldlM_append, List.foldlM_append, hwalk, hwalk']
  exact foldlM_place (fun _ _ hsame segment => enter_place
    (fun _ _ hstart target => walk_place _ hstart target) hsame segment) rest
    (hplace.trans hplace'.symm)

/-! ## Reading -/

/-- The path leads to the file. -/
structure Reads (disk : LinkedDisk) (segments : List String) (file : OpenedFile) : Prop where
  resolves : disk.resolve segments = some file.location
  holds : disk.nodeAt file.location = some (.file file.content)

theorem openFile_eq_some {segments : List String} {file : OpenedFile} :
    disk.openFile segments = some file ↔
      disk.locate segments = some file.location ∧
        disk.nodeAt file.location = some (.file file.content) := by
  unfold openFile
  constructor
  · intro h
    split at h
    · cases h
    · next location hlocate =>
        split at h
        · next content hnode =>
            cases h
            exact ⟨hlocate, hnode⟩
        · cases h
  · rintro ⟨hlocate, hnode⟩
    rw [hlocate]
    simp only [hnode]

/-- Opening a path as it stands. -/
theorem reads_of_openFile {segments : List String} {file : OpenedFile}
    (h : disk.openFile segments = some file) : disk.Reads segments file := by
  obtain ⟨hlocate, hnode⟩ := openFile_eq_some.1 h
  exact ⟨locate_resolve hlocate, hnode⟩

/-- Opening the place a path was resolved to. -/
theorem reads_of_resolve {segments place : List String} {file : OpenedFile}
    (hresolve : disk.resolve segments = some place) (h : disk.openFile place = some file) :
    disk.Reads segments file ∧ file.location = place := by
  have hopen := reads_of_openFile h
  have hplace := hopen.resolves
  rw [resolve_resolve hresolve, Option.some.injEq] at hplace
  exact ⟨⟨hplace ▸ hresolve, hopen.holds⟩, hplace.symm⟩

/-- Paths that lead to one place read one file. -/
theorem Reads.eq {first second : List String} {file other : OpenedFile}
    (hfirst : disk.Reads first file) (hsecond : disk.Reads second other)
    (hsame : file.location = other.location) : file = other := by
  have hnode := hfirst.holds
  rw [hsame, hsecond.holds, Option.some.injEq, DiskNode.file.injEq] at hnode
  cases file
  cases other
  simp_all

/-! ## Opening a plain place -/

/-- What lies between the start of a walk and its end are directories. -/
theorem walk_opening {depth : ℕ} {start : DiskWalk} {segments : List String}
    (hplain : disk.Plain (start.place ++ segments))
    (habove : ∀ front, front <+: start.place ++ segments → front ≠ start.place ++ segments →
      disk.isDirectory front = true)
    (hthere : (disk.nodeAt (start.place ++ segments)).isSome = true) :
    ∃ stop, disk.walk true (depth + 1) start segments = some stop := by
  unfold walk
  induction segments generalizing start with
  | nil => exact ⟨start, rfl⟩
  | cons segment rest ih =>
      have hsplit : start.place ++ segment :: rest = (start.place ++ [segment]) ++ rest := by simp
      have hfront : start.place ++ [segment] <+: start.place ++ segment :: rest :=
        hsplit ▸ List.prefix_append _ _
      have hname := hplain.names segment (by simp)
      have hlink := hplain.noLink _ hfront
      have hdirectory : disk.isDirectory start.place = true :=
        habove _ (List.prefix_append _ _) (by simp)
      have hnode : (disk.nodeAt (start.place ++ [segment])).isSome = true := by
        by_cases hlast : rest = []
        · rw [← hthere, hlast]
        · have hinside := habove _ hfront (by simpa using Ne.symm hlast)
          unfold isDirectory at hinside
          cases hnode : disk.nodeAt (start.place ++ [segment]) with
          | none => simp [hnode] at hinside
          | some node => rfl
      have hentered : ∃ next, disk.enter true (disk.walk true depth) start segment = some next :=
        enter_opening hname hdirectory hnode hlink
      obtain ⟨next, hstep⟩ := hentered
      rw [hsplit, ← enter_named hname hlink hstep] at hplain habove hthere
      obtain ⟨stop, hrest⟩ := ih hplain habove hthere
      exact ⟨stop, by rw [List.foldlM_cons, hstep]; exact hrest⟩

/-- A file in a directory that can be reached is opened where it is. -/
theorem Plain.openFile {place : List String} {content : ByteArray} (h : disk.Plain place)
    (habove : ∀ front, front <+: place → front ≠ place → disk.isDirectory front = true)
    (hfile : disk.nodeAt place = some (.file content)) :
    disk.openFile place = some ⟨place, content⟩ := by
  have hthere : (disk.nodeAt place).isSome = true := by rw [hfile, Option.isSome_some]
  have hwalked : ∃ stop, disk.walk true (disk.nodes.length + 1) ⟨[], 0⟩ place = some stop :=
    walk_opening h habove hthere
  obtain ⟨stop, hwalk⟩ := hwalked
  have hstop : stop.place = place := walk_of_plain h hwalk
  exact openFile_eq_some.2 ⟨Option.map_eq_some_iff.2 ⟨stop, hwalk, hstop⟩, hfile⟩

end LinkedDisk

end ConstellationTopology
