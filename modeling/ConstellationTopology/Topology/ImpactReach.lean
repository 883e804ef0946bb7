import ConstellationTopology.Topology.Impact

set_option autoImplicit false

/-! # What an impact traversal reaches

The traversal is a bounded breadth-first search (`traverse_eq`), so its result is that of all walks
up to the depth (`assessImpact_exact`). A resolution-aware one is the same over the edges that are
left when the unresolved ones are deleted (`assessImpact_resolution`). -/

namespace ConstellationTopology

open BreadthFirst

namespace ImpactRequest

variable (request : ImpactRequest)

/-! ## The search behind a traversal -/

/-- The successors of a node, in the order of the inner loop. -/
def next (sense : Sense) (node : String) : List String :=
  (sortedBy toLex (request.adjacency sense node)).map Prod.fst

/-- An edge that the filters let pass leads from the one node to the other. -/
def Crosses (sense : Sense) (node target : String) : Prop :=
  ∃ edge ∈ request.edges, request.Admits edge ∧ ¬ request.Bars edge ∧
    sense.leaves edge = node ∧ sense.enters edge = target

theorem mem_next_iff {sense : Sense} {node target : String} :
    target ∈ request.next sense node ↔ request.Crosses sense node target := by
  simp only [next, adjacency, List.mem_map, mem_sortedBy, List.mem_filter, decide_eq_true_eq,
    Crosses]
  constructor
  · rintro ⟨_, ⟨edge, ⟨hedge, hadmits, hbars, hleaves⟩, rfl⟩, htarget⟩
    exact ⟨edge, hedge, hadmits, hbars, hleaves, htarget⟩
  · rintro ⟨edge, hedge, hadmits, hbars, hleaves, htarget⟩
    exact ⟨_, ⟨edge, ⟨hedge, hadmits, hbars, hleaves⟩, rfl⟩, htarget⟩

theorem next_eq_crosses (sense : Sense) :
    (fun node target => target ∈ request.next sense node) = request.Crosses sense := by
  funext node target
  exact propext (request.mem_next_iff)

/-- The nodes that a traversal can queue. -/
def ends (sense : Sense) : List String := request.edges.map sense.enters

theorem next_subset_ends {sense : Sense} :
    ∀ node, ∀ target ∈ request.next sense node, target ∈ request.ends sense := by
  intro node target htarget
  obtain ⟨edge, hedge, -, -, -, rfl⟩ := request.mem_next_iff.1 htarget
  exact List.mem_map_of_mem hedge

/-- The search of one sense. -/
def searched (sense : Sense) : Search String :=
  search (request.next sense) request.maximumDepth.toNat request.subjectId (request.ends sense)

/-- The state of a traversal that started from `found` and has come as far as the search. -/
def traversalOf (found : Found) (sense : Sense) (s : Search String) : Traversal where
  queue := s.queue
  visited := s.visited
  affected := found.affected ++ s.expanded.flatMap fun visit => request.next sense visit.node
  paths := found.paths ++ s.expanded.flatMap fun visit =>
    (request.next sense visit.node).map fun target => visit.path ++ [target]
  unresolved := found.unresolved ++ s.expanded.flatMap fun visit =>
    request.unresolvedAdjacency sense visit.node

/-- The inner loop discovers the successors and records each. -/
theorem foldl_target (current : Visit String) (entries : List (String × String))
    (traversal : Traversal) (s : Search String) (hqueue : traversal.queue = s.queue)
    (hvisited : traversal.visited = s.visited) :
    entries.foldl (Traversal.target current) traversal =
      { traversal with
        queue := ((entries.map Prod.fst).foldl (Search.discover current) s).queue
        visited := ((entries.map Prod.fst).foldl (Search.discover current) s).visited
        affected := traversal.affected ++ entries.map Prod.fst
        paths := traversal.paths ++ entries.map fun entry => current.path ++ [entry.1] } := by
  induction entries generalizing traversal s with
  | nil => simp [← hqueue, ← hvisited]
  | cons entry rest ih =>
      simp only [List.foldl_cons, List.map_cons]
      by_cases hseen : entry.1 ∈ s.visited
      · rw [Search.discover, if_pos hseen, ih _ s]
        · simp [Traversal.target, hvisited, hseen]
        · simp [Traversal.target, hvisited, hseen, hqueue]
        · simp [Traversal.target, hvisited, hseen]
      · rw [Search.discover, if_neg hseen, ih _ { s with
          queue := s.queue ++ [⟨entry.1, current.path ++ [entry.1], current.depth + 1⟩]
          visited := s.visited ++ [entry.1] }]
        · simp [Traversal.target, hvisited, hseen]
        · simp [Traversal.target, hvisited, hseen, hqueue]
        · simp [Traversal.target, hvisited, hseen]

theorem foldl_discover_expanded (current : Visit String) (targets : List String)
    (s : Search String) :
    (targets.foldl (Search.discover current) s).expanded = s.expanded := by
  obtain ⟨added, -, heq⟩ := exists_added current targets s
  rw [heq]

variable {request}

/-- A round of the loop is a step of the search. -/
theorem traversalStep_traversalOf (hdepth : 0 ≤ request.maximumDepth) (found : Found)
    (sense : Sense) (s : Search String) :
    request.traversalStep sense (request.traversalOf found sense s) =
      request.traversalOf found sense
        (s.step (request.next sense) request.maximumDepth.toNat) := by
  cases hqueue : s.queue with
  | nil =>
      rw [step_of_queue_eq_nil hqueue, traversalStep]
      simp [traversalOf, hqueue]
  | cons current rest =>
      have hlimit : (current.depth : ℤ) ≥ request.maximumDepth ↔
          request.maximumDepth.toNat ≤ current.depth := by omega
      rw [traversalStep, Search.step, hqueue]
      simp only [traversalOf, hqueue, hlimit]
      by_cases hstop : request.maximumDepth.toNat ≤ current.depth
      · simp only [if_pos hstop]
      · simp only [if_neg hstop]
        rw [foldl_target current _ _
          { s with queue := rest, expanded := s.expanded ++ [current] } rfl rfl]
        simp only [foldl_discover_expanded, next, List.flatMap_append, List.flatMap_singleton,
          List.append_assoc, List.map_map, Function.comp_def]

/-- **A traversal is the search of its sense.** -/
theorem traverse_eq (hdepth : 0 ≤ request.maximumDepth) (found : Found) (sense : Sense) :
    request.traverse found sense =
      request.traversalOf found sense (request.searched sense) := by
  have hsemiconj : Function.Semiconj (request.traversalOf found sense)
      (Search.step (request.next sense) request.maximumDepth.toNat)
      (request.traversalStep sense) := fun s =>
    (traversalStep_traversalOf hdepth found sense s).symm
  have hiterate := hsemiconj.iterate_right (request.edges.length + 1)
  rw [searched, search, ends, List.length_map, hiterate.eq, traverse]
  simp [traversalOf, Search.start]

theorem queue_traverse (hdepth : 0 ≤ request.maximumDepth) (found : Found) (sense : Sense) :
    (request.traverse found sense).queue = [] := by
  rw [traverse_eq hdepth]
  exact queue_search request.next_subset_ends

/-! ## What is found -/

/-- The traversals add up. -/
theorem foldl_traverse (hdepth : 0 ≤ request.maximumDepth) (senses : List Sense) (found : Found) :
    senses.foldl (fun found sense => (request.traverse found sense).toFound) found =
      { affected := found.affected ++ senses.flatMap fun sense =>
          (request.searched sense).expanded.flatMap fun visit => request.next sense visit.node
        paths := found.paths ++ senses.flatMap fun sense =>
          (request.searched sense).expanded.flatMap fun visit =>
            (request.next sense visit.node).map fun target => visit.path ++ [target]
        unresolved := found.unresolved ++ senses.flatMap fun sense =>
          (request.searched sense).expanded.flatMap fun visit =>
            request.unresolvedAdjacency sense visit.node } := by
  induction senses generalizing found with
  | nil => simp
  | cons sense rest ih =>
      rw [List.foldl_cons, ih, traverse_eq hdepth]
      simp only [traversalOf, List.flatMap_cons, List.append_assoc]

variable (request) in
/-- A walk of at least one step and of no more than the depth leads from the subject to the
    entity, in a sense of the direction. -/
def Reached (depth : ℕ) (entity : String) : Prop :=
  ∃ sense ∈ request.direction.senses, ∃ n, 1 ≤ n ∧ n ≤ depth ∧
    Reaches (request.Crosses sense) n request.subjectId entity

theorem mem_affected_iff (hdepth : 0 ≤ request.maximumDepth) {entity : String} :
    entity ∈ request.found.affected ↔ request.Reached request.maximumDepth.toNat entity := by
  rw [found, foldl_traverse hdepth]
  simp only [List.nil_append, List.mem_flatMap]
  refine exists_congr fun sense => and_congr_right fun _ => ?_
  rw [← next_eq_crosses]
  exact exists_expanded_next_iff request.next_subset_ends

theorem mem_paths_iff (hdepth : 0 ≤ request.maximumDepth) {path : List String} :
    path ∈ request.found.paths ↔ ∃ sense ∈ request.direction.senses,
      ∃ visit ∈ (request.searched sense).expanded, ∃ target ∈ request.next sense visit.node,
        path = visit.path ++ [target] := by
  rw [found, foldl_traverse hdepth]
  simp only [List.nil_append, List.mem_flatMap, List.mem_map, eq_comm]

theorem mem_unresolved_iff (hdepth : 0 ≤ request.maximumDepth) {edgeId : String} :
    edgeId ∈ request.found.unresolved ↔ ∃ sense ∈ request.direction.senses,
      ∃ edge ∈ request.edges, request.Admits edge ∧ request.Bars edge ∧ edge.edgeId = edgeId ∧
        ∃ n < request.maximumDepth.toNat,
          Reaches (request.Crosses sense) n request.subjectId (sense.leaves edge) := by
  rw [found, foldl_traverse hdepth]
  simp only [List.nil_append, List.mem_flatMap]
  refine exists_congr fun sense => and_congr_right fun _ => ?_
  simp only [unresolvedAdjacency, List.mem_map, List.mem_filter, decide_eq_true_eq]
  rw [← next_eq_crosses]
  constructor
  · rintro ⟨visit, hvisit, edge, ⟨hedge, hadmits, hbars, hleaves⟩, hid⟩
    exact ⟨edge, hedge, hadmits, hbars, hid,
      (mem_expanded_iff request.next_subset_ends).1 ⟨visit, hvisit, hleaves.symm⟩⟩
  · rintro ⟨edge, hedge, hadmits, hbars, hid, hreach⟩
    obtain ⟨visit, hvisit, hnode⟩ := (mem_expanded_iff request.next_subset_ends).2 hreach
    exact ⟨visit, hvisit, edge, ⟨hedge, hadmits, hbars, hnode.symm⟩, hid⟩

/-! ## Exactness -/

variable (request) in
/-- The path is a walk from the subject, in one sense, of at least one step and of no more than
    the depth. -/
def IsPath (depth : ℕ) (path : List String) : Prop :=
  ∃ sense ∈ request.direction.senses, path.head? = some request.subjectId ∧
    path.IsChain (request.Crosses sense) ∧ 2 ≤ path.length ∧ path.length ≤ depth + 1

/-- What an impact index says about the request. -/
structure Exact (request : ImpactRequest) (index : ImpactIndex) : Prop where
  ends : ∀ found, ∀ sense ∈ request.direction.senses, (request.traverse found sense).queue = []
  affected : ∀ entity, entity ∈ index.affectedEntityIds ↔
    request.Reached request.maximumDepth.toNat entity
  paths : ∀ path ∈ index.paths, request.IsPath request.maximumDepth.toNat path
  shortest : ∀ entity ∈ index.affectedEntityIds, ∃ path ∈ index.paths,
    path.getLast? = some entity ∧ ∀ sense ∈ request.direction.senses, ∀ n, 1 ≤ n →
      Reaches (request.Crosses sense) n request.subjectId entity → path.length ≤ n + 1

theorem isPath_of_mem (hdepth : 0 ≤ request.maximumDepth) {path : List String}
    (h : path ∈ request.found.paths) : request.IsPath request.maximumDepth.toNat path := by
  obtain ⟨sense, hsense, visit, hvisit, target, htarget, rfl⟩ := (mem_paths_iff hdepth).1 h
  obtain ⟨hlimit, hshortest⟩ := expanded_shortest request.next_subset_ends hvisit
  have hwalks := hshortest.toWalks.snoc htarget
  rw [next_eq_crosses] at hwalks
  have hlength := hwalks.length
  dsimp only at hlength
  exact ⟨sense, hsense, hwalks.head, hwalks.chain, by omega, by omega⟩

/-- The least number of steps to an entity, over the senses of the direction, is that of a
    reported path. -/
theorem exists_shortest_path (hdepth : 0 ≤ request.maximumDepth) {entity : String}
    (h : entity ∈ request.found.affected) : ∃ path ∈ request.found.paths,
      path.getLast? = some entity ∧ ∀ sense ∈ request.direction.senses, ∀ n, 1 ≤ n →
        Reaches (request.Crosses sense) n request.subjectId entity → path.length ≤ n + 1 := by
  classical
  obtain ⟨sense, hsense, n, hn, hlimit, hreach⟩ := (mem_affected_iff hdepth).1 h
  have hexists : ∃ n, ∃ sense ∈ request.direction.senses, 1 ≤ n ∧
      Reaches (request.Crosses sense) n request.subjectId entity := ⟨n, sense, hsense, hn, hreach⟩
  have hfind : Nat.find hexists ≤ request.maximumDepth.toNat :=
    (Nat.find_min' hexists ⟨sense, hsense, hn, hreach⟩).trans hlimit
  obtain ⟨least, hleast, hpos, hwalk⟩ := Nat.find_spec hexists
  rw [← next_eq_crosses] at hwalk
  obtain ⟨visit, hvisit, htarget, hdepthLe⟩ :=
    exists_expanded_least request.next_subset_ends hpos hfind hwalk
  have hlength := (expanded_shortest request.next_subset_ends hvisit).2.length
  have hle := hdepthLe _ hpos hwalk
  refine ⟨visit.path ++ [entity],
    (mem_paths_iff hdepth).2 ⟨least, hleast, visit, hvisit, entity, htarget, rfl⟩, by simp, ?_⟩
  intro other hother m hm hother'
  have hmin := Nat.find_min' hexists ⟨other, hother, hm, hother'⟩
  rw [List.length_append, List.length_singleton]
  omega

/-- **Impact.** The result of an accepted request is exact, and a larger depth only adds to it. -/
theorem assessImpact_exact (request : ImpactRequest) (h : request.Accepted) :
    ∃ index, assessImpact request = .ok index ∧ request.Exact index ∧
      ∀ depth, request.maximumDepth ≤ depth → ∃ deeper,
        assessImpact { request with maximumDepth := depth } = .ok deeper ∧
          ∀ entity ∈ index.affectedEntityIds, entity ∈ deeper.affectedEntityIds := by
  have hdepth := h.1
  refine ⟨request.index, assessImpact_eq_ok.2 ⟨h, rfl⟩, ⟨?_, ?_, ?_, ?_⟩, ?_⟩
  · exact fun found sense _ => queue_traverse hdepth found sense
  · exact fun entity => mem_sortedSet.trans (mem_affected_iff hdepth)
  · exact fun path hpath => isPath_of_mem hdepth (mem_sortedSet.1 hpath)
  · intro entity hentity
    obtain ⟨path, hpath, hshortest⟩ := exists_shortest_path hdepth (mem_sortedSet.1 hentity)
    exact ⟨path, mem_sortedSet.2 hpath, hshortest⟩
  · intro depth hle
    have hdeeper : 0 ≤ depth := hdepth.trans hle
    refine ⟨_, assessImpact_eq_ok.2 ⟨⟨hdeeper, h.2⟩, rfl⟩, fun entity hentity => ?_⟩
    obtain ⟨sense, hsense, n, hn, hlimit, hreach⟩ :=
      (mem_affected_iff hdepth).1 (mem_sortedSet.1 hentity)
    refine mem_sortedSet.2 ((mem_affected_iff hdeeper).2 ⟨sense, hsense, n, hn, ?_, hreach⟩)
    exact hlimit.trans (Int.toNat_le_toNat hle)

/-- A dependency between two entities. -/
def dependencyEdge (sourceId targetId : String) (properties : List (String × Json)) :
    EdgeRecord where
  edgeId := "edge:" ++ sourceId ++ targetId
  sourceId := sourceId
  targetId := targetId
  edgeType := .dependsOn
  properties := properties

/-- Two entities that depend on each other, and one of them on itself. -/
def cycleRequest : ImpactRequest where
  subjectId := "a"
  edges := [dependencyEdge "a" "b" [], dependencyEdge "b" "a" [], dependencyEdge "b" "b" []]
  direction := .both

example : cycleRequest.index.affectedEntityIds = ["a", "b"] := by decide +kernel

theorem assessImpact_exact_cycle :
    ∃ index, assessImpact cycleRequest = .ok index ∧ cycleRequest.Exact index ∧
      ∀ depth, 10 ≤ depth → ∃ deeper,
        assessImpact { cycleRequest with maximumDepth := depth } = .ok deeper ∧
          ∀ entity ∈ index.affectedEntityIds, entity ∈ deeper.affectedEntityIds :=
  assessImpact_exact cycleRequest ⟨by decide, by decide⟩

/-! ## Resolution -/

/-- What the producer of an edge must have said about its target for the edge to be crossed: that
    it is one artifact, or, saying nothing, that it is an external package or an observed
    entity. -/
inductive PositiveEvidence (observedEntityIds : List String) (edge : EdgeRecord) : Prop
  | exactArtifact (h : edge.property? "target_resolution" = some (.str "exact-artifact"))
  | externalPackage (h : edge.property? "target_resolution" = none)
      (hkind : edge.property? "endpoint_kind" = some (.str "external-package-reference"))
  | observedEntity (h : edge.property? "target_resolution" = none)
      (hobserved : edge.targetId ∈ observedEntityIds)

theorem edgeIsResolved_iff {edge : EdgeRecord} {observedEntityIds : List String} :
    edgeIsResolved edge observedEntityIds = true ↔ PositiveEvidence observedEntityIds edge := by
  unfold edgeIsResolved dependencyTargetResolution
  cases hrecorded : edge.property? "target_resolution" with
  | some recorded =>
      dsimp only
      by_cases hexact : recorded.isText "exact-artifact" = true
      · rw [if_pos hexact]
        refine iff_of_true (by decide) (.exactArtifact ?_)
        rw [hrecorded, Json.isText_iff.1 hexact]
      · rw [if_neg hexact]
        refine iff_of_false (by decide) fun h => ?_
        cases h with
        | exactArtifact h =>
            rw [hrecorded, Option.some.injEq] at h
            exact hexact (Json.isText_iff.2 h)
        | externalPackage h => simp [hrecorded] at h
        | observedEntity h => simp [hrecorded] at h
  | none =>
      dsimp only
      by_cases hkind : (edge.property? "endpoint_kind").any
          (Json.isText "external-package-reference") = true
      · rw [if_pos hkind]
        exact iff_of_true (by decide) (.externalPackage hrecorded (Json.any_isText_iff.1 hkind))
      · rw [if_neg hkind]
        by_cases hobserved : edge.targetId ∈ observedEntityIds
        · rw [if_pos hobserved]
          exact iff_of_true (by decide) (.observedEntity hrecorded hobserved)
        · rw [if_neg hobserved]
          refine iff_of_false (by decide) fun h => ?_
          cases h with
          | exactArtifact h => simp [hrecorded] at h
          | externalPackage _ h => exact hkind (Json.any_isText_iff.2 h)
          | observedEntity _ h => exact hobserved h

variable (request) in
/-- The request on the edges that are left when the unresolved ones are deleted. -/
def withoutUnresolved : ImpactRequest :=
  { request with edges := request.edges.filter fun edge =>
      edgeIsResolved edge request.observedEntityIds }

variable (request) in
/-- Generic reachability along the edge types of the request. -/
def generic : ImpactRequest :=
  { request with edgeTypes := some request.allowedTypes, resolutionAware := false }

/-- Two requests with the same successors and the same parameters of the search find the same. -/
theorem index_eq_of_next {request other : ImpactRequest} (hdepth : 0 ≤ request.maximumDepth)
    (hsubject : other.subjectId = request.subjectId)
    (hdirection : other.direction = request.direction)
    (hmaximum : other.maximumDepth = request.maximumDepth)
    (hnext : ∀ sense, other.next sense = request.next sense) :
    other.index.affectedEntityIds = request.index.affectedEntityIds ∧
      other.index.paths = request.index.paths := by
  have hsearched : ∀ sense, other.searched sense = request.searched sense := by
    intro sense
    have hends : ∀ node, ∀ target ∈ other.next sense node, target ∈ other.ends sense :=
      other.next_subset_ends
    rw [hnext] at hends
    rw [searched, searched, hnext, hmaximum, hsubject]
    exact search_eq_search hends request.next_subset_ends
  have hdepth' : 0 ≤ other.maximumDepth := hmaximum ▸ hdepth
  simp only [index, found, foldl_traverse hdepth, foldl_traverse hdepth', hdirection, hsearched,
    hnext, and_self]

section Aware

variable (haware : request.resolutionAware = true)

include haware

theorem bars_iff {edge : EdgeRecord} : request.Bars edge ↔
    ¬ PositiveEvidence request.observedEntityIds edge := by
  rw [Bars, ← edgeIsResolved_iff, Bool.not_eq_true]
  exact and_iff_right haware

theorem next_withoutUnresolved (sense : Sense) :
    request.withoutUnresolved.next sense = request.next sense := by
  funext node
  have hkept : ∀ edge, request.withoutUnresolved.Admits edge ↔ request.Admits edge :=
    fun _ => Iff.rfl
  have hbars : ∀ edge, request.withoutUnresolved.Bars edge ↔ request.Bars edge := fun _ => Iff.rfl
  have hedges : request.withoutUnresolved.edges = request.edges.filter fun edge =>
      edgeIsResolved edge request.observedEntityIds := rfl
  simp only [next, adjacency, hkept, hbars, hedges, List.filter_filter]
  congr 4
  funext edge
  by_cases hresolved : edgeIsResolved edge request.observedEntityIds = true
  · simp [hresolved]
  · simp [Bars, haware, hresolved]

theorem next_generic (sense : Sense) :
    request.withoutUnresolved.generic.next sense = request.next sense := by
  rw [← next_withoutUnresolved haware sense]
  funext node
  have hadjacency : request.withoutUnresolved.generic.adjacency sense node =
      request.withoutUnresolved.adjacency sense node := by
    rw [adjacency, adjacency]
    refine congrArg (List.map _) (List.filter_congr fun edge hedge => ?_)
    have hresolved : edgeIsResolved edge request.observedEntityIds = true :=
      (List.mem_filter.1 hedge).2
    have hadmits : request.withoutUnresolved.generic.Admits edge ↔
        request.withoutUnresolved.Admits edge := Iff.rfl
    have hbars : ¬ request.withoutUnresolved.Bars edge := by
      simp [Bars, withoutUnresolved, hresolved]
    have hbars' : ¬ request.withoutUnresolved.generic.Bars edge := by
      simp [Bars, generic]
    simp only [hadmits, hbars, hbars']
  rw [next, next, hadjacency]

variable (request) in
/-- The same parameters without regard to resolution. -/
def unaware : ImpactRequest := { request with resolutionAware := false }

omit haware in
theorem dependencyEdgeTypes_traversable :
    ∀ edgeType ∈ dependencyEdgeTypes, edgeType ∈ traversableEdgeTypes := by
  decide

theorem crosses_unaware (sense : Sense) (node target : String)
    (h : request.Crosses sense node target) : request.unaware.Crosses sense node target := by
  obtain ⟨edge, hedge, ⟨htype, hconfidence⟩, -, hends⟩ := h
  refine ⟨edge, hedge, ⟨?_, hconfidence⟩, fun hbars => Bool.noConfusion hbars.1, hends⟩
  rw [allowedTypes, if_pos haware] at htype
  show edge.edgeType ∈ request.edgeTypes.getD traversableEdgeTypes
  cases hasked : request.edgeTypes with
  | none =>
      rw [hasked] at htype
      exact dependencyEdgeTypes_traversable _ htype
  | some asked =>
      rw [hasked] at htype
      exact htype

end Aware

/-- What a resolution-aware index says about the request. -/
structure ResolutionExact (request : ImpactRequest) (index : ImpactIndex) : Prop where
  deleted : ∃ other, assessImpact request.withoutUnresolved = .ok other ∧
    other.affectedEntityIds = index.affectedEntityIds ∧ other.paths = index.paths
  deleted_generic : ∃ other, assessImpact request.withoutUnresolved.generic = .ok other ∧
    other.affectedEntityIds = index.affectedEntityIds ∧ other.paths = index.paths
  unresolved : ∀ edgeId, edgeId ∈ index.unresolvedEdgeIds ↔
    ∃ sense ∈ request.direction.senses, ∃ edge ∈ request.edges, request.Admits edge ∧
      ¬ PositiveEvidence request.observedEntityIds edge ∧ edge.edgeId = edgeId ∧
        ∃ n < request.maximumDepth.toNat,
          Reaches (request.Crosses sense) n request.subjectId (sense.leaves edge)
  contained : ∃ other, assessImpact request.unaware = .ok other ∧
    ∀ entity ∈ index.affectedEntityIds, entity ∈ other.affectedEntityIds
  crossed : ∀ path ∈ index.paths, ∃ sense ∈ request.direction.senses,
    path.IsChain fun node target => ∃ edge ∈ request.edges, request.Admits edge ∧
      PositiveEvidence request.observedEntityIds edge ∧ sense.leaves edge = node ∧
        sense.enters edge = target

/-- **Resolution.** A resolution-aware traversal is the generic one over the resolved edges, and
    reports the unresolved ones that it meets before the depth. -/
theorem assessImpact_resolution (request : ImpactRequest) (h : request.Accepted)
    (haware : request.resolutionAware = true) :
    ∃ index, assessImpact request = .ok index ∧ request.ResolutionExact index := by
  have hdepth := h.1
  refine ⟨request.index, assessImpact_eq_ok.2 ⟨h, rfl⟩, ⟨?_, ?_, ?_, ?_, ?_⟩⟩
  · exact ⟨_, assessImpact_eq_ok.2 ⟨h, rfl⟩,
      index_eq_of_next hdepth rfl rfl rfl (next_withoutUnresolved haware)⟩
  · refine ⟨_, assessImpact_eq_ok.2 ⟨⟨hdepth, fun hother => Bool.noConfusion hother⟩, rfl⟩,
      index_eq_of_next hdepth rfl rfl rfl (next_generic haware)⟩
  · intro edgeId
    refine mem_sortedSet.trans ((mem_unresolved_iff hdepth).trans ?_)
    simp only [bars_iff haware]
  · refine ⟨_, assessImpact_eq_ok.2 ⟨⟨hdepth, fun hother => Bool.noConfusion hother⟩, rfl⟩, ?_⟩
    intro entity hentity
    obtain ⟨sense, hsense, n, hn, hlimit, hreach⟩ :=
      (mem_affected_iff hdepth).1 (mem_sortedSet.1 hentity)
    have hdepth' : 0 ≤ request.unaware.maximumDepth := hdepth
    exact mem_sortedSet.2 ((mem_affected_iff hdepth').2
      ⟨sense, hsense, n, hn, hlimit, hreach.mono (crosses_unaware haware sense)⟩)
  · intro path hpath
    obtain ⟨sense, hsense, -, hchain, -⟩ := isPath_of_mem hdepth (mem_sortedSet.1 hpath)
    refine ⟨sense, hsense, hchain.imp fun node target hcrosses => ?_⟩
    obtain ⟨edge, hedge, hadmits, hbars, hends⟩ := hcrosses
    rw [bars_iff haware, not_not] at hbars
    exact ⟨edge, hedge, hadmits, hbars, hends⟩

/-- A resolved dependency, and an unresolved one behind it. -/
def declaredRequest : ImpactRequest where
  subjectId := "a"
  edges := [dependencyEdge "a" "b" [("target_resolution", .str "exact-artifact")],
    dependencyEdge "b" "c" [("target_resolution", .str "ambiguous")]]
  direction := .upstream
  resolutionAware := true

theorem assessImpact_resolution_declared :
    ∃ index, assessImpact declaredRequest = .ok index ∧ declaredRequest.ResolutionExact index :=
  assessImpact_resolution declaredRequest ⟨by decide, by decide⟩ rfl

end ImpactRequest

end ConstellationTopology
