import ConstellationTopology.Library.ElementaryCycle
import ConstellationTopology.Validation.TopologyValidator

set_option autoImplicit false

/-! # What a dependency cycle scan reports

The scan walks from every node with a dependency until the path meets itself, so it reports the
elementary cycles of the dependency graph, each in the smallest of its rotations
(`dependencyCycles_exact`). -/

namespace ConstellationTopology

open ElementaryCycle

/-! ## The smallest rotation -/

/-- `rotations`. -/
def closedRotations (nodes : List String) : List (List String) :=
  (List.range nodes.length).map fun index =>
    nodes.drop index ++ nodes.take index ++ (nodes[index]?).toList

theorem mem_closedRotations {nodes row : List String} (hne : nodes ≠ []) :
    row ∈ closedRotations nodes ↔ ∃ rotated, nodes ~r rotated ∧ closed rotated = row := by
  have hclosed : ∀ index < nodes.length,
      nodes.drop index ++ nodes.take index ++ (nodes[index]?).toList =
        closed (nodes.rotate index) := by
    intro index hindex
    rw [closed, List.head?_rotate hindex, List.rotate_eq_drop_append_take hindex.le]
  simp only [closedRotations, List.mem_map, List.mem_range]
  constructor
  · rintro ⟨index, hindex, hrow⟩
    exact ⟨_, ⟨index, rfl⟩, (hclosed index hindex).symm.trans hrow⟩
  · rintro ⟨rotated, ⟨count, hcount⟩, hrow⟩
    have hlt : count % nodes.length < nodes.length := Nat.mod_lt _ (List.length_pos_iff.2 hne)
    refine ⟨count % nodes.length, hlt, ?_⟩
    rw [hclosed _ hlt, List.rotate_mod, hcount, hrow]

theorem smallestRotation_spec {nodes : List String} (hne : nodes ≠ []) :
    smallestRotation nodes ∈ closedRotations nodes ∧
      ∀ row ∈ closedRotations nodes, smallestRotation nodes ≤ row := by
  have hrotations : closedRotations nodes ≠ [] := by
    simp [closedRotations, hne]
  obtain ⟨first, rest, hlist⟩ := List.exists_cons_of_ne_nil hrotations
  have heq : smallestRotation nodes =
      (first :: rest).foldl (fun least row => if row < least then row else least) first := by
    rw [← hlist]
    show (closedRotations nodes).foldl _ ((closedRotations nodes).headD []) = _
    rw [hlist]
    rfl
  obtain ⟨hmem, -, hleast⟩ := foldl_least first (first :: rest)
  rw [heq, hlist]
  refine ⟨?_, hleast⟩
  rcases hmem with hmem | hmem
  · rw [hmem]
    exact List.mem_cons_self
  · exact hmem

/-- The smallest rotation writes the cycle. -/
theorem exists_rotated_smallestRotation {nodes : List String} (hne : nodes ≠ []) :
    ∃ rotated, nodes ~r rotated ∧ closed rotated = smallestRotation nodes :=
  (mem_closedRotations hne).1 (smallestRotation_spec hne).1

/-- The rotations of a cycle have one smallest rotation. -/
theorem smallestRotation_of_isRotated {nodes nodes' : List String} (hne : nodes ≠ [])
    (h : nodes ~r nodes') : smallestRotation nodes = smallestRotation nodes' := by
  have hne' : nodes' ≠ [] := fun hnil => hne (List.isRotated_nil_iff.1 (hnil ▸ h))
  have hsame : ∀ row, row ∈ closedRotations nodes ↔ row ∈ closedRotations nodes' := by
    intro row
    rw [mem_closedRotations hne, mem_closedRotations hne']
    refine exists_congr fun rotated => and_congr_left fun _ => ?_
    exact ⟨h.symm.trans, h.trans⟩
  obtain ⟨hmem, hleast⟩ := smallestRotation_spec hne
  obtain ⟨hmem', hleast'⟩ := smallestRotation_spec hne'
  exact le_antisymm (hleast _ ((hsame _).2 hmem')) (hleast' _ ((hsame _).1 hmem))

/-! ## The scan -/

/-- The dependency edges of the state. -/
def DependsOn (state : TopologyState) (node target : String) : Prop :=
  ∃ edge ∈ state.edgeRecords, edge.edgeType = .dependsOn ∧ edge.sourceId = node ∧
    edge.targetId = target

variable {state : TopologyState}

theorem mem_dependencyTargets {node target : String} :
    target ∈ dependencyTargets state node ↔ DependsOn state node target := by
  simp only [dependencyTargets, mem_sortedSet, List.mem_map, List.mem_filter, decide_eq_true_eq,
    DependsOn, and_assoc]

theorem dependencyTargets_eq :
    (fun node target => target ∈ dependencyTargets state node) = DependsOn state := by
  funext node target
  exact propext mem_dependencyTargets

theorem mem_dependencySources {node : String} :
    node ∈ dependencySources state ↔ ∃ target, DependsOn state node target := by
  simp only [dependencySources, mem_sortedSet, List.mem_map, List.mem_filter, decide_eq_true_eq,
    DependsOn]
  constructor
  · rintro ⟨edge, ⟨hedge, htype⟩, hsource⟩
    exact ⟨edge.targetId, edge, hedge, htype, hsource, rfl⟩
  · rintro ⟨_, edge, hedge, htype, hsource, _⟩
    exact ⟨edge, ⟨hedge, htype⟩, hsource⟩

/-- The recursion of the source is the walk, with the smallest rotation of what it closes. -/
theorem visitDependencies_eq (fuel : ℕ) (node : String) (path : List String) :
    visitDependencies state fuel node path =
      (visit (dependencyTargets state) fuel node path).map smallestRotation := by
  induction fuel generalizing node path with
  | zero =>
      by_cases hmem : node ∈ path
      · rw [visit_of_mem hmem, visitDependencies, if_pos hmem, List.map_singleton]
      · rw [visitDependencies, visit, if_neg hmem, if_neg hmem, List.map_nil]
  | succ fuel ih =>
      by_cases hmem : node ∈ path
      · rw [visit_of_mem hmem, visitDependencies, if_pos hmem, List.map_singleton]
      · rw [visit_succ hmem, visitDependencies, if_neg hmem, List.map_flatMap]
        simp only [ih]

/-- Every node of a cycle has a dependency. -/
theorem mem_dependencySources_of_elementary {nodes : List String}
    (h : Elementary (DependsOn state) nodes) : ∀ node ∈ nodes, node ∈ dependencySources state := by
  intro node hnode
  obtain ⟨front, back, rfl⟩ := List.append_of_mem hnode
  obtain ⟨first, hfirst⟩ : ∃ first, (front ++ node :: back).head? = some first := by
    cases front with
    | nil => exact ⟨node, rfl⟩
    | cons a rest => exact ⟨a, rfl⟩
  obtain ⟨target, rest, hrest⟩ : ∃ target rest, back ++ [first] = target :: rest := by
    cases back with
    | nil => exact ⟨first, [], rfl⟩
    | cons a rest => exact ⟨a, rest ++ [first], rfl⟩
  have hchain := h.chain
  rw [closed, hfirst, Option.toList_some, List.append_assoc, List.cons_append, hrest,
    List.isChain_append_cons_cons] at hchain
  exact mem_dependencySources.2 ⟨target, hchain.2.1⟩

/-- The scan reports the smallest rotation of each elementary cycle. -/
theorem mem_dependencyCycles {row : List String} : row ∈ dependencyCycles state ↔
    ∃ nodes, Elementary (DependsOn state) nodes ∧ smallestRotation nodes = row := by
  simp only [dependencyCycles, mem_sortedSet, List.mem_flatMap, visitDependencies_eq,
    List.mem_map]
  constructor
  · rintro ⟨node, _, nodes, hnodes, hrow⟩
    have helementary := visit_sound List.nodup_nil (List.isChain_singleton node) nodes hnodes
    exact ⟨nodes, dependencyTargets_eq ▸ helementary, hrow⟩
  · rintro ⟨nodes, helementary, hrow⟩
    have hsources := mem_dependencySources_of_elementary helementary
    -- the nodes are distinct, so the bound on the path is not met before the cycle is closed
    have hlength : nodes.length ≤ (dependencySources state).length :=
      (List.subperm_of_subset helementary.nodup hsources).length_le
    obtain ⟨node, rest, rfl⟩ := List.exists_cons_of_ne_nil helementary.ne_nil
    rw [← dependencyTargets_eq] at helementary
    exact ⟨node, hsources node List.mem_cons_self, _,
      visit_complete helementary (by omega), hrow⟩

/-! ## Exactness -/

/-- The cycle is an elementary one of the dependency graph. -/
def ElementaryDependency (state : TopologyState) (cycle : Cycle String) : Prop :=
  cycle ≠ Cycle.nil ∧ cycle.Nodup ∧ cycle.Chain (DependsOn state)

/-- The row lists the nodes of the cycle from one of them back to it. -/
def Writes (row : List String) (cycle : Cycle String) : Prop :=
  ∃ nodes : List String, (nodes : Cycle String) = cycle ∧ closed nodes = row

theorem writes_unique {row : List String} {cycle cycle' : Cycle String} (hne : cycle ≠ Cycle.nil)
    (hne' : cycle' ≠ Cycle.nil) (h : Writes row cycle) (h' : Writes row cycle') :
    cycle = cycle' := by
  obtain ⟨nodes, rfl, hrow⟩ := h
  obtain ⟨nodes', rfl, hrow'⟩ := h'
  rw [Ne, Cycle.coe_eq_nil] at hne hne'
  rw [← closed_dropLast hne, ← closed_dropLast hne', hrow, hrow']

/-- **Dependency cycles.** Each row of the scan writes an elementary cycle of the dependency graph,
    and each elementary cycle is written by exactly one row, which stands once. -/
theorem dependencyCycles_exact (state : TopologyState) :
    (dependencyCycles state).Nodup ∧
      (∀ row ∈ dependencyCycles state, ∃ cycle, ElementaryDependency state cycle ∧
        Writes row cycle) ∧
      ∀ cycle, ElementaryDependency state cycle →
        ∃! row, row ∈ dependencyCycles state ∧ Writes row cycle := by
  refine ⟨sortedSet_nodup _, ?_, ?_⟩
  · intro row hrow
    obtain ⟨nodes, helementary, rfl⟩ := mem_dependencyCycles.1 hrow
    obtain ⟨rotated, hrotated, hclosed⟩ := exists_rotated_smallestRotation helementary.ne_nil
    exact ⟨nodes, elementary_iff.1 helementary, rotated, (Cycle.coe_eq_coe.2 hrotated).symm,
      hclosed⟩
  · intro cycle hcycle
    induction cycle using Quotient.inductionOn' with
    | h nodes =>
        have helementary : Elementary (DependsOn state) nodes := elementary_iff.2 hcycle
        obtain ⟨rotated, hrotated, hclosed⟩ := exists_rotated_smallestRotation helementary.ne_nil
        refine ⟨smallestRotation nodes, ⟨mem_dependencyCycles.2 ⟨nodes, helementary, rfl⟩,
          rotated, (Cycle.coe_eq_coe.2 hrotated).symm, hclosed⟩, ?_⟩
        rintro row ⟨hrow, hwrites⟩
        obtain ⟨nodes', helementary', rfl⟩ := mem_dependencyCycles.1 hrow
        obtain ⟨rotated', hrotated', hclosed'⟩ :=
          exists_rotated_smallestRotation helementary'.ne_nil
        have hne' : (nodes' : Cycle String) ≠ Cycle.nil := (elementary_iff.1 helementary').1
        have hsame : (nodes' : Cycle String) = nodes :=
          writes_unique hne' hcycle.1
            ⟨rotated', (Cycle.coe_eq_coe.2 hrotated').symm, hclosed'⟩ hwrites
        exact smallestRotation_of_isRotated helementary'.ne_nil (Cycle.coe_eq_coe.1 hsame)

end ConstellationTopology
