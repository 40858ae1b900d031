import Mathlib.Data.List.Basic
import Mathlib.Data.List.Count
import Mathlib.Data.List.Induction
import WorkflowRelease.Workflow.Graph

/-!
# Graphs as tables

A graph can be kept in six tables that are filled in two runs: one over the nodes, which adds an id
to all tables when it comes for the first time, and one over the edges, which changes the values of
the ends that are known. An edge with one known end counts for the degree of this end and for
nothing else. Main statements: `fill?_eq`, each of the runs keeps the tables what the graph makes of
the part that has been read, and `consistent_of_fill`, what the tables have to do with one another.
-/

namespace WorkflowRelease

/-- Values under ids, in the order in which the ids came. -/
abbrev Table (α : Type) := List (String × α)

namespace Table

variable {α : Type}

def ids (t : Table α) : List String := t.map (·.1)

/-- Sets the value of an id, which comes last if it is new. -/
def put (t : Table α) (id : String) (a : α) : Table α :=
  if id ∈ t.ids then t.map fun e => if e.1 = id then (e.1, a) else e else t ++ [(id, a)]

/-- Changes the value of an id. An id that is not there has none. -/
def change? (t : Table α) (id : String) (f : α → α) : Option (Table α) :=
  if id ∈ t.ids then some (t.map fun e => if e.1 = id then (e.1, f e.2) else e) else none

def changeIf? (known : Prop) [Decidable known] (t : Table α) (id : String) (f : α → α) :
    Option (Table α) :=
  if known then t.change? id f else some t

end Table

/-- Firsts come in the order in which they are found. -/
theorem Text.pairwise_idxOf_distinct (l : List String) :
    (distinct l).Pairwise fun s t => l.idxOf s < l.idxOf t := by
  induction l with
  | nil => exact .nil
  | cons s ss ih =>
    have hlt {t : String} (ht : t ∈ (distinct ss).filter (· ≠ s)) :
        (s :: ss).idxOf t = ss.idxOf t + 1 :=
      List.idxOf_cons_ne _ (Ne.symm (by simpa using (List.mem_filter.1 ht).2))
    refine List.pairwise_cons.2 ⟨fun t ht => ?_, ?_⟩
    · rw [hlt ht, List.idxOf_cons_self]
      exact Nat.succ_pos _
    · refine (ih.filter _).imp_of_mem fun ht hu h => ?_
      rw [hlt ht, hlt hu]
      exact Nat.succ_lt_succ h

theorem find?_firstById (ns : List Node) (id : String) :
    (firstById ns).find? (·.id = id) = ns.find? (·.id = id) := by
  induction ns with
  | nil => rfl
  | cons n ns ih =>
    rw [firstById, List.find?_cons, List.find?_cons, List.find?_filter, ← ih]
    by_cases h : n.id = id
    · simp [h]
    · simp only [h, decide_false]
      congr 1
      funext m
      by_cases hm : m.id = id <;> simp [hm, Ne.symm h]

namespace Graph

/-- The tables of a graph. Links to a node and from it have an entry for each edge. -/
structure Tables where
  nodes : Table Node := []
  kinds : Table NodeKind := []
  successors : Table (List String) := []
  predecessors : Table (List String) := []
  inDegree : Table Nat := []
  outDegree : Table Nat := []

namespace Tables

/-- A node is passed over if its id has been there. -/
def addNode (t : Tables) (n : Node) : Tables :=
  if n.id ∈ t.nodes.ids then t
  else
    { nodes := t.nodes.put n.id n
      kinds := t.kinds.put n.id n.kind
      successors := t.successors.put n.id []
      predecessors := t.predecessors.put n.id []
      inDegree := t.inDegree.put n.id 0
      outDegree := t.outDegree.put n.id 0 }

/-- An edge counts for the degrees of its known ends, and is entered if both are known. -/
def addEdge? (t : Tables) (e : Edge) : Option Tables := do
  let source := e.source ∈ t.nodes.ids
  let target := e.target ∈ t.nodes.ids
  let outDegree ← t.outDegree.changeIf? source e.source (· + 1)
  let inDegree ← t.inDegree.changeIf? target e.target (· + 1)
  let successors ← t.successors.changeIf? (source ∧ target) e.source (· ++ [e.target])
  let predecessors ← t.predecessors.changeIf? (source ∧ target) e.target (· ++ [e.source])
  return { t with outDegree, inDegree, successors, predecessors }

/-- The tables of a workflow; there are none if a value is changed that is not there. -/
def fill? (w : Workflow) : Option Tables := w.edges.foldlM addEdge? (w.nodes.foldl addNode {})

end Tables

/-! ## Tables of a graph -/

section

variable {α : Type} {g : Graph}

/-- What each node of the graph has, under its id. -/
def tabulate (g : Graph) (f : Node → α) : Table α := g.nodes.map fun n => (n.id, f n)

/-- The tables that belong to a graph. -/
def tables (g : Graph) : Tables where
  nodes := g.tabulate fun n => n
  kinds := g.tabulate Node.kind
  successors := g.tabulate fun n => g.successors n.id
  predecessors := g.tabulate fun n => g.predecessors n.id
  inDegree := g.tabulate fun n => g.inDegree n.id
  outDegree := g.tabulate fun n => g.outDegree n.id

@[simp] theorem ids_tabulate (g : Graph) (f : Node → α) : (g.tabulate f).ids = g.ids := by
  simp [tabulate, Table.ids, ids]

theorem lookup_tabulate (g : Graph) (f : Node → α) (id : String) :
    (g.tabulate f).lookup id = (g.node? id).map f := by
  unfold tabulate node?
  induction g.nodes with
  | nil => rfl
  | cons n ns ih =>
    rw [List.map_cons, List.lookup_cons, List.find?_cons, ih]
    by_cases h : n.id = id
    · simp [h]
    · simp [h, beq_eq_false_iff_ne.2 (Ne.symm h)]

theorem lookup_tabulate_id (f : String → α) {id : String} (h : id ∈ g.ids) :
    (g.tabulate fun n => f n.id).lookup id = some (f id) := by
  obtain ⟨n, hn, hid⟩ := exists_node?_of_mem h
  rw [lookup_tabulate, hn, Option.map_some, hid]

/-- A value that is changed or left as it is makes a table of other values. -/
theorem changeIf?_tabulate {known : Prop} [Decidable known] {id : String} {f' : Node → α}
    (f : Node → α) (h : α → α) (hknown : known → id ∈ g.ids)
    (hf : ∀ n ∈ g.nodes, f' n = if known ∧ n.id = id then h (f n) else f n) :
    (g.tabulate f).changeIf? known id h = some (g.tabulate f') := by
  rw [Table.changeIf?]
  split
  · rename_i hk
    rw [Table.change?, if_pos (by rw [ids_tabulate]; exact hknown hk), Option.some_inj]
    simp only [tabulate, List.map_map]
    refine List.map_congr_left fun n hn => ?_
    rw [hf n hn]
    by_cases hid : n.id = id <;> simp [hk, hid]
  · rename_i hk
    rw [Option.some_inj]
    refine List.map_congr_left fun n hn => ?_
    rw [hf n hn, if_neg fun h => hk h.1]

theorem put_tabulate {ns : List Node} {n : Node} (f : Node → α)
    (h : n.id ∉ (Graph.mk ns []).ids) :
    ((Graph.mk ns []).tabulate f).put n.id (f n) = (Graph.mk (ns ++ [n]) []).tabulate f := by
  rw [Table.put, if_neg (by rwa [ids_tabulate])]
  simp [tabulate]

end

/-! ## The run over the nodes -/

/-- A node that comes last is kept if its id is new. -/
theorem firstById_concat (ns : List Node) (n : Node) :
    firstById (ns ++ [n]) = firstById ns ++ if n.id ∈ ns.map (·.id) then [] else [n] := by
  induction ns with
  | nil => rfl
  | cons m ms ih =>
    rw [List.cons_append, firstById, firstById, ih, List.filter_append, List.cons_append]
    by_cases hm : n.id = m.id <;> by_cases hms : n.id ∈ ms.map (·.id) <;> simp [hm, hms]

/-- One node leads from the tables of the nodes before it to the tables with it. -/
theorem addNode_tables (ns : List Node) (n : Node) :
    (Graph.mk (firstById ns) []).tables.addNode n =
      (Graph.mk (firstById (ns ++ [n])) []).tables := by
  have hmem : n.id ∈ (Graph.mk (firstById ns) []).ids ↔ n.id ∈ ns.map (·.id) := by
    rw [ids, ids_firstById, Text.mem_distinct]
  rw [firstById_concat, Tables.addNode]
  simp only [tables, ids_tabulate]
  split
  · rename_i h
    rw [if_pos (hmem.1 h), List.append_nil]
  · rename_i h
    rw [if_neg fun hn => h (hmem.2 hn)]
    have hput {α : Type} (f : Node → α) := put_tabulate f h
    congr 1
    · exact hput _
    · exact hput _
    · exact hput _
    · exact hput _
    · exact hput _
    · exact hput _

theorem foldl_addNode (ns : List Node) :
    ns.foldl Tables.addNode {} = (Graph.mk (firstById ns) []).tables := by
  induction ns using List.reverseRecOn with
  | nil => rfl
  | append_singleton ns n ih =>
    rw [List.foldl_append, ih, List.foldl_cons, List.foldl_nil, addNode_tables]

/-! ## The run over the edges -/

/-- The graph with one edge more. -/
def withEdge (g : Graph) (e : Edge) : Graph := ⟨g.nodes, g.edges ++ [e]⟩

section

variable (g : Graph) (e : Edge) (id : String)

theorem outDegree_withEdge : (g.withEdge e).outDegree id =
    if id = e.source then g.outDegree id + 1 else g.outDegree id := by
  by_cases h : id = e.source <;> simp [outDegree, withEdge, h, Ne.symm]

theorem inDegree_withEdge : (g.withEdge e).inDegree id =
    if id = e.target then g.inDegree id + 1 else g.inDegree id := by
  by_cases h : id = e.target <;> simp [inDegree, withEdge, h, Ne.symm]

theorem successors_withEdge : (g.withEdge e).successors id =
    if g.resolves e = true ∧ id = e.source then g.successors id ++ [e.target]
    else g.successors id := by
  have hresolves : (g.withEdge e).resolves = g.resolves := rfl
  rw [successors, hresolves, withEdge, List.filter_append, List.map_append, successors]
  by_cases hr : g.resolves e = true <;> by_cases h : id = e.source <;> simp [hr, h, Ne.symm]

theorem predecessors_withEdge : (g.withEdge e).predecessors id =
    if g.resolves e = true ∧ id = e.target then g.predecessors id ++ [e.source]
    else g.predecessors id := by
  have hresolves : (g.withEdge e).resolves = g.resolves := rfl
  rw [predecessors, hresolves, withEdge, List.filter_append, List.map_append, predecessors]
  by_cases hr : g.resolves e = true <;> by_cases h : id = e.target <;> simp [hr, h, Ne.symm]

end

/-- One edge leads from the tables of a graph to those of the graph with this edge. -/
theorem addEdge?_tables (g : Graph) (e : Edge) :
    g.tables.addEdge? e = some (g.withEdge e).tables := by
  have hmem {n : Node} (hn : n ∈ g.nodes) : n.id ∈ g.ids := List.mem_map_of_mem hn
  have hout := changeIf?_tabulate (fun n => g.outDegree n.id) (· + 1) (fun hknown => hknown)
    fun n hn => (outDegree_withEdge g e n.id).trans
      (if_congr ⟨fun h => ⟨h ▸ hmem hn, h⟩, And.right⟩ rfl rfl)
  have hin := changeIf?_tabulate (fun n => g.inDegree n.id) (· + 1) (fun hknown => hknown)
    fun n hn => (inDegree_withEdge g e n.id).trans
      (if_congr ⟨fun h => ⟨h ▸ hmem hn, h⟩, And.right⟩ rfl rfl)
  have hsuccessors := changeIf?_tabulate (fun n => g.successors n.id) (· ++ [e.target]) And.left
    fun n _ => (successors_withEdge g e n.id).trans
      (if_congr (and_congr_left' resolves_iff) rfl rfl)
  have hpredecessors := changeIf?_tabulate (fun n => g.predecessors n.id) (· ++ [e.source])
    And.right fun n _ => (predecessors_withEdge g e n.id).trans
      (if_congr (and_congr_left' resolves_iff) rfl rfl)
  simp only [Tables.addEdge?, tables, ids_tabulate, hout, hin, hsuccessors, hpredecessors]
  rfl

theorem foldlM_addEdge? (g : Graph) (es : List Edge) :
    es.foldlM Tables.addEdge? g.tables = some (Graph.mk g.nodes (g.edges ++ es)).tables := by
  induction es generalizing g with
  | nil => simp
  | cons e es ih =>
    rw [List.foldlM_cons, addEdge?_tables]
    exact (ih (g.withEdge e)).trans (by simp [withEdge])

/-- No value is changed that is not there, and the tables are those of the graph. -/
theorem fill?_eq (w : Workflow) : Tables.fill? w = some (ofWorkflow w).tables := by
  rw [Tables.fill?, foldl_addNode]
  exact foldlM_addEdge? _ _

/-! ## Agreement of the tables -/

section

variable {g : Graph} {u v : String}

theorem length_filter_and_eq_iff {α : Type} {p q : α → Bool} {l : List α} :
    (l.filter p).length = (l.filter fun a => p a && q a).length ↔
      ∀ a ∈ l, p a = true → q a = true := by
  have hfilter : (l.filter fun a => p a && q a) = (l.filter p).filter q := by
    simp only [List.filter_filter, Bool.and_comm]
  rw [hfilter, eq_comm, List.length_filter_eq_length_iff]
  simp

theorem count_successors_eq_countP (hu : u ∈ g.ids) (hv : v ∈ g.ids) :
    (g.successors u).count v = g.edges.countP fun e => e.source = u ∧ e.target = v := by
  rw [successors, List.count_eq_countP, List.countP_map, List.countP_filter]
  refine List.countP_congr fun e _ => ?_
  simp only [Function.comp_apply, Bool.and_eq_true, beq_iff_eq, decide_eq_true_eq, resolves_iff]
  constructor
  · rintro ⟨ht, hs, -⟩
    exact ⟨hs, ht⟩
  · rintro ⟨rfl, rfl⟩
    exact ⟨rfl, rfl, hu, hv⟩

/-- The links from a node are as many as the edges just when all these edges are resolved. -/
theorem outDegree_eq_length_iff : g.outDegree u = (g.successors u).length ↔
    ∀ e ∈ g.edges, e.source = u → g.resolves e = true := by
  rw [outDegree, successors, List.length_map, length_filter_and_eq_iff]
  simp

theorem inDegree_eq_length_iff : g.inDegree u = (g.predecessors u).length ↔
    ∀ e ∈ g.edges, e.target = u → g.resolves e = true := by
  rw [inDegree, predecessors, List.length_map, length_filter_and_eq_iff]
  simp

end

/-- What the tables of a workflow have to do with it and with one another. -/
structure Tables.Consistent (t : Tables) (w : Workflow) : Prop where
  ids : ∀ l ∈ [t.kinds.ids, t.successors.ids, t.predecessors.ids, t.inDegree.ids, t.outDegree.ids],
    l = t.nodes.ids
  nodup : t.nodes.ids.Nodup
  mem_ids : ∀ id, id ∈ t.nodes.ids ↔ id ∈ w.nodes.map (·.id)
  /-- Ids come in the order in which they are met first. -/
  inOrder : t.nodes.ids.Pairwise fun u v =>
    (w.nodes.map (·.id)).idxOf u < (w.nodes.map (·.id)).idxOf v
  node : ∀ id, t.nodes.lookup id = w.nodes.find? (·.id = id)
  kind : ∀ id, t.kinds.lookup id = (w.nodes.find? (·.id = id)).map Node.kind
  /-- Between two nodes there are as many links as edges, seen from the one and from the other. -/
  count : ∀ u ∈ t.nodes.ids, ∀ v ∈ t.nodes.ids, ∃ next previous,
    t.successors.lookup u = some next ∧ t.predecessors.lookup v = some previous ∧
    next.count v = (w.edges.countP fun e => e.source = u ∧ e.target = v) ∧
    previous.count u = w.edges.countP fun e => e.source = u ∧ e.target = v
  outDegree : ∀ u ∈ t.nodes.ids, t.outDegree.lookup u = some (w.edges.countP (·.source = u))
  inDegree : ∀ v ∈ t.nodes.ids, t.inDegree.lookup v = some (w.edges.countP (·.target = v))
  /-- Degrees are numbers of links just when no edge has a single known end. -/
  degrees_iff : (∀ u ∈ t.nodes.ids,
      t.outDegree.lookup u = (t.successors.lookup u).map List.length ∧
      t.inDegree.lookup u = (t.predecessors.lookup u).map List.length) ↔
    ∀ e ∈ w.edges, e.source ∈ t.nodes.ids ∨ e.target ∈ t.nodes.ids →
      e.source ∈ t.nodes.ids ∧ e.target ∈ t.nodes.ids

/-- Degrees are numbers of links just when no edge has a single known end. -/
theorem degrees_eq_lengths_iff (g : Graph) :
    (∀ u ∈ g.ids, g.outDegree u = (g.successors u).length ∧
      g.inDegree u = (g.predecessors u).length) ↔
    ∀ e ∈ g.edges, e.source ∈ g.ids ∨ e.target ∈ g.ids → e.source ∈ g.ids ∧ e.target ∈ g.ids := by
  simp only [outDegree_eq_length_iff, inDegree_eq_length_iff, resolves_iff]
  constructor
  · rintro h e he (hs | ht)
    · exact (h _ hs).1 e he rfl
    · exact (h _ ht).2 e he rfl
  · rintro h u hu
    exact ⟨fun e he hs => h e he (.inl (hs ▸ hu)), fun e he ht => h e he (.inr (ht ▸ hu))⟩

/-- Both runs come to an end with the tables of the graph, and these agree. -/
theorem consistent_of_fill (w : Workflow) :
    Tables.fill? w = some (ofWorkflow w).tables ∧ (ofWorkflow w).tables.Consistent w := by
  have hids : (ofWorkflow w).tables.nodes.ids = (ofWorkflow w).ids := ids_tabulate _ _
  have hdistinct : (ofWorkflow w).ids = Text.distinct (w.nodes.map (·.id)) := ids_firstById w.nodes
  refine ⟨fill?_eq w, ?_⟩
  constructor
  case ids => simp [tables]
  case nodup => exact hids ▸ nodup_ids w
  case mem_ids =>
    intro id
    rw [hids, hdistinct, Text.mem_distinct]
  case inOrder =>
    rw [hids, hdistinct]
    exact Text.pairwise_idxOf_distinct _
  case node =>
    intro id
    exact (lookup_tabulate _ _ _).trans (by rw [Option.map_id', node?, ofWorkflow, find?_firstById])
  case kind =>
    intro id
    exact (lookup_tabulate _ _ _).trans (by rw [node?, ofWorkflow, find?_firstById])
  case count =>
    intro u hu v hv
    rw [hids] at hu hv
    refine ⟨_, _, lookup_tabulate_id _ hu, lookup_tabulate_id _ hv, ?_, ?_⟩
    · exact count_successors_eq_countP hu hv
    · rw [← count_successors]
      exact count_successors_eq_countP hu hv
  case outDegree =>
    intro u hu
    rw [hids] at hu
    rw [List.countP_eq_length_filter]
    exact lookup_tabulate_id _ hu
  case inDegree =>
    intro v hv
    rw [hids] at hv
    rw [List.countP_eq_length_filter]
    exact lookup_tabulate_id _ hv
  case degrees_iff =>
    rw [hids]
    refine Iff.trans (forall₂_congr fun u hu => ?_) (degrees_eq_lengths_iff (ofWorkflow w))
    simp only [tables, lookup_tabulate_id _ hu, Option.map_some, Option.some_inj]

example :
    let a : Node := { id := "a", type := "start", name := "" }
    let e : Edge := { id := "", source := "a", target := "b" }
    (Tables.fill? { nodes := [a, a], edges := [e, { e with target := "a" }] }).map
        (fun t => (t.outDegree, t.successors)) = some ([("a", 2)], [("a", ["a"])]) := by
  decide +kernel

end Graph

end WorkflowRelease
