import WorkflowRelease.Proofs.Governance.Mentioned
import WorkflowRelease.Proofs.Graph.Reachable
import WorkflowRelease.Proofs.Structure.Sound

/-!
# Debates

A debate has a builder of the context, rounds and a judge, and every round leads to a judge. The
rule searches the graph from each round, and what the search finds is what edges lead to. Of nodes
with the same id only the first one is in the graph, and so only that one counts. Main statement:
`reached_in_debate`; `shadowed_reported` is a debate in which a part that there is does not count.
-/

namespace WorkflowRelease

open Structure.Sketch

namespace Workflow

variable {w : Workflow} {n : Node}

/-- The node counts: it is the first one with its id. -/
def Counts (w : Workflow) (n : Node) : Prop := w.nodes.find? (·.id = n.id) = some n

theorem mem_nodes_ofWorkflow : n ∈ (Graph.ofWorkflow w).nodes ↔ w.Counts n := mem_firstById_iff

/-- Where no id comes twice, all nodes count. -/
theorem counts_iff_of_nodup (h : (w.nodes.map (·.id)).Nodup) : w.Counts n ↔ n ∈ w.nodes := by
  rw [← mem_nodes_ofWorkflow, Graph.ofWorkflow, Structure.firstById_of_nodup h]

end Workflow

theorem Node.kind_eq_debateRound_iff {n : Node} :
    n.kind = .debateRound ↔ n.type = "debate-round" := by
  constructor
  · intro h
    unfold kind at h
    -- four types are asked for before it, and seven after it, and none of them gives a round
    iterate 4 rw [ite_eq_iff_of_ne (by nofun)] at h; replace h := h.2
    by_cases ht : n.type = "debate-round"
    · exact ht
    · rw [if_neg ht] at h
      iterate 7 rw [ite_eq_iff_of_ne (by nofun)] at h; replace h := h.2
      cases h
  · intro ht
    rw [kind, ht]
    rfl

namespace Structure

variable {w : Workflow} {g : Graph}

theorem reachesAny_iff (hn : g.ids.Nodup) {id : String} {targets : List Node} :
    reachesAny g id targets = true ↔ ∃ m ∈ targets, Relation.TransGen g.Links id m.id := by
  simp only [reachesAny, List.any_eq_true, Graph.mem_reachable hn, decide_eq_true_eq]
  constructor
  · rintro ⟨_, hreach, m, hm, rfl⟩
    exact ⟨m, hm, hreach⟩
  · rintro ⟨m, hm, hreach⟩
    exact ⟨m.id, hreach, m, hm, rfl⟩

theorem mem_judges {m : Node} :
    m ∈ g.ofTypes ["judge-agent"] ↔ m ∈ g.nodes ∧ m.type = "judge-agent" := by
  simp [Graph.ofTypes]

/-- The rule on debates finds nothing iff no part is missing and every round can reach a judge. -/
theorem debateRoles_eq_nil_iff (hn : g.ids.Nodup) (hmode : w.mode = some .debate) :
    debateRoles w g = [] ↔ (∀ t ∈ debateTypes, ∃ n ∈ g.nodes, n.type = t) ∧
      ∀ n ∈ g.nodes, n.type = "debate-round" →
        ∃ m ∈ g.nodes, m.type = "judge-agent" ∧ Relation.TransGen g.Links n.id m.id := by
  have hmissing : debateTypes.filter (fun t => !g.nodes.any (·.type = t)) = [] ↔
      ∀ t ∈ debateTypes, ∃ n ∈ g.nodes, n.type = t := by
    simp [List.filter_eq_nil_iff]
  rw [debateRoles, if_pos hmode, List.append_eq_nil_iff, ← hmissing]
  refine (and_congr (by split <;> simp_all) Iff.rfl).trans (and_congr_right fun hparts => ?_)
  -- as there is a judge, the rounds are looked at
  obtain ⟨judge, hjudge, htype⟩ := hmissing.1 hparts "judge-agent" (by decide)
  have hsome : (g.ofTypes ["judge-agent"]).isEmpty = false :=
    List.isEmpty_eq_false_iff_exists_mem.2 ⟨judge, mem_judges.2 ⟨hjudge, htype⟩⟩
  rw [hsome, if_neg Bool.false_ne_true, List.filterMap_eq_nil_iff]
  refine forall₂_congr fun n _ => ?_
  rw [ite_eq_right_iff, Node.kind_eq_debateRound_iff, Bool.not_eq_true', ← Bool.not_eq_true,
    reachesAny_iff hn]
  simp [mem_judges, and_assoc]

end Structure

/-- **What is reached, and debates.** For every workflow the search from a node finds once each what
a walk of one or more edges between nodes leads to. In a debate the rule on its parts finds nothing
iff there are all of them among the nodes that count, and from every round such a walk leads to a
judge. If no id comes twice, all nodes count. -/
theorem reached_in_debate (w : Workflow) :
    (∀ start, ((Graph.ofWorkflow w).reachable start).Nodup ∧
      ∀ id, id ∈ (Graph.ofWorkflow w).reachable start ↔
        Relation.TransGen w.Connects start id) ∧
    ((w.nodes.map (·.id)).Nodup → ∀ n, w.Counts n ↔ n ∈ w.nodes) ∧
    ∀ outputTypes stage verdict, w.mode = some .debate →
      Structure.validate outputTypes w stage = .ok verdict →
        ("WF101" ∉ verdict.codes ↔
          (∀ type ∈ ["context-builder", "debate-round", "judge-agent"],
            ∃ n, w.Counts n ∧ n.type = type) ∧
          ∀ n, w.Counts n → n.type = "debate-round" →
            ∃ m, w.Counts m ∧ m.type = "judge-agent" ∧
              Relation.TransGen w.Connects n.id m.id) := by
  have hids := Graph.nodup_ids w
  refine ⟨fun start => ⟨Graph.nodup_reachable hids start, fun id => ?_⟩,
    fun h n => Workflow.counts_iff_of_nodup h, ?_⟩
  · rw [Graph.mem_reachable hids, w.links_ofWorkflow]
  · intro outputTypes stage verdict hmode h
    have hcodes : "WF101" ∈ verdict.codes ↔ Structure.debateRoles w (Graph.ofWorkflow w) ≠ [] :=
      Structure.mem_codes_validate h .debateRoles (by decide)
    rw [hcodes, ne_eq, not_not, Structure.debateRoles_eq_nil_iff hids hmode, w.links_ofWorkflow]
    simp only [Workflow.mem_nodes_ofWorkflow]
    rfl

/-- Two rounds that lead to each other, and a judge behind the second one. -/
def disputed : Workflow :=
  workflow .debate [node "t" "manual-trigger", node "c" "context-builder",
      node "r" "debate-round", node "s" "debate-round", node "j" "judge-agent"]
    [edge "t" "c", edge "c" "r", edge "r" "s", edge "s" "r", edge "s" "j"]

theorem disputed_connects :
    disputed.Connects "r" "s" ∧ disputed.Connects "s" "r" ∧ disputed.Connects "s" "j" := by
  unfold Workflow.Connects
  decide +kernel

theorem reached_in_debate_disputed :
    disputed.mode = some .debate ∧ "r" ∈ (Graph.ofWorkflow disputed).reachable "r" ∧
      ∃ verdict, Structure.validate outputTypes disputed .save = .ok verdict ∧
        "WF101" ∉ verdict.codes := by
  obtain ⟨hreach, hcount, hreported⟩ := reached_in_debate disputed
  obtain ⟨hrs, hsr, hsj⟩ := disputed_connects
  have hverdict := Structure.validate_save outputTypes disputed
  have hcount := hcount (by decide +kernel)
  refine ⟨rfl, ((hreach "r").2 "r").2 (.head hrs (.single hsr)), _, hverdict,
    (hreported _ _ _ rfl hverdict).2 ?_⟩
  simp only [hcount]
  refine ⟨by decide +kernel, fun n hn htype =>
    ⟨node "j" "judge-agent", by decide +kernel, rfl, ?_⟩⟩
  have hround : n.id = "r" ∨ n.id = "s" := by
    revert n
    decide +kernel
  rcases hround with hid | hid <;> rw [hid]
  · exact .head hrs (.single hsj)
  · exact .single hsj

/-- A trigger, a builder of the context with the same id, and a round that leads to a judge. -/
def shadowed : Workflow :=
  workflow .debate [node "t" "manual-trigger", node "t" "context-builder",
      node "r" "debate-round", node "j" "judge-agent"]
    [edge "t" "r", edge "r" "j"]

/-- All parts of a debate may be there, and its round may lead to its judge, and still a part is
reported missing: another node has its id and comes first. -/
theorem shadowed_reported :
    shadowed.mode = some .debate ∧
      (∀ type ∈ ["context-builder", "debate-round", "judge-agent"],
        ∃ n ∈ shadowed.nodes, n.type = type) ∧
      (∀ n ∈ shadowed.nodes, n.type = "debate-round" →
        ∃ m ∈ shadowed.nodes, m.type = "judge-agent" ∧
          Relation.TransGen shadowed.Connects n.id m.id) ∧
      ∃ verdict, Structure.validate outputTypes shadowed .save = .ok verdict ∧
        "WF101" ∈ verdict.codes := by
  have hverdict := Structure.validate_save outputTypes shadowed
  refine ⟨rfl, by decide +kernel, fun n hn htype => ?_, _, hverdict, ?_⟩
  · have hround : n.id = "r" := by
      revert n
      decide +kernel
    have hconnects : shadowed.Connects "r" "j" := by
      unfold Workflow.Connects
      decide +kernel
    exact ⟨node "j" "judge-agent", by decide +kernel, rfl, hround ▸ .single hconnects⟩
  · refine (Structure.mem_codes_validate hverdict .debateRoles (by decide)).2 fun h => ?_
    have hparts := ((Structure.debateRoles_eq_nil_iff (Graph.nodup_ids shadowed) rfl).1 h).1
    revert hparts
    decide +kernel

end WorkflowRelease
