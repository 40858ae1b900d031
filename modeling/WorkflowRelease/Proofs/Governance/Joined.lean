import Mathlib.Data.List.Sort
import WorkflowRelease.Proofs.Governance.Mentioned

/-!
# References of workflows put together

What a workflow refers to is said node by node, edge by edge and binding by binding (`RefersTo`), so
that a workflow put together from two others refers to what either of them does, and the order does
not matter. The code sets are strictly increasing lists, which are given by their members. Main
statements: `mem_codes`, `Joins.refersTo_iff` and `united_of_joined`.
-/

namespace WorkflowRelease

namespace Text

/-- A sorted set is given by its members. -/
theorem sorted_congr {l' l : List String} (h : ∀ t, t ∈ l' ↔ t ∈ l) : sorted l' = sorted l := by
  refine List.Pairwise.eq_of_mem_iff (pairwise_sorted l') (pairwise_sorted l) fun t => ?_
  rw [mem_sorted, mem_sorted, h]

/-- The list increases strictly and has the texts that either of two lists has. -/
def IsUnion (l xs ys : List String) : Prop :=
  l.Pairwise (· < ·) ∧ ∀ t, t ∈ l ↔ t ∈ xs ∨ t ∈ ys

end Text

/-! ## Code sets -/

/-- What a code is the code of. -/
inductive CodeKind where
  | rulePack
  | agent
  | parameter
  | dataConnector

/-- The set of codes of a kind. -/
def References.codes (r : References) : CodeKind → List String
  | .rulePack => r.rulePackCodes
  | .agent => r.agentCodes
  | .parameter => r.parameterCodes
  | .dataConnector => r.dataConnectorCodes

theorem Lists.mono {ss ts : List String} (h : ss ⊆ ts) {code : String} (hcode : Lists ss code) :
    Lists ts code := by
  obtain ⟨s, hs, hcode⟩ := hcode
  exact ⟨s, h hs, hcode⟩

theorem lists_append_iff {ss ts : List String} {code : String} :
    Lists (ss ++ ts) code ↔ Lists ss code ∨ Lists ts code := by
  simp only [Lists, List.mem_append, or_and_right, exists_or]

namespace Workflow

/-- The workflow refers to the code, in a node, in an edge or in a binding. -/
def RefersTo (w : Workflow) (code : String) : CodeKind → Prop
  | .rulePack => ∃ n ∈ w.nodes, n.EvaluatesPacks ∧ code ∈ n.packCodes
  | .agent => Lists w.agentBindings code ∨
      ∃ n ∈ w.nodes, n.type ∈ agentTypes ∧ n.configCode? "agentProfileCode" = some code
  | .parameter => w.Mentions code
  | .dataConnector => Lists w.dataConnectorBindings code

variable {u v w : Workflow} {code : String} {kind : CodeKind}

theorem mem_codes : code ∈ w.references.codes kind ↔ w.RefersTo code kind := by
  cases kind
  exacts [mem_rulePackCodes, mem_agentCodes, mem_parameterCodes, mem_dataConnectorCodes]

theorem pairwise_codes (w : Workflow) (kind : CodeKind) :
    (w.references.codes kind).Pairwise (· < ·) := by
  cases kind <;> exact Text.pairwise_sorted _

/-! ## More of a workflow -/

/-- All nodes, edges and bindings of a workflow are among those of another one. -/
structure Includes (u w : Workflow) : Prop where
  nodes : w.nodes ⊆ u.nodes
  edges : w.edges ⊆ u.edges
  agentBindings : w.agentBindings ⊆ u.agentBindings
  dataConnectorBindings : w.dataConnectorBindings ⊆ u.dataConnectorBindings

theorem Carries.mono (h : u.Includes w) {x : Json} (hx : w.Carries x) : u.Carries x := by
  obtain hn | ⟨hn, hb⟩ | ⟨he, hc⟩ := hx
  · exact .config (h.nodes hn)
  · exact .bindings (h.nodes hn) hb
  · exact .condition (h.edges he) hc

/-- What includes a workflow refers to all that it refers to. -/
theorem RefersTo.mono (h : u.Includes w) (hcode : w.RefersTo code kind) : u.RefersTo code kind := by
  cases kind with
  | rulePack =>
    obtain ⟨n, hn, hcode⟩ := hcode
    exact ⟨n, h.nodes hn, hcode⟩
  | agent =>
    obtain hlists | ⟨n, hn, hcode⟩ := hcode
    · exact .inl (hlists.mono h.agentBindings)
    · exact .inr ⟨n, h.nodes hn, hcode⟩
  | parameter =>
    obtain ⟨x, s, e, hx, hcode⟩ := hcode
    exact ⟨x, s, e, hx.mono h, hcode⟩
  | dataConnector => exact Lists.mono h.dataConnectorBindings hcode

/-- The same codes are referred to where nodes, edges and bindings are the same. -/
theorem codes_eq_of_includes (h : u.Includes w) (h' : w.Includes u) (kind : CodeKind) :
    u.references.codes kind = w.references.codes kind := by
  refine List.Pairwise.eq_of_mem_iff (pairwise_codes u kind) (pairwise_codes w kind) fun code => ?_
  rw [mem_codes, mem_codes]
  exact ⟨RefersTo.mono h', RefersTo.mono h⟩

/-! ## Workflows put together -/

/-- The nodes, the edges and the bindings of a workflow are those of a first one, followed by those
of a second one. -/
structure Joins (u v w : Workflow) : Prop where
  nodes : u.nodes = v.nodes ++ w.nodes
  edges : u.edges = v.edges ++ w.edges
  agentBindings : u.agentBindings = v.agentBindings ++ w.agentBindings
  paramSetBindings : u.paramSetBindings = v.paramSetBindings ++ w.paramSetBindings
  dataConnectorBindings :
    u.dataConnectorBindings = v.dataConnectorBindings ++ w.dataConnectorBindings

/-- The nodes, the edges and the bindings of a workflow are those of another one in some order. -/
structure Shuffles (u w : Workflow) : Prop where
  nodes : u.nodes.Perm w.nodes
  edges : u.edges.Perm w.edges
  agentBindings : u.agentBindings.Perm w.agentBindings
  paramSetBindings : u.paramSetBindings.Perm w.paramSetBindings
  dataConnectorBindings : u.dataConnectorBindings.Perm w.dataConnectorBindings

/-- Nodes are added to a workflow, anywhere among those it has. -/
structure AddsNodes (u w : Workflow) : Prop where
  nodes : w.nodes.Sublist u.nodes
  rest : u = { w with nodes := u.nodes }

namespace Joins

variable (h : u.Joins v w)

include h

theorem includes_left : u.Includes v where
  nodes := h.nodes ▸ List.subset_append_left _ _
  edges := h.edges ▸ List.subset_append_left _ _
  agentBindings := h.agentBindings ▸ List.subset_append_left _ _
  dataConnectorBindings := h.dataConnectorBindings ▸ List.subset_append_left _ _

theorem includes_right : u.Includes w where
  nodes := h.nodes ▸ List.subset_append_right _ _
  edges := h.edges ▸ List.subset_append_right _ _
  agentBindings := h.agentBindings ▸ List.subset_append_right _ _
  dataConnectorBindings := h.dataConnectorBindings ▸ List.subset_append_right _ _

theorem carries_iff {x : Json} : u.Carries x ↔ v.Carries x ∨ w.Carries x := by
  constructor
  · rintro (hn | ⟨hn, hb⟩ | ⟨he, hc⟩)
    · rw [h.nodes] at hn
      exact (List.mem_append.1 hn).imp .config .config
    · rw [h.nodes] at hn
      exact (List.mem_append.1 hn).imp (.bindings · hb) (.bindings · hb)
    · rw [h.edges] at he
      exact (List.mem_append.1 he).imp (.condition · hc) (.condition · hc)
  · rintro (hx | hx)
    · exact hx.mono h.includes_left
    · exact hx.mono h.includes_right

/-- **What is put together** refers to what either of its parts refers to. -/
theorem refersTo_iff : u.RefersTo code kind ↔ v.RefersTo code kind ∨ w.RefersTo code kind := by
  cases kind with
  | rulePack => simp only [RefersTo, h.nodes, List.mem_append, or_and_right, exists_or]
  | agent =>
    simp only [RefersTo, h.nodes, h.agentBindings, lists_append_iff, List.mem_append,
      or_and_right, exists_or]
    exact or_or_or_comm
  | parameter => simp only [RefersTo, Mentions, h.carries_iff, or_and_right, exists_or]
  | dataConnector => simp only [RefersTo, h.dataConnectorBindings, lists_append_iff]

end Joins

theorem Shuffles.includes (h : u.Shuffles w) : u.Includes w :=
  ⟨h.nodes.symm.subset, h.edges.symm.subset, h.agentBindings.symm.subset,
    h.dataConnectorBindings.symm.subset⟩

theorem Shuffles.symm (h : u.Shuffles w) : w.Shuffles u :=
  ⟨h.nodes.symm, h.edges.symm, h.agentBindings.symm, h.paramSetBindings.symm,
    h.dataConnectorBindings.symm⟩

/-- **The order** does not matter for the sets of codes. -/
theorem Shuffles.codes_eq (h : u.Shuffles w) (kind : CodeKind) :
    u.references.codes kind = w.references.codes kind :=
  codes_eq_of_includes h.includes h.symm.includes kind

theorem AddsNodes.includes (h : u.AddsNodes w) : u.Includes w where
  nodes := h.nodes.subset
  edges := by rw [h.rest]; exact List.Subset.refl _
  agentBindings := by rw [h.rest]; exact List.Subset.refl _
  dataConnectorBindings := by rw [h.rest]; exact List.Subset.refl _

end Workflow

/-- **References are united** when workflows are put together. The sets of codes of the whole are
the sorted unions of those of the parts, and its calls and nodes without a pack are those of the
parts, one after the other. So the sets of codes do not depend on the order of nodes, edges and
bindings, and where nodes are added nothing that was referred to is lost. -/
theorem united_of_joined :
    (∀ u v w : Workflow, u.Joins v w →
      (∀ kind, Text.IsUnion (u.references.codes kind) (v.references.codes kind)
        (w.references.codes kind)) ∧
      u.references.subflows = v.references.subflows ++ w.references.subflows ∧
      u.references.missingPacks = v.references.missingPacks ++ w.references.missingPacks) ∧
    (∀ u w : Workflow, u.Shuffles w →
      ∀ kind, u.references.codes kind = w.references.codes kind) ∧
    (∀ u w : Workflow, u.AddsNodes w →
      (∀ kind, w.references.codes kind ⊆ u.references.codes kind) ∧
      w.references.subflows.Sublist u.references.subflows ∧
      w.references.missingPacks.Sublist u.references.missingPacks) := by
  refine ⟨fun u v w h => ⟨fun kind => ⟨u.pairwise_codes kind, fun code => ?_⟩, ?_, ?_⟩,
    fun u w h => h.codes_eq, fun u w h => ⟨fun kind code hcode => ?_, ?_, ?_⟩⟩
  · rw [Workflow.mem_codes, Workflow.mem_codes, Workflow.mem_codes, h.refersTo_iff]
  · simp only [Workflow.references, h.nodes, List.filterMap_append]
  · simp only [Workflow.references, h.nodes, List.filterMap_append]
  · rw [Workflow.mem_codes] at hcode ⊢
    exact hcode.mono h.includes
  · exact h.nodes.filterMap _
  · exact h.nodes.filterMap _

namespace Workflow.Sketch

/-- A workflow that names packs, one of them twice, and calls another workflow. It mentions a
parameter. -/
def calling : Workflow where
  nodes := [
    { id := "rule", type := "rule-pack-eval", name := "rule",
      config := [("rulePackCode", .text "B"), ("rulePackCodes", .texts [" A ", "B"])] },
    { id := "call", type := "subflow-call", name := "call",
      config := [("workflowDefinitionId", .text "wfd_a")],
      inputBindings := some [("limit", .text "\x7b\x7b params.cap \x7d\x7d")] }]
  agentBindings := ["scout"]

/-- A workflow with a node that lacks a pack. It uses a pack and an agent of the other one. -/
def watching : Workflow where
  nodes := [
    { id := "watch", type := "alert-check", name := "watch" },
    { id := "rule", type := "rule-pack-eval", name := "again",
      config := [("rulePackCode", .text "A")] },
    { id := "agent", type := "single-agent", name := "agent",
      config := [("agentProfileCode", .text "scout")] }]

/-- Both of them in one. -/
def both : Workflow := { calling with nodes := calling.nodes ++ watching.nodes }

end Workflow.Sketch

open Workflow.Sketch in
theorem united_of_joined_both :
    both.Joins calling watching ∧ both.references.codes .rulePack = ["A", "B"] ∧
      Text.IsUnion ["A", "B"] (calling.references.codes .rulePack)
        (watching.references.codes .rulePack) ∧
      both.references.subflows = [⟨"call", "call", some "wfd_a", none⟩] ++ [] ∧
      both.references.missingPacks = [] ++ [⟨"watch", "watch"⟩] ∧
      { both with nodes := both.nodes.reverse }.references.codes .agent = ["scout"] ∧
      "cap" ∈ both.references.codes .parameter := by
  have hjoins : both.Joins calling watching := ⟨rfl, rfl, rfl, rfl, rfl⟩
  have hreverse : { both with nodes := both.nodes.reverse }.Shuffles both :=
    ⟨List.reverse_perm _, .refl _, .refl _, .refl _, .refl _⟩
  have hadds : both.AddsNodes calling := ⟨List.sublist_append_left _ _, rfl⟩
  have hpacks : both.references.codes .rulePack = ["A", "B"] := by decide +kernel
  have hagents : both.references.codes .agent = ["scout"] := by decide +kernel
  have hcap : "cap" ∈ calling.references.codes .parameter := by decide +kernel
  obtain ⟨hunited, hshuffled, hkept⟩ := united_of_joined
  obtain ⟨hunion, hsubflows, hmissing⟩ := hunited _ _ _ hjoins
  exact ⟨hjoins, hpacks, hpacks ▸ hunion .rulePack, hsubflows, hmissing,
    (hshuffled _ _ hreverse .agent).trans hagents, (hkept _ _ hadds).1 .parameter hcap⟩

end WorkflowRelease
