import WorkflowRelease.Proofs.Governance.Report
import WorkflowRelease.Proofs.Structure.Sound

/-!
# No parameter is left dangling

Whether the parameters of a workflow resolve is looked at in three places. The structure only asks
that some set is bound where a parameter is mentioned, the review of parameters passes over a
workflow that binds no set and over version numbers, and the review of sets over parameters. Main
statement: `parameter_resolves_of_valid`, a workflow that all of them let pass mentions parameters
of bound sets only that may be used and have been published.
-/

namespace WorkflowRelease

open Structure

namespace Structure

variable {outputTypes : List String} {w : Workflow} {v : Verdict}

/-- A workflow that mentions a parameter binds some set. -/
theorem boundSets_ne_nil (h : validate outputTypes w .publish = .ok v) (hvalid : v.valid = true)
    {code : String} (hcode : w.Mentions code) : w.boundSets ≠ [] := by
  have hparameters : parameters w = [] := found_eq_nil_of_valid h hvalid .parameters
  intro hnone
  have hused : w.parameterCodes ≠ [] := List.ne_nil_of_mem (Workflow.mem_parameterCodes.2 hcode)
  rw [parameters, if_pos ⟨hused, hnone⟩] at hparameters
  cases hparameters

end Structure

namespace Review

theorem onlyErrors_artifacts {rule : Rule} {label : String} {gate : Option Gate}
    {r : Registry Int} {party : Party} {codes : List String} :
    OnlyErrors (artifacts rule label gate r party codes) := by
  unfold artifacts
  split <;> simp

theorem onlyErrors_parameters {catalog : Catalog Int} {party : Party} {refs : References} :
    OnlyErrors (parameters catalog party refs) := by
  unfold parameters
  split
  · simp
  · split <;> simp

end Review

namespace Governance

variable {ε : Type} {g : Governance} {directory : Directory ε} {w : Workflow} {party : Party}
  {current : Option String} {v : Verdict}

theorem publishIssues_subset
    (h : g.review directory w party current .publish = .ok v) :
    g.publishIssues w party w.references ⊆ v.issues := by
  obtain ⟨-, called, -, rfl⟩ := review_publish_eq_ok_iff.1 h
  exact List.subset_append_left _ _

/-- Bound sets may be used and have been published. -/
theorem resolves_of_valid (h : g.review directory w party current .publish = .ok v)
    (hvalid : v.valid = true) {code : String} (hcode : Lists w.paramSetBindings code) :
    g.catalog.parameterSets.Resolves g.gate party code := by
  have hsets : Review.sets g.catalog (some g.gate) party w.boundSets = [] := by
    refine v.eq_nil_of_valid hvalid (fun i hi => publishIssues_subset h ?_)
      Review.onlyErrors_artifacts
    unfold publishIssues
    simp only [List.mem_append]
    exact .inl (.inl (.inr hi))
  rw [Registry.resolves_iff]
  exact Review.artifacts_eq_nil_iff.1 hsets code (Workflow.mem_boundSets.2 hcode)

end Governance

/-- **No parameter is left dangling.** -/
theorem parameter_resolves_of_valid {ε : Type} (outputTypes : List String) (g : Governance)
    (directory : Directory ε) (w : Workflow) (party : Party) (current : Option String)
    (structural governance : Verdict)
    (hstructural : validate outputTypes w .publish = .ok structural)
    (hgovernance : g.review directory w party current .publish = .ok governance)
    (hvalid : structural.valid = true ∧ governance.valid = true) :
    ∀ code, w.Mentions code → ∃ i ∈ g.catalog.parameterItems, i.isActive = true ∧ i.code = code ∧
      Lists w.paramSetBindings i.setCode ∧
      g.catalog.parameterSets.Resolves g.gate party i.setCode := by
  intro code hcode
  -- the review says nothing of a workflow that binds no set, but the structure does
  have hbound := boundSets_ne_nil hstructural hvalid.1 hcode
  have hparameters : Review.parameters g.catalog party w.references = [] := by
    refine governance.eq_nil_of_valid hvalid.2
      (fun i hi => Governance.publishIssues_subset hgovernance ?_) Review.onlyErrors_parameters
    unfold Governance.publishIssues
    simp only [List.mem_append]
    exact .inl (.inr hi)
  have hset : ∃ code, Lists w.paramSetBindings code := by
    obtain ⟨bound, hmem⟩ := List.exists_mem_of_ne_nil _ hbound
    exact ⟨bound, Workflow.mem_boundSets.1 hmem⟩
  by_contra hdangling
  refine Review.parameters_ne_nil_iff.2 ⟨hset, code, hcode, ?_⟩ hparameters
  rintro ⟨i, hi, hactive, hi', hlists, -⟩
  exact hdangling ⟨i, hi, hactive, hi', hlists,
    Governance.resolves_of_valid hgovernance hvalid.2 hlists⟩

namespace Structure.Sketch

/-- A workflow that mentions a parameter and binds the set that it is of. -/
def capped : Workflow :=
  { workflow .linear
      [node "start" "manual-trigger",
        { node "data" "data-fetch" with config := [("cap", .text "\x7b\x7b params.cap \x7d\x7d")] },
        node "rule" "rule-eval", node "agent" "single-agent", node "gate" "risk-gate"]
      [edge "start" "data", edge "data" "rule", edge "rule" "agent", edge "agent" "gate"] with
    ownerUserId := some "owner"
    paramSetBindings := ["limits"]
    runPolicy := some { nodeDefaults := some {
      timeoutMs := some 1000, retryCount := some 1, retryBackoffMs := some 1,
      onError := some .failFast } } }

/-- The set is public, and it has been published. -/
def limits : Governance where
  catalog :=
    { parameterSets := .ofList [⟨"limits", 2, .user "guest", .isPublic, true⟩]
      parameterItems := [⟨"cap", "limits", true⟩] }

end Structure.Sketch

theorem parameter_resolves_of_capped :
    Sketch.capped.parameterCodes = ["cap"] ∧
    ∃ i ∈ Sketch.limits.catalog.parameterItems, i.isActive = true ∧ i.code = "cap" ∧
      Lists Sketch.capped.paramSetBindings i.setCode ∧
      Sketch.limits.catalog.parameterSets.Resolves Sketch.limits.gate (.user "owner")
        i.setCode := by
  have hcodes : Sketch.capped.parameterCodes = ["cap"] := by decide +kernel
  have hstructural :
      (validate outputTypes Sketch.capped .publish).toOption.any (·.valid) = true := by
    decide +kernel
  have hgovernance : (Sketch.limits.review Sample.directory Sketch.capped (.user "owner") none
      .publish).toOption.any (·.valid) = true := by
    decide +kernel
  obtain ⟨structural, hs, hsvalid⟩ := (Option.any_eq_true _ _).1 hstructural
  obtain ⟨governance, hg, hgvalid⟩ := (Option.any_eq_true _ _).1 hgovernance
  refine ⟨hcodes, ?_⟩
  exact parameter_resolves_of_valid outputTypes Sketch.limits Sample.directory Sketch.capped
    (.user "owner") none structural governance (eq_ok_of_toOption hs) (eq_ok_of_toOption hg)
    ⟨hsvalid, hgvalid⟩ "cap" (Workflow.mem_parameterCodes.1 (by simp [hcodes]))

end WorkflowRelease
