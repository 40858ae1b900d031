import WorkflowRelease.Proofs.Governance.Parameters
import WorkflowRelease.Proofs.Structure.Overflow

/-!
# The stricter gate

What is fit to be published is fit to be saved. The structure is checked by the same rules and some
more, so that its issues come first. A review for saving is not the beginning of one for
publishing: it looks at the agent profiles that are bound where the other looks at all that are
used, and it does not ask whether anything has been published. Main statements:
`Governance.codes_save_subset`, every rule that it reports is reported for publishing, and
`fit_to_save_of_publish`.
-/

namespace WorkflowRelease

open Structure

/-! ## Reviews -/

namespace Review

variable {rule : Rule} {label : String} {gate : Gate} {r : Registry Int} {party : Party}
  {codes codes' : List String}

theorem problem?_of_gated {code : String} (h : problem? (some gate) r party code = none) :
    problem? none r party code = none := by
  rw [problem?_eq_none_iff] at h ⊢
  obtain ⟨a, ha, -⟩ := h
  exact ⟨a, ha, nofun⟩

/-- Codes that are no problem with a gate are none without it, all or some of them. -/
theorem artifacts_of_gated (hsub : codes ⊆ codes')
    (h : artifacts rule label (some gate) r party codes' = []) :
    artifacts rule label none r party codes = [] := by
  rw [artifacts_eq_nil_iff] at h ⊢
  exact fun code hcode => problem?_of_gated (h code (hsub hcode))

theorem onlyErrors_owner {w : Workflow} : OnlyErrors (owner w party) := by
  unfold owner
  dsimp only
  split
  · simp
  · split <;> simp

theorem onlyErrors_rulePacks {catalog : Catalog Int} {refs : References} :
    OnlyErrors (rulePacks catalog gate party refs) :=
  onlyErrors_append.2 ⟨onlyErrors_map (by simp), onlyErrors_artifacts⟩

theorem onlyErrors_connectors {catalog : Catalog Int} {refs : References} :
    OnlyErrors (connectors catalog refs) := by
  unfold connectors
  split <;> simp

theorem onlyErrors_subflows {ε : Type} {directory : Directory ε} {current : Option String}
    {targets : List SubflowTarget} {issues : List Issue}
    (h : subflows directory party current targets = .ok issues) : OnlyErrors issues := by
  induction targets generalizing issues with
  | nil =>
    cases h
    simp
  | cons t ts ih =>
    rw [subflows] at h
    cases hfault : subflowFault? directory party current t with
    | error e => simp [hfault, bind, Except.bind] at h
    | ok fault =>
      cases hrest : subflows directory party current ts with
      | error e => simp [hfault, hrest, bind, Except.bind] at h
      | ok rest =>
        simp only [hfault, hrest, bind, Except.bind, Except.ok.injEq] at h
        subst h
        cases fault with
        | none => exact ih hrest
        | some what => simpa using ih hrest

end Review

/-- Bound profiles are used. -/
theorem Workflow.agentBindings_subset (w : Workflow) :
    w.references.agentBindings ⊆ w.references.agentCodes := by
  intro code hcode
  rw [mem_agentCodes]
  exact .inl (mem_cleanCodes.1 hcode)

namespace Governance

variable {ε : Type} {g : Governance} {directory : Directory ε} {w : Workflow} {party : Party}
  {current : Option String} {v : Verdict}

/-- All that a review finds are errors. -/
theorem onlyErrors_review {stage : Stage} (h : g.review directory w party current stage = .ok v) :
    OnlyErrors v.issues := by
  cases stage with
  | save =>
    rw [← Except.ok.inj h]
    simp only [saveIssues, Review.profiles, Review.sets, onlyErrors_append,
      Review.onlyErrors_artifacts, Review.onlyErrors_connectors, and_self]
  | publish =>
    obtain ⟨-, called, hcalled, rfl⟩ := review_publish_eq_ok_iff.1 h
    simp only [publishIssues, Review.profiles, Review.sets, onlyErrors_append,
      Review.onlyErrors_owner, Review.onlyErrors_rulePacks, Review.onlyErrors_artifacts,
      Review.onlyErrors_parameters, Review.onlyErrors_connectors,
      Review.onlyErrors_subflows hcalled, and_self]

/-- **Every rule** that a review for saving reports is reported for publishing. -/
theorem codes_save_subset (h : g.review directory w party current .publish = .ok v) :
    (Verdict.mk (g.saveIssues party w.references)).codes ⊆ v.codes := by
  have hpublish := List.map_subset Issue.code (publishIssues_subset h)
  refine fun code hcode => hpublish ?_
  simp only [publishIssues, Review.profiles, Review.sets, List.map_append, List.mem_append,
    Review.about_owner.mem_codes, Review.about_rulePacks.mem_codes,
    Review.about_artifacts.mem_codes, Review.about_parameters.mem_codes,
    Review.about_connectors.mem_codes]
  simp only [Verdict.codes, saveIssues, Review.profiles, Review.sets, List.map_append,
    List.mem_append, Review.about_artifacts.mem_codes, Review.about_connectors.mem_codes] at hcode
  rcases hcode with (⟨hcode, hprofiles⟩ | ⟨hcode, hsets⟩) | hconnectors
  · exact .inl (.inl (.inl (.inr ⟨hcode, fun hnil =>
      hprofiles (Review.artifacts_of_gated w.agentBindings_subset hnil)⟩)))
  · exact .inl (.inl (.inr ⟨hcode, fun hnil =>
      hsets (Review.artifacts_of_gated (List.Subset.refl _) hnil)⟩))
  · exact .inr hconnectors

theorem valid_save_of_publish (h : g.review directory w party current .publish = .ok v)
    (hvalid : v.valid = true) : (Verdict.mk (g.saveIssues party w.references)).valid = true := by
  have hnil : v.issues = [] :=
    v.eq_nil_of_valid hvalid (List.Subset.refl _) (onlyErrors_review h)
  have hcodes := codes_save_subset h
  rw [Verdict.codes, Verdict.codes, hnil, List.map_nil, List.subset_nil, List.map_eq_nil_iff]
    at hcodes
  rw [Verdict.valid, hcodes]
  rfl

end Governance

/-! ## Structures -/

namespace Structure

/-- What is found in a document that is to be saved comes first when it is to be published. -/
theorem prefix_of_validateDocument {outputTypes : List String} {document save publish : Json}
    {v : Verdict} (hsave : Stage.named? save = some .save)
    (hpublish : Stage.named? publish = some .publish)
    (h : validateDocument outputTypes document publish = .ok v) :
    ∃ saved, validateDocument outputTypes document save = .ok saved ∧
      saved.issues <+: v.issues := by
  unfold validateDocument at h ⊢
  rw [hsave]
  rw [hpublish] at h
  cases hread : Workflow.reader document with
  | faulty faults =>
    rw [hread] at h
    exact ⟨v, h, List.prefix_rfl⟩
  | valid w =>
    rw [hread] at h
    obtain ⟨further, -, hissues⟩ := issues_validate_publish h
    refine ⟨_, rfl, ?_⟩
    rw [hissues]
    exact List.prefix_append _ _

end Structure

/-- **What is fit to be published is fit to be saved.** For all workflows, output types, catalogs,
gates, directories, parties and current definitions: there always are verdicts for saving. If there
is one about the structure for publishing, which is so unless the experiment has a number beyond the
doubles, its issues begin with those for saving, and the same holds of any document. If there is one
of a review for publishing, it reports every rule that is reported for saving. Each of them that is
valid for publishing is valid for saving. -/
theorem fit_to_save_of_publish {ε : Type} (outputTypes : List String) (g : Governance)
    (directory : Directory ε) (w : Workflow) (document : Json) (party : Party)
    (current : Option String) :
    ∃ structural governance, validate outputTypes w .save = .ok structural ∧
      g.review directory w party current .save = .ok governance ∧
      ((∃ v, validate outputTypes w .publish = .ok v) ↔ ¬ w.Overflows) ∧
      (∀ v, validate outputTypes w .publish = .ok v →
        structural.issues <+: v.issues ∧ (v.valid = true → structural.valid = true)) ∧
      (∀ v, validateDocument outputTypes document (.text "PUBLISH") = .ok v →
        ∃ saved, validateDocument outputTypes document (.text "SAVE") = .ok saved ∧
          saved.issues <+: v.issues) ∧
      ∀ v, g.review directory w party current .publish = .ok v →
        governance.codes ⊆ v.codes ∧ (v.valid = true → governance.valid = true) := by
  have hsettles : Settles (validate outputTypes w .publish) ↔ ¬ w.Overflows := by
    rw [settles_validate]
    simp
  refine ⟨_, _, validate_save outputTypes w, g.review_save directory w party current, hsettles,
    fun v hv => ⟨?_, fun hvalid => ?_⟩, fun v hv => ?_, fun v hv => ⟨?_, fun hvalid => ?_⟩⟩
  · obtain ⟨further, -, hissues⟩ := issues_validate_publish hv
    rw [hissues]
    exact List.prefix_append _ _
  · rw [valid_save_iff w (validate_save outputTypes w)]
    exact saveIssues_eq_nil_of_valid w hv hvalid
  · exact prefix_of_validateDocument (by decide +kernel) (by decide +kernel) hv
  · exact Governance.codes_save_subset hv
  · exact Governance.valid_save_of_publish hv hvalid

/-- The workflow is fit to be saved under both gates, and to be published under the lower one. -/
theorem fit_to_save_of_capped :
    (∃ v saved, validate outputTypes Sketch.capped .publish = .ok v ∧ v.valid = true ∧
      validate outputTypes Sketch.capped .save = .ok saved ∧ saved.issues <+: v.issues ∧
      saved.valid = true) ∧
    (∃ v saved, Sketch.limits.review Sample.directory Sketch.capped (.user "owner") none .publish =
        .ok v ∧ v.valid = true ∧
      Sketch.limits.review Sample.directory Sketch.capped (.user "owner") none .save = .ok saved ∧
      saved.valid = true) ∧
    (({ Sketch.limits with gate := .least 3 } : Governance).review Sample.directory Sketch.capped
      (.user "owner") none .publish).toOption.any (!·.valid) = true := by
  have hstructural :
      (validate outputTypes Sketch.capped .publish).toOption.any (·.valid) = true := by
    decide +kernel
  have hgovernance : (Sketch.limits.review Sample.directory Sketch.capped (.user "owner") none
      .publish).toOption.any (·.valid) = true := by
    decide +kernel
  obtain ⟨v, hv, hvalid⟩ := (Option.any_eq_true _ _).1 hstructural
  obtain ⟨v', hv', hvalid'⟩ := (Option.any_eq_true _ _).1 hgovernance
  obtain ⟨structural, governance, hs, hg, -, hstructural, -, hgovernance⟩ :=
    fit_to_save_of_publish outputTypes Sketch.limits Sample.directory Sketch.capped .null
      (.user "owner") none
  obtain ⟨hfirst, hsaved⟩ := hstructural v (eq_ok_of_toOption hv)
  obtain ⟨-, hsaved'⟩ := hgovernance v' (eq_ok_of_toOption hv')
  exact ⟨⟨v, structural, eq_ok_of_toOption hv, hvalid, hs, hfirst, hsaved hvalid⟩,
    ⟨v', governance, eq_ok_of_toOption hv', hvalid', hg, hsaved' hvalid'⟩, by decide +kernel⟩

end WorkflowRelease
