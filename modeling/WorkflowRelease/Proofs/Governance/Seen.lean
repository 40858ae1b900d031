import Mathlib.Data.List.Basic
import WorkflowRelease.Proofs.Governance.Report
import WorkflowRelease.Proofs.Snapshot.Fields

/-!
# What a party sees of a catalog file

A review is to depend on no row of a catalog file that the party may not see. But rows are put
together by code before anybody asks who may see them: the last row of a code counts, and a set has
the parameters of all rows of its code. So a row of somebody else hides the party's own row that
comes before it (`Hides`), and lends parameters to a set of the party (`Lends`). Main statements:
`Catalog.Rows.agree_seenBy`, unless one of both happens, the same is found in the file as in the
part of it that the party sees, and `Catalog.Rows.not_crossed_of_unshared`, neither happens as long
as no code is shared with somebody else.
-/

namespace WorkflowRelease

/-! ## Files -/

/-- The rows of a catalog file. -/
structure Catalog.Rows where
  rulePacks : List (Artifact Int) := []
  agentProfiles : List (Artifact Int) := []
  parameterSets : List ParameterSet := []
  dataConnectors : List DataConnector := []
deriving DecidableEq

/-- The row lists a parameter under a code, and is active. -/
def ParameterSet.Gives (s : ParameterSet) (code item : String) : Prop :=
  s.artifact.code = code ∧ s.artifact.isActive = true ∧ item ∈ s.items

namespace Catalog.Rows

/-- The catalog of the rows. -/
def catalog (r : Rows) : Catalog Int :=
  .ofRows r.rulePacks r.agentProfiles r.parameterSets r.dataConnectors

/-- The rows that the party may see. Connectors are there for everybody. -/
def seenBy (r : Rows) (party : Party) : Rows :=
  { r with
    rulePacks := r.rulePacks.filter (·.visibleTo party)
    agentProfiles := r.agentProfiles.filter (·.visibleTo party)
    parameterSets := r.parameterSets.filter (·.artifact.visibleTo party) }

theorem mem_findParameters {r : Rows} {wanted bound : List String} {item : String} :
    item ∈ findParameters r.catalog.parameterItems wanted bound ↔
      item ∈ wanted ∧ ∃ s ∈ r.parameterSets, ∃ code ∈ bound, s.Gives code item := by
  rw [WorkflowRelease.mem_findParameters]
  refine and_congr_right fun _ => ?_
  simp only [catalog, ofRows, List.mem_flatMap, ParameterSet.parameters, List.mem_map,
    ParameterSet.Gives]
  constructor
  · rintro ⟨_, ⟨s, hs, _, hitem, rfl⟩, hactive, hbound, rfl⟩
    exact ⟨s, hs, _, hbound, rfl, hactive, hitem⟩
  · rintro ⟨s, hs, _, hbound, rfl, hactive, hitem⟩
    exact ⟨_, ⟨s, hs, item, hitem, rfl⟩, hactive, hbound, rfl⟩

end Catalog.Rows

/-! ## Rows of others -/

/-- The last row of a code is not for the party to see, and of those that are, the last one is
active. -/
inductive Hides (rows : List (Artifact Int)) (party : Party) (code : String) : Prop
  | intro {own other : Artifact Int} (last : (Registry.ofList rows).find? code = some other)
      (foreign : other.visibleTo party = false)
      (seen : (Registry.ofList (rows.filter (·.visibleTo party))).find? code = some own)
      (active : own.isActive = true)

/-- A set that the party may use has a parameter, but no row has it that the party may see. -/
structure Lends (sets : List ParameterSet) (party : Party) (code item : String) : Prop where
  usable : (Registry.ofList (sets.map (·.artifact))).Offers party code
  given : ∃ s ∈ sets, s.Gives code item
  foreign : ∀ s ∈ sets, s.Gives code item → s.artifact.visibleTo party = false

/-- A row that the party may not see hides or lends something that a workflow may refer to. -/
inductive Catalog.Rows.Crossed (r : Rows) (party : Party) : Prop
  | pack {text code : String} (named : code? text = some code)
      (hides : Hides r.rulePacks party code)
  | profile {text code : String} (named : code? text = some code)
      (hides : Hides r.agentProfiles party code)
  | set {text code : String} (named : code? text = some code)
      (hides : Hides (r.parameterSets.map (·.artifact)) party code)
  | item {text code mention : String} {e : Expression} (named : code? text = some code)
      (mentioned : e ∈ Expression.scan mention) (scope : e.scope = Expression.paramsScope)
      (given : e.head ≠ "") (lends : Lends r.parameterSets party code e.head)

namespace Registry

variable {rows : List (Artifact Int)} {party : Party} {code : String} {a : Artifact Int}

/-- The last row of a code is the last one that the party may see, if they may see it. -/
theorem find?_seen (h : (ofList rows).find? code = some a) (hv : a.visibleTo party = true) :
    (ofList (rows.filter (·.visibleTo party))).find? code = some a := by
  unfold find? ofList at h ⊢
  obtain ⟨hcode, front, back, hrows, hfront⟩ := List.find?_eq_some_iff_append.1 h
  rw [← List.filter_reverse, List.find?_filter, List.find?_eq_some_iff_append]
  refine ⟨decide_eq_true ⟨hv, hcode⟩, front, back, hrows, fun b hb => ?_⟩
  have hother := hfront b hb
  simp only [Bool.not_eq_true', decide_eq_false_iff_not] at hother ⊢
  exact fun h => hother (of_decide_eq_true h.2)

theorem visibleTo_of_usableBy (h : a.usableBy party = true) : a.visibleTo party = true := by
  rw [Artifact.usableBy, Bool.and_eq_true] at h
  exact h.2

/-- What is usable is usable by the rows that the party may see alone. -/
theorem usable?_seen (h : (ofList rows).usable? party code = some a) :
    (ofList (rows.filter (·.visibleTo party))).usable? party code = some a := by
  rw [usable?_eq_some_iff] at h ⊢
  exact ⟨find?_seen h.1 (visibleTo_of_usableBy h.2), h.2⟩

/-- The last row that the party may see is one of the rows. -/
theorem mem_of_find?_seen (h : (ofList (rows.filter (·.visibleTo party))).find? code = some a) :
    a ∈ rows ∧ a.visibleTo party = true ∧ a.code = code := by
  have hmem := List.mem_of_find?_eq_some h
  rw [ofList, List.mem_reverse, List.mem_filter] at hmem
  exact ⟨hmem.1, hmem.2, code_of_find? h⟩

/-- Unless something is hidden, the rows that the party may not see make no difference. -/
theorem usable?_eq_of_not_hides (h : ¬ Hides rows party code) :
    (ofList rows).usable? party code =
      (ofList (rows.filter (·.visibleTo party))).usable? party code := by
  cases hu : (ofList rows).usable? party code with
  | some a => exact (usable?_seen hu).symm
  | none =>
    cases hs : (ofList (rows.filter (·.visibleTo party))).usable? party code with
    | none => rfl
    | some own =>
      obtain ⟨hseen, husable⟩ := usable?_eq_some_iff.1 hs
      obtain ⟨hmem, -, hcode⟩ := mem_of_find?_seen hseen
      obtain ⟨other, hlast⟩ : ∃ other, (ofList rows).find? code = some other := by
        rw [← Option.isSome_iff_exists, find?, List.find?_isSome]
        exact ⟨own, List.mem_reverse.2 hmem, decide_eq_true hcode⟩
      exfalso
      cases hv : other.visibleTo party with
      | true =>
        rw [find?_seen hlast hv, Option.some.injEq] at hseen
        subst hseen
        rw [usable?_eq_some_iff.2 ⟨hlast, husable⟩] at hu
        cases hu
      | false =>
        have hactive : own.isActive = true := (Bool.and_eq_true _ _ ▸ husable).1
        exact h ⟨hlast, hv, hseen, hactive⟩

end Registry

namespace Hides

variable {rows : List (Artifact Int)} {party : Party} {code : String}

/-- What is hidden cannot be used. -/
theorem usable?_eq_none (h : Hides rows party code) :
    (Registry.ofList rows).usable? party code = none := by
  obtain ⟨last, foreign, -, -⟩ := h
  simp [Registry.usable?, last, Artifact.usableBy, foreign]

/-- What is hidden could be used if it were not for the rows of others. -/
theorem exists_usable? (h : Hides rows party code) : ∃ own,
    (Registry.ofList (rows.filter (·.visibleTo party))).usable? party code = some own := by
  obtain ⟨-, -, seen, active⟩ := h
  obtain ⟨-, hv, -⟩ := Registry.mem_of_find?_seen seen
  exact ⟨_, Registry.usable?_eq_some_iff.2 ⟨seen, by simp [Artifact.usableBy, active, hv]⟩⟩

end Hides

/-! ## Reviews that come to the same -/

namespace Review

variable {r r' : Registry Int} {party : Party} {codes : List String}

theorem artifacts_congr (rule : Rule) (label : String) (gate : Option Gate)
    (h : ∀ code ∈ codes, r.usable? party code = r'.usable? party code) :
    artifacts rule label gate r party codes = artifacts rule label gate r' party codes := by
  have hproblem : codes.filterMap (problem? gate r party) =
      codes.filterMap (problem? gate r' party) := by
    refine List.filterMap_congr fun code hcode => ?_
    rw [problem?, problem?, h code hcode]
  rw [artifacts, artifacts, hproblem]

end Review

theorem Registry.findUsable_congr {r r' : Registry Int} {party : Party} {codes : List String}
    (h : ∀ code ∈ codes, r.usable? party code = r'.usable? party code) :
    r.findUsable codes party = r'.findUsable codes party :=
  List.filterMap_congr fun code hcode => h code (Text.mem_distinct.1 hcode)

/-- Two catalogs in which the same is found of what a workflow refers to. -/
structure Catalog.Agree (catalog catalog' : Catalog Int) (party : Party) (refs : References) :
    Prop where
  rulePacks : ∀ code ∈ refs.rulePackCodes,
    catalog.rulePacks.usable? party code = catalog'.rulePacks.usable? party code
  agentProfiles : ∀ code ∈ refs.agentCodes ++ refs.agentBindings,
    catalog.agentProfiles.usable? party code = catalog'.agentProfiles.usable? party code
  parameterSets : ∀ code ∈ refs.paramSetBindings,
    catalog.parameterSets.usable? party code = catalog'.parameterSets.usable? party code
  parameters : Review.unresolved catalog party refs = Review.unresolved catalog' party refs
  dataConnectors : catalog.dataConnectors = catalog'.dataConnectors

theorem any_congr_of_mem {α : Type} {l : List α} {p q : α → Bool} (h : ∀ a ∈ l, p a = q a) :
    l.any p = l.any q := by
  rw [Bool.eq_iff_iff, List.any_eq_true, List.any_eq_true]
  exact exists_congr fun a => and_congr_right fun ha => by rw [h a ha]

namespace Catalog.Agree

variable {catalog catalog' : Catalog Int} {party : Party} {w : Workflow}
  (h : catalog.Agree catalog' party w.references)

include h

theorem saveIssues_eq (gate : Gate) : (Governance.mk catalog gate).saveIssues party w.references =
    (Governance.mk catalog' gate).saveIssues party w.references := by
  have hprofiles := Review.artifacts_congr .agentProfiles "Agent profile" none
    fun code hcode => h.agentProfiles code (List.mem_append_right _ hcode)
  have hsets := Review.artifacts_congr .parameterSets "Parameter set" none h.parameterSets
  simp only [Governance.saveIssues, Review.profiles, Review.sets, hprofiles, hsets,
    Review.connectors, h.dataConnectors]

theorem publishIssues_eq (gate : Gate) :
    (Governance.mk catalog gate).publishIssues w party w.references =
      (Governance.mk catalog' gate).publishIssues w party w.references := by
  have hpacks := Review.artifacts_congr .rulePacks "Rule pack" (some gate) h.rulePacks
  have hprofiles := Review.artifacts_congr .agentProfiles "Agent profile" (some gate)
    fun code hcode => h.agentProfiles code (List.mem_append_left _ hcode)
  have hsets := Review.artifacts_congr .parameterSets "Parameter set" (some gate)
    h.parameterSets
  simp only [Governance.publishIssues, Review.rulePacks, Review.profiles, Review.sets, hpacks,
    hprofiles, hsets, Review.parameters, h.parameters, Review.connectors, h.dataConnectors]

theorem unordered?_eq (gate : Gate) : (Governance.mk catalog gate).unordered? party w.references =
    (Governance.mk catalog' gate).unordered? party w.references := by
  have hasked : (Governance.mk catalog gate).isGateAsked party w.references =
      (Governance.mk catalog' gate).isGateAsked party w.references := by
    rw [Governance.isGateAsked, Governance.isGateAsked]
    refine congrArg₂ _ (congrArg₂ _ ?_ ?_) ?_
    · exact any_congr_of_mem fun code hcode => congrArg _ (h.rulePacks code hcode)
    · exact any_congr_of_mem fun code hcode =>
        congrArg _ (h.agentProfiles code (List.mem_append_left _ hcode))
    · exact any_congr_of_mem fun code hcode => congrArg _ (h.parameterSets code hcode)
  rw [Governance.unordered?, Governance.unordered?, hasked]

theorem review_eq {ε : Type} (gate : Gate) (directory : Directory ε) (current : Option String)
    (stage : Stage) : (Governance.mk catalog gate).review directory w party current stage =
      (Governance.mk catalog' gate).review directory w party current stage := by
  cases stage with
  | save => rw [Governance.review_save, Governance.review_save, h.saveIssues_eq]
  | publish => simp only [Governance.review, h.unordered?_eq, h.publishIssues_eq]

end Catalog.Agree

/-! ## References are named by texts -/

theorem Node.named_of_configCode? {n : Node} {key code : String}
    (h : n.configCode? key = some code) : ∃ text, code? text = some code := by
  obtain ⟨text, -, hcode⟩ := Option.bind_eq_some_iff.1 h
  exact ⟨text, hcode⟩

theorem Node.named_of_mem_packCodes {n : Node} {code : String} (h : code ∈ n.packCodes) :
    ∃ text, code? text = some code := by
  rw [packCodes, Text.mem_distinct, List.mem_append] at h
  rcases h with h | h
  · exact named_of_configCode? (Option.mem_toList.1 h)
  · obtain ⟨v, -, hv⟩ := List.mem_filterMap.1 h
    obtain ⟨text, -, hcode⟩ := Option.bind_eq_some_iff.1 hv
    exact ⟨text, hcode⟩

theorem Lists.named {texts : List String} {code : String} (h : Lists texts code) :
    ∃ text, code? text = some code := by
  obtain ⟨text, -, hcode⟩ := h
  exact ⟨text, hcode⟩

namespace Catalog.Rows

variable {r : Rows} {party : Party} {w : Workflow}

/-- The codes of sets are looked up among the artifacts of the rows. -/
theorem sets_seenBy (r : Rows) (party : Party) : (r.seenBy party).catalog.parameterSets =
    .ofList ((r.parameterSets.map (·.artifact)).filter (·.visibleTo party)) := by
  rw [List.filter_map]
  rfl

theorem unresolved_eq (h : ¬ r.Crossed party)
    (hsets : ∀ code ∈ w.references.paramSetBindings,
      r.catalog.parameterSets.usable? party code =
        (r.seenBy party).catalog.parameterSets.usable? party code) :
    Review.unresolved r.catalog party w.references =
      Review.unresolved (r.seenBy party).catalog party w.references := by
  unfold Review.unresolved
  dsimp only
  rw [← Registry.findUsable_congr hsets]
  refine List.filter_congr fun item hitem => ?_
  rw [decide_eq_decide, not_iff_not, mem_findParameters, mem_findParameters]
  refine and_congr_right fun _ => ?_
  constructor
  · rintro ⟨s, hs, code, hcode, hgives⟩
    obtain ⟨hbound, hoffers⟩ := Registry.mem_codes_findUsable.1 hcode
    obtain ⟨text, hnamed⟩ := (Workflow.mem_boundSets.1 hbound).named
    obtain ⟨-, mention, e, -, -, he, hscope, rfl, hne⟩ := Workflow.mem_parameterCodes.1 hitem
    -- were there no such row among those that the party may see, the parameter would be lent
    by_contra hnone
    refine h (.item hnamed he hscope hne ⟨hoffers, ⟨s, hs, hgives⟩, fun s' hs' hgives' => ?_⟩)
    rw [Bool.eq_false_iff]
    intro hvisible
    exact hnone ⟨s', List.mem_filter.2 ⟨hs', hvisible⟩, code, hcode, hgives'⟩
  · rintro ⟨s, hs, code, hcode, hgives⟩
    exact ⟨s, (List.mem_filter.1 hs).1, code, hcode, hgives⟩

theorem agree_seenBy (h : ¬ r.Crossed party) (w : Workflow) :
    r.catalog.Agree (r.seenBy party).catalog party w.references := by
  have hsets : ∀ code ∈ w.references.paramSetBindings,
      r.catalog.parameterSets.usable? party code =
        (r.seenBy party).catalog.parameterSets.usable? party code := by
    intro code hcode
    obtain ⟨text, hnamed⟩ := (Workflow.mem_boundSets.1 hcode).named
    rw [sets_seenBy]
    exact Registry.usable?_eq_of_not_hides fun hides => h (.set hnamed hides)
  refine ⟨fun code hcode => ?_, fun code hcode => ?_, hsets, unresolved_eq h hsets, rfl⟩
  · obtain ⟨n, -, -, hpack⟩ := Workflow.mem_rulePackCodes.1 hcode
    obtain ⟨text, hnamed⟩ := n.named_of_mem_packCodes hpack
    exact Registry.usable?_eq_of_not_hides fun hides => h (.pack hnamed hides)
  · have hnamed : ∃ text, code? text = some code := by
      rcases List.mem_append.1 hcode with hcode | hcode
      · rcases Workflow.mem_agentCodes.1 hcode with hlists | ⟨n, -, -, hcode⟩
        · exact hlists.named
        · exact n.named_of_configCode? hcode
      · exact Lists.named (mem_cleanCodes.1 hcode)
    obtain ⟨text, hnamed⟩ := hnamed
    exact Registry.usable?_eq_of_not_hides fun hides => h (.profile hnamed hides)

end Catalog.Rows

/-! ## Codes that are not shared -/

/-- Of the rows of one code, the party may see all or none. -/
def Unshared (rows : List (Artifact Int)) (party : Party) : Prop :=
  ∀ a ∈ rows, ∀ b ∈ rows, a.code = b.code → a.visibleTo party = b.visibleTo party

instance (rows : List (Artifact Int)) (party : Party) : Decidable (Unshared rows party) :=
  inferInstanceAs (Decidable (∀ a ∈ rows, ∀ b ∈ rows, a.code = b.code →
    a.visibleTo party = b.visibleTo party))

theorem unshared_of_visible {rows : List (Artifact Int)} {party : Party}
    (h : ∀ a ∈ rows, a.visibleTo party = true) : Unshared rows party :=
  fun a ha b hb _ => (h a ha).trans (h b hb).symm

namespace Unshared

variable {party : Party} {code : String}

theorem not_hides {rows : List (Artifact Int)} (h : Unshared rows party) :
    ¬ Hides rows party code := by
  rintro ⟨last, foreign, seen, -⟩
  obtain ⟨hown, hvisible, hcode⟩ := Registry.mem_of_find?_seen seen
  have hother := List.mem_reverse.1 (List.mem_of_find?_eq_some last)
  have hsame := h _ hown _ hother (hcode.trans (Registry.code_of_find? last).symm)
  rw [hvisible, foreign] at hsame
  cases hsame

theorem not_lends {sets : List ParameterSet} {item : String}
    (h : Unshared (sets.map (·.artifact)) party) : ¬ Lends sets party code item := by
  rintro ⟨⟨a, hlast, hactive, hvisible⟩, ⟨s, hs, hgives⟩, foreign⟩
  have ha := List.mem_reverse.1 (List.mem_of_find?_eq_some hlast)
  have hsame := h a ha s.artifact (List.mem_map_of_mem hs)
    ((Registry.code_of_find? hlast).trans hgives.1.symm)
  rw [foreign s hs hgives] at hsame
  have hseen : a.visibleTo party = true := by simpa [Artifact.visibleTo] using hvisible
  rw [hseen] at hsame
  cases hsame

end Unshared

namespace Catalog.Rows

/-- **Nothing crosses** as long as no code is shared with somebody else. -/
theorem not_crossed_of_unshared {r : Rows} {party : Party} (packs : Unshared r.rulePacks party)
    (profiles : Unshared r.agentProfiles party)
    (sets : Unshared (r.parameterSets.map (·.artifact)) party) : ¬ r.Crossed party := by
  rintro (⟨-, hides⟩ | ⟨-, hides⟩ | ⟨-, hides⟩ | ⟨-, -, -, -, lends⟩)
  · exact packs.not_hides hides
  · exact profiles.not_hides hides
  · exact sets.not_hides hides
  · exact sets.not_lends lends

theorem seenBy_seenBy (r : Rows) (party : Party) :
    (r.seenBy party).seenBy party = r.seenBy party := by
  simp [seenBy]

/-- Nothing crosses among rows that the party may see. -/
theorem not_crossed_seenBy (r : Rows) (party : Party) : ¬ (r.seenBy party).Crossed party := by
  refine not_crossed_of_unshared (unshared_of_visible fun a ha => (List.mem_filter.1 ha).2)
    (unshared_of_visible fun a ha => (List.mem_filter.1 ha).2)
    (unshared_of_visible fun a ha => ?_)
  obtain ⟨s, hs, rfl⟩ := List.mem_map.1 ha
  exact (List.mem_filter.1 hs).2

end Catalog.Rows

end WorkflowRelease
