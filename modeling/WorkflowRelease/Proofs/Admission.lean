import WorkflowRelease.Proofs.Governance.Stricter
import WorkflowRelease.Proofs.Legible
import WorkflowRelease.Proofs.Publication

/-!
# What a publication rests on

A version may be published if nothing is wrong with its workflow, whatever that calls
(`Service.Admits`), and if all the calls will do. A publication changes nothing about the first, and
about the second only what becomes of calls in its own place. Main statements: `judges_valid_iff`,
when a request is judged and found valid, and `Store.Serves.publish`, what a publication does to the
calls.
-/

namespace WorkflowRelease

/-! ## Called versions -/

/-- The node calls a given version of the definition that is stored in the place. -/
def Node.CallsVersionIn (n : Node) (f : Folder) (p : Place) : Prop :=
  (∃ id, n.configCode? "workflowDefinitionId" = some id ∧ f.placeOf id = .ok p) ∧
    ∃ versionId, n.configCode? "workflowVersionId" = some versionId

section

variable {store : Store} {party : Party} {current : Option String} {p : Place} {d : Document}
  {target : Version} {code : VersionCode} {comment : Option String} {id user : String}
  {fresh : Fresh}

/-- The one version that is published after a publication is its target. -/
theorem Document.publishes_publish (hn : (d.versions.map (·.id)).Nodup) (ht : target ∈ d.versions)
    (hid : target.id ≠ "") (wanted : Option String) :
    (d.publish (d.outcome target code comment id user fresh) user fresh.now).Publishes wanted ↔
      ∀ id, wanted = some id → target.id = id := by
  have hversions := publishedVersions_eq_map hid user fresh.now hn
  constructor
  · rintro ⟨v, hv, hstatus, hwanted⟩
    rw [versions_publish, List.mem_append, List.mem_singleton] at hv
    rcases hv with hv | rfl
    · have hv : v ∈ publishedVersions target.id user fresh.now d.versions := hv
      rw [hversions] at hv
      obtain ⟨v', -, rfl⟩ := List.mem_map.1 hv
      rw [Version.status_atPublication] at hstatus
      rw [Version.id_atPublication] at hwanted
      have hsame : v'.id = target.id := by
        by_contra hother
        rw [if_neg hother] at hstatus
        split at hstatus
        · cases hstatus
        · contradiction
      exact fun id h => hsame ▸ hwanted id h
    · cases hstatus
  · intro hwanted
    refine ⟨target.atPublication target.id user fresh.now, ?_, ?_, ?_⟩
    · rw [versions_publish]
      refine List.mem_append_left _ ?_
      show _ ∈ publishedVersions target.id user fresh.now d.versions
      rw [hversions]
      exact List.mem_map_of_mem ht
    · rw [Version.status_atPublication, if_pos rfl]
    · rwa [Version.id_atPublication]

/-- **A publication and its own calls.** A call that will do does so after a version has been
published in a place, unless it is a call of a given version in that place: the version is archived
then. -/
theorem Store.Serves.publish {n : Node} (h : store.Serves party current n)
    (hd : store.at? p = some (.document d)) (hn : (d.versions.map (·.id)).Nodup)
    (ht : target ∈ d.versions) (hid : target.id ≠ "") (hstatus : target.status ≠ .published) :
    (store.put p (.document (d.publish (d.outcome target code comment id user fresh) user
      fresh.now))).Serves party current n ↔ ¬ n.CallsVersionIn store.folder p := by
  obtain ⟨called, e, hcalled, hother, hload, hreadable, hpublishes⟩ := h
  obtain ⟨q, hq, he, hread⟩ := Store.load_eq_some_iff.1 hload
  have hcalls : n.CallsVersionIn store.folder p ↔
      q = p ∧ ∃ versionId, n.configCode? "workflowVersionId" = some versionId := by
    unfold Node.CallsVersionIn
    simp [hcalled, hq]
  rw [hcalls]
  by_cases hqp : q = p
  · -- the call leads to what has just been published, where a given version would be another one
    subst hqp
    cases hd.symm.trans he
    have hload' : (store.put q (.document (d.publish (d.outcome target code comment id user fresh)
        user fresh.now))).load called = .ok (some _) :=
      Store.load_eq_some_iff.2 ⟨q, hq, by rw [Store.at?_put, if_pos rfl],
        Document.isReadable_publish hread ht⟩
    constructor
    · rintro ⟨called', e', hcalled', -, hload'', -, hpublishes'⟩ ⟨-, versionId, hversion⟩
      cases hcalled.symm.trans hcalled'
      cases hload'.symm.trans hload''
      rw [Document.publishes_publish hn ht hid] at hpublishes'
      obtain ⟨v, hv, hpublished, hwanted⟩ := hpublishes
      have hsame : v.id = target.id :=
        (hwanted versionId hversion).trans (hpublishes' versionId hversion).symm
      rw [List.inj_on_of_nodup_map hn hv ht hsame] at hpublished
      exact hstatus hpublished
    · intro hany
      have hnone : n.configCode? "workflowVersionId" = none := by
        by_contra hsome
        exact hany ⟨rfl, Option.ne_none_iff_exists'.1 hsome⟩
      refine ⟨called, _, hcalled, hother, hload', hreadable, ?_⟩
      rw [Document.publishes_publish hn ht hid, hnone]
      nofun
  · refine iff_of_true ⟨called, e, hcalled, hother, ?_, hreadable, hpublishes⟩ fun h => hqp h.1
    refine Store.load_eq_some_iff.2 ⟨q, hq, ?_, hread⟩
    rw [Store.at?_put, if_neg (Ne.symm hqp), he]

end

/-! ## Admission -/

theorem Store.Serves.answers {store : Store} {party : Party} {current : Option String} {n : Node}
    (h : store.Serves party current n) : store.Answers current n := by
  obtain ⟨id, d, hid, -, hload, -⟩ := h
  intro id' hid' _
  cases hid.symm.trans hid'
  exact ⟨_, hload⟩

/-- Nothing is found about called workflows iff all the calls will do. -/
theorem Review.subflows_eq_nil_iff {store : Store} {party : Party} {current : Option String}
    {ns : List Node} :
    subflows store.directory party current (ns.map Node.call) = .ok [] ↔
      ∀ n ∈ ns, store.Serves party current n := by
  classical
  obtain ⟨hlook, hissues⟩ := subflows_calls store party current ns
  constructor
  · intro h
    have hnodes := (hissues [] h).2
    rw [List.map_nil, eq_comm, List.map_eq_nil_iff, List.filter_eq_nil_iff] at hnodes
    exact fun n hn => by simpa using hnodes n hn
  · intro h
    obtain ⟨issues, hok⟩ := hlook.2 fun n hn => (h n hn).answers
    have hnone : (ns.filter fun n => ¬ store.Serves party current n) = [] :=
      List.filter_eq_nil_iff.2 fun n hn => by simpa using h n hn
    have hnodes := (hissues issues hok).2
    rw [hnone, List.map_nil, List.map_eq_nil_iff] at hnodes
    rw [hok, hnodes]

namespace Service

variable {s : Service} {store : Store} {party : Party} {id : String} {r : PublishRequest}
  {d : Document} {target : Version} {w : Workflow}

/-- Whatever it calls, the workflow may be published by the party: its structure is valid, and
nothing is wrong with what else it refers to. -/
structure Admits (s : Service) (party : Party) (w : Workflow) : Prop where
  structural : ∃ v, s.validate w .publish = .ok v ∧ v.valid = true
  ordered : s.governance.unordered? party w.references = none
  references : s.governance.publishIssues w party w.references = []

/-- A review for publishing finds nothing wrong iff there is nothing wrong with the references, and
all calls will do. -/
theorem review_valid_iff {current : Option String} :
    (∃ v, s.review store.directory w party current .publish = .ok v ∧ v.valid = true) ↔
      s.governance.unordered? party w.references = none ∧
      s.governance.publishIssues w party w.references = [] ∧
      ∀ n ∈ w.callers, store.Serves party current n := by
  rw [← Review.subflows_eq_nil_iff, ← w.subflows_eq]
  constructor
  · rintro ⟨v, hv, hvalid⟩
    have hv := mapError_eq_ok.1 hv
    have hnil := v.eq_nil_of_valid hvalid (List.Subset.refl _) (Governance.onlyErrors_review hv)
    obtain ⟨hordered, called, hcalled, rfl⟩ := Governance.review_publish_eq_ok_iff.1 hv
    rw [List.append_eq_nil_iff] at hnil
    exact ⟨hordered, hnil.1, hnil.2 ▸ hcalled⟩
  · rintro ⟨hordered, hreferences, hcalled⟩
    refine ⟨⟨[]⟩, mapError_eq_ok.2 (Governance.review_publish_eq_ok_iff.2 ?_), rfl⟩
    exact ⟨hordered, [], hcalled, by rw [hreferences, List.append_nil]⟩

/-- **A request to publish** is judged and found valid iff the party owns the definition, it is not
archived, a version that is not published is meant, and its workflow is admitted and all its calls
will do. -/
theorem judges_valid_iff :
    (∃ structural governance, s.Judges store party id r d target structural governance ∧
      (structural.merge governance).valid = true) ↔
    party = .user d.definition.ownerUserId ∧ d.definition.status ≠ .archived ∧
      d.findVersion? r.versionId r.versionCode = some target ∧ target.status ≠ .published ∧
      ∃ w, Workflow.ofFields target.snapshot = .valid w ∧ s.Admits party w ∧
        ∀ n ∈ w.callers, store.Serves party (some id) n := by
  constructor
  · rintro ⟨structural, governance, h, hvalid⟩
    rw [Verdict.valid_merge, Bool.and_eq_true] at hvalid
    obtain ⟨w, hw, hstructural, hgovernance⟩ := h.judged
    obtain ⟨hordered, hreferences, hserved⟩ :=
      review_valid_iff.1 ⟨governance, hgovernance, hvalid.2⟩
    exact ⟨h.owned, h.editable, h.meant, h.unpublished, w, hw,
      ⟨⟨structural, hstructural, hvalid.1⟩, hordered, hreferences⟩, hserved⟩
  · rintro ⟨howned, heditable, hmeant, hunpublished, w, hw, hadmitted, hserved⟩
    obtain ⟨structural, hstructural, hvalid⟩ := hadmitted.structural
    obtain ⟨governance, hgovernance, hvalid'⟩ := review_valid_iff.2
      ⟨hadmitted.ordered, hadmitted.references, hserved⟩
    refine ⟨structural, governance,
      ⟨howned, heditable, hmeant, hunpublished, w, hw, hstructural, hgovernance⟩, ?_⟩
    rw [Verdict.valid_merge, hvalid, hvalid']
    rfl

end Service

end WorkflowRelease
