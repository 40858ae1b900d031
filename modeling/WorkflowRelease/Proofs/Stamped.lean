import WorkflowRelease.Proofs.Concurrent.Endings
import WorkflowRelease.Proofs.History
import WorkflowRelease.Proofs.Snapshot.Again

/-!
# Stamped identities

A saved version carries the identity of its definition, as it was when the operation looked at it.
The draft goes into the document as it is when the operation acts, and unlike a publication it does
not ask whether the definition has changed meanwhile. Main statements: `stamped_by_look`, the
version carries the identity of the definition that it is saved under iff neither the name nor the
usage method has changed, and `renamed_unstamped`, a schedule in which they have.
-/

namespace WorkflowRelease

/-- The snapshot carries the identity of the definition; what is not set is left out. -/
structure Definition.Stamps (d : Definition) (snapshot : Fields) : Prop where
  workflowId : snapshot.get? "workflowId" = some (.text d.workflowId)
  name : snapshot.get? "name" = some (.text d.name)
  mode : snapshot.get? "mode" = some (.word d.mode)
  usageMethod : snapshot.get? "usageMethod" = d.usageMethod.map .word
  owner : snapshot.get? "ownerUserId" = some (.text d.ownerUserId)
  source : snapshot.get? "templateSource" = some (.word d.source)

theorem Definition.stamps_iff {d : Definition} {snapshot : Fields} : d.Stamps snapshot ↔
    snapshot.get? "workflowId" = some (.text d.workflowId) ∧
    snapshot.get? "name" = some (.text d.name) ∧
    snapshot.get? "mode" = some (.word d.mode) ∧
    snapshot.get? "usageMethod" = d.usageMethod.map .word ∧
    snapshot.get? "ownerUserId" = some (.text d.ownerUserId) ∧
    snapshot.get? "templateSource" = some (.word d.source) := by
  constructor
  · exact fun h => ⟨h.workflowId, h.name, h.mode, h.usageMethod, h.owner, h.source⟩
  · exact fun ⟨hid, hname, hmode, husage, howner, hsource⟩ =>
      ⟨hid, hname, hmode, husage, howner, hsource⟩

instance (d : Definition) (snapshot : Fields) : Decidable (d.Stamps snapshot) :=
  decidable_of_iff' _ Definition.stamps_iff

/-! ## Stamping -/

theorem Fields.Agrees.symm {o o' : Fields} (h : o.Agrees o') : o'.Agrees o :=
  fun key => (h key).symm

theorem Json.word_inj {α : Type} [LawfulChoice α] {a b : α} (h : Json.word a = Json.word b) :
    a = b :=
  LawfulChoice.word_inj a b (Json.text.inj h)

theorem Service.canonicalize_of_canonical {s : Service} {document : Option Fields}
    {d : Definition} {w : Workflow} (h : s.canonical document d = .ok w) :
    Workflow.canonicalize document d.identity s.nodeDefaults = .valid w := by
  unfold canonical at h
  split at h
  · rename_i hread
    cases h
    exact hread
  · cases h

/-- **A canonical workflow** carries the identity of its definition in its snapshot. -/
theorem Service.stamps_of_canonical {s : Service} {document : Option Fields} {d : Definition}
    {w : Workflow} (h : s.canonical document d = .ok w) : d.Stamps w.snapshot := by
  have hagrees := (Workflow.agrees_restamped (canonicalize_of_canonical h)).symm
  have hupdate : ∀ {key v}, d.identity.fields.get? key = some v →
      (w.snapshot.update d.identity.fields).get? key = some v := by
    intro key v hv
    rw [Log.Entry.get?_update (Workflow.nodup_keys_identity _), hv, Option.some_or]
  have hget : ∀ {key v}, d.identity.fields.get? key = some v → v ≠ .null →
      w.snapshot.get? key = some v :=
    fun hv hne => hagrees.get?_eq_some (hupdate hv) hne
  refine ⟨hget rfl nofun, hget rfl nofun, hget rfl nofun, ?_, hget rfl nofun, hget rfl nofun⟩
  have hsnapshot : w.snapshot.get? "usageMethod" = w.usageMethod.map .word := by
    simp [Workflow.snapshot, Fields.get?_cons]
  have husage := hagrees "usageMethod"
  rw [hupdate (v := .ofWord? d.usageMethod) rfl, hsnapshot, Option.getD_some] at husage
  rw [hsnapshot]
  cases hw : w.usageMethod <;> cases hd : d.usageMethod <;> simp_all [Json.ofWord?, Json.word]

/-- A snapshot that carries the identity of a definition carries that of a later state of it iff
neither the name nor the usage method has changed. -/
theorem Definition.Stamps.iff_of_extends {d e : Document} {snapshot : Fields}
    (h : d.definition.Stamps snapshot) (hext : e.Extends d) :
    e.definition.Stamps snapshot ↔ e.definition.name = d.definition.name ∧
      e.definition.usageMethod = d.definition.usageMethod := by
  constructor
  · intro h'
    have hname := h'.name.symm.trans h.name
    have husage := h'.usageMethod.symm.trans h.usageMethod
    refine ⟨by simpa using hname, Option.map_injective (fun _ _ => Json.word_inj) husage⟩
  · rintro ⟨hname, husage⟩
    refine ⟨?_, ?_, ?_, ?_, ?_, ?_⟩
    · rw [hext.workflowId, h.workflowId]
    · rw [hname, h.name]
    · rw [hext.mode, h.mode]
    · rw [husage, h.usageMethod]
    · rw [hext.owner, h.owner]
    · rw [hext.source, h.source]

/-! ## Saving -/

theorem Document.extends_addDraft (d : Document) (v : Version) (now : String) :
    (d.addDraft v now).Extends d where
  id := rfl
  workflowId := rfl
  mode := rfl
  owner := rfl
  source := rfl
  createdAt := rfl
  versions := by
    rw [addDraft, List.map_append]
    exact List.prefix_append _ _
  audits := List.prefix_rfl

namespace Service

/-- With the action of the number, an operation that is to save looks at the document of an id. -/
def LooksToSave (s : Service) (as : List Action) (i n : Nat) (id : String) (d : Document) : Prop :=
  ∃ party request supply directory,
    as[i]? = some (.look party (.save id request) supply directory) ∧
    (s.situation (as.take i)).operations.length = n ∧
    (s.situation (as.take i)).store.load id = .ok (some d)

end Service

/-- **Saved versions carry the identity that was looked at.** In every schedule in which no id is
drawn twice and no two units of work for one place overlap, whatever else is going on: an operation
that saves a version writes it into the document as it is then, which extends the one that it has
looked at. The version carries the identity of the definition as it was at the look. So it carries
that of the definition in the document that it is saved in iff name and usage method are still the
same. -/
theorem stamped_by_look (s : Service) (as : List Action) (h : Action.Drawn as)
    (ho : s.IsOrderly as) (i j n : Nat) (id : String) (d : Document) (o : Outcome)
    (hl : s.LooksToSave as i n id d) (he : s.Finishes as j n (.ok o)) :
    i < j ∧ ∃ e v now p, (s.situation (as.take j)).store.load id = .ok (some e) ∧ e.Extends d ∧
      o = .version v ∧
      (s.situation (as.take (j + 1))).store =
        (s.situation (as.take j)).store.put p (.document (e.addDraft v now)) ∧
      d.definition.Stamps v.snapshot ∧
      ((e.addDraft v now).definition.Stamps v.snapshot ↔
        e.definition.name = d.definition.name ∧
        e.definition.usageMethod = d.definition.usageMethod) := by
  obtain ⟨party, r, supply, directory, hlook, hlength, hload⟩ := hl
  obtain ⟨op, u, p, hop, hu, houtcome, henter, -, -, hput⟩ := he.written ho
  obtain ⟨hij, hplanned⟩ :=
    Service.planned_of_looked hlook hlength hop (Phase.plan?_of_work hu)
  refine ⟨hij, ?_⟩
  generalize hplan : u.plan = plan at hplanned henter
  cases hplanned with
  | @save _ _ d' w f loaded _ _ canonical _ =>
    rw [hload] at loaded
    cases loaded
    obtain ⟨⟨⟩, -, hx⟩ := Traced.result_bind_eq_ok_iff.1 henter
    obtain ⟨e, he', hx⟩ := Traced.result_bind_eq_ok_iff.1 hx
    have hload' := Store.copy_eq_ok_iff.1 he'
    obtain ⟨fresh, code, snapshot, -, -, -, -, hs, hstaged, hdocument⟩ := Plan.stageSave_eq_ok hx
    obtain ⟨-, rfl⟩ := Workflow.snapshotOf_eq_ok_iff.1 hs
    have hext := h.extends_of_load ho (Nat.le_of_lt hij) hload hload'
    have hstamps := Service.stamps_of_canonical canonical
    refine ⟨e, _, fresh.now, p, hload', hext, houtcome.symm.trans hstaged, hput.trans ?_, hstamps,
      hstamps.iff_of_extends ((e.extends_addDraft _ _).trans hext)⟩
    rw [Work.document, hdocument]

namespace Sample

/-- A version is saved, and an update gets in between its look and its unit of work, which has to
wait for the lock. -/
def saving (r : UpdateRequest) : List Action :=
  (founding snapshot).flatMap Move.actions ++
    [.look owner (.save "definition-0" { snapshot }) (supply 2) directory,
      .look owner (.update "definition-0" r) (supply 3) directory,
      .enter 2 (supply 4), .enter 1 (supply 5), .draft 2 none, .settle 2 none none,
      .enter 1 (supply 6), .draft 1 none, .settle 1 none none]

def describe : UpdateRequest := { description := some "In a line" }

def rename : UpdateRequest := { name := some "Renamed", usageMethod := some .copilot }

end Sample

theorem stamped_by_look_described :
    Action.Drawn (Sample.saving Sample.describe) ∧
    Sample.service.IsOrderly (Sample.saving Sample.describe) ∧
    ∃ d e v now, Sample.service.LooksToSave (Sample.saving Sample.describe) 4 1 "definition-0" d ∧
      Sample.service.Finishes (Sample.saving Sample.describe) 12 1 (.ok (.version v)) ∧
      (Sample.service.situation ((Sample.saving Sample.describe).take 12)).store.load
        "definition-0" = .ok (some e) ∧
      e ≠ d ∧ (e.addDraft v now).definition.Stamps v.snapshot := by
  have hdrawn : Action.Drawn (Sample.saving Sample.describe) :=
    ⟨by decide +kernel, by decide +kernel⟩
  have horderly : Sample.service.IsOrderly (Sample.saving Sample.describe) :=
    Sample.service.isOrderly_of_names (by decide +kernel)
  have hfound : ((Sample.service.situation ((Sample.saving Sample.describe).take 4)).store.load
      "definition-0").toOption.join.any (fun d =>
        ((Sample.service.situation ((Sample.saving Sample.describe).take 12)).store.load
          "definition-0").toOption.join.any fun e =>
            e.definition.name = d.definition.name &&
            e.definition.usageMethod = d.definition.usageMethod && e ≠ d) = true := by
    decide +kernel
  have hended : (((Sample.service.situation ((Sample.saving Sample.describe).take 13)).answer?
      1).bind Except.toOption).isSome = true := by
    decide +kernel
  obtain ⟨d, hd, hfound⟩ := (Option.any_eq_true _ _).1 hfound
  obtain ⟨e, he, hfound⟩ := (Option.any_eq_true _ _).1 hfound
  simp only [Bool.and_eq_true, decide_eq_true_eq] at hfound
  obtain ⟨⟨hname, husage⟩, hne⟩ := hfound
  have hd := eq_ok_of_toOption (Option.join_eq_some_iff.1 hd)
  have he := eq_ok_of_toOption (Option.join_eq_some_iff.1 he)
  obtain ⟨o, ho⟩ := Option.isSome_iff_exists.1 hended
  obtain ⟨x, hx, ho⟩ := Option.bind_eq_some_iff.1 ho
  have hlook : Sample.service.LooksToSave (Sample.saving Sample.describe) 4 1 "definition-0" d :=
    ⟨_, _, _, _, rfl, by decide +kernel, hd⟩
  have hends : Sample.service.Finishes (Sample.saving Sample.describe) 12 1 (.ok o) :=
    ⟨by decide +kernel, eq_ok_of_toOption ho ▸ hx⟩
  obtain ⟨-, e', v, now, p, he', -, rfl, -, -, hiff⟩ :=
    stamped_by_look Sample.service (Sample.saving Sample.describe) hdrawn horderly 4 12 1
      "definition-0" d o hlook hends
  rw [he] at he'
  cases he'
  exact ⟨hdrawn, horderly, d, e, v, now, hlook, hends, he, hne, hiff.2 ⟨hname, husage⟩⟩

/-- The definition gets another name and usage method before the version is saved, which then
carries neither of them. -/
theorem renamed_unstamped :
    Action.Drawn (Sample.saving Sample.rename) ∧
    Sample.service.IsOrderly (Sample.saving Sample.rename) ∧
    ∃ d ∈ (Sample.service.situation (Sample.saving Sample.rename)).store.stored,
      ∃ v ∈ d.versions,
        Sample.service.Finishes (Sample.saving Sample.rename) 12 1 (.ok (.version v)) ∧
        d.definition.name = "Renamed" ∧ v.snapshot.get? "name" = some (.text "Linear") ∧
        ¬ d.definition.Stamps v.snapshot := by
  refine ⟨⟨by decide +kernel, by decide +kernel⟩,
    Sample.service.isOrderly_of_names (by decide +kernel), ?_⟩
  unfold Service.Finishes
  decide +kernel

end WorkflowRelease
