import Mathlib.Data.List.Basic
import WorkflowRelease.Proofs.Run.Stored
import WorkflowRelease.Release.Listing

/-!
# What a party sees

A definition that a party may not read is hidden from it. Two stores are alike for a party when they
differ in hidden documents only. What the party looks up and lists depends on what it sees, as long
as the hidden documents can be read back. Main statements: `Alike.shown_eq`, `Alike.matched_eq`, and
`Alike.put`, alike stores stay so when the same is put into both.
-/

namespace WorkflowRelease

/-- The document of a definition that the party may not read. -/
def Stored.isHiddenFrom (u : Party) : Stored → Bool
  | document d => !d.definition.readableBy u
  | unreadable _ => false

@[simp] theorem Stored.isHiddenFrom_document (u : Party) (d : Document) :
    (document d).isHiddenFrom u = !d.definition.readableBy u := rfl

@[simp] theorem Stored.isHiddenFrom_unreadable (u : Party) (faults : List Fault) :
    (unreadable faults).isHiddenFrom u = false := rfl

namespace Store

variable {u : Party} {s s' : Store}

/-- What a party sees in a place. -/
def seenAt (s : Store) (u : Party) (p : Place) : Option Stored :=
  (s.at? p).filter fun x => !x.isHiddenFrom u

/-- Places come in order, and what is hidden from the party can be read back. -/
structure Discreet (u : Party) (s : Store) : Prop where
  ordered : IsOrdered s.entries
  readable : ∀ d ∈ s.stored, d.definition.readableBy u = false → d.toJson.isReadable = true

/-- Two stores differ in nothing but documents that are hidden from the party. -/
structure Alike (u : Party) (s s' : Store) : Prop where
  folder : s.folder = s'.folder
  left : s.Discreet u
  right : s'.Discreet u
  seenAt : ∀ p, s.seenAt u p = s'.seenAt u p

/-! ## Looking up -/

/-- The document of an id, if there is one that the party may read. -/
def shown (s : Store) (u : Party) (id : String) : Except Unread (Option Document) :=
  (s.load id).map (Option.filter fun d => d.definition.readableBy u)

/-- What is shown of a place is what is seen there. -/
theorem Discreet.shown_readAt (h : s.Discreet u) (p : Place) :
    (s.readAt p).map (Option.filter fun d => d.definition.readableBy u) =
      Stored.readIfAny (s.seenAt u p) := by
  rw [readAt]
  cases hx : s.at? p with
  | none => simp [Store.seenAt, hx, Stored.readIfAny, Except.map]
  | some x =>
    cases x with
    | unreadable faults =>
      simp [Store.seenAt, hx, Option.filter_some, Stored.readIfAny, Stored.read, Except.map,
        Except.mapError]
    | document d =>
      cases hd : d.definition.readableBy u with
      | true =>
        by_cases hr : d.toJson.isReadable = true <;>
          simp [Store.seenAt, hx, Option.filter_some, Stored.readIfAny, Stored.read, Except.map,
            Except.mapError, hd, hr]
      | false =>
        have hr := h.readable d (mem_stored_of_at? hx) hd
        simp [Store.seenAt, hx, Option.filter_some, Stored.readIfAny, Stored.read, Except.map,
          Except.mapError, hd, hr]

theorem Alike.shown_eq (h : s.Alike u s') (id : String) : s.shown u id = s'.shown u id := by
  unfold shown load
  rw [h.folder]
  cases s'.folder.placeOf id with
  | error fault => cases fault <;> rfl
  | ok p =>
    show (s.readAt p).map _ = (s'.readAt p).map _
    rw [h.left.shown_readAt, h.right.shown_readAt, h.seenAt]

/-- A definition that is hidden is not shown, like one that is not there. -/
theorem shown_eq_none {id : String} (h : s.load id = .ok none ∨
    ∃ d, s.load id = .ok (some d) ∧ d.definition.readableBy u = false) :
    s.shown u id = .ok none := by
  unfold shown
  rcases h with h | ⟨d, h, hd⟩
  · rw [h]
    rfl
  · rw [h]
    simp [Except.map, Option.filter_some, hd]

/-- What is shown is loaded. -/
theorem load_of_shown {id : String} {d : Document} (h : s.shown u id = .ok (some d)) :
    s.load id = .ok (some d) := by
  unfold shown at h
  cases hl : s.load id with
  | error faults =>
    rw [hl] at h
    cases h
  | ok found =>
    rw [hl] at h
    obtain ⟨rfl, -⟩ := Option.filter_eq_some_iff.1 (Except.ok.inj h)
    rfl

/-- A party may change nothing but what is shown to it. -/
theorem editable_filter (u : Party) (id : String) (found : Option Document) :
    editable u id (found.filter fun d => d.definition.readableBy u) = editable u id found := by
  cases found with
  | none => rfl
  | some d =>
    cases hd : d.definition.readableBy u with
    | true => rw [Option.filter_some, if_pos hd]
    | false =>
      have howned : d.definition.isOwnedBy u = false := by
        rw [Definition.readableBy, Bool.or_eq_false_iff] at hd
        exact hd.1
      simp [Option.filter_some, hd, editable, howned]

theorem readable_filter (u : Party) (id : String) (found : Option Document) :
    readable u id (found.filter fun d => d.definition.readableBy u) = readable u id found := by
  cases found with
  | none => rfl
  | some d => cases hd : d.definition.readableBy u <;> simp [Option.filter_some, hd, readable]

/-- What follows a look-up depends on what is shown if it makes no use of the rest. -/
theorem bind_loaded (s : Store) (u : Party) (id : String) {α : Type}
    {f : Option Document → Traced α}
    (hf : ∀ found, f (found.filter fun d => d.definition.readableBy u) = f found) :
    (Traced.ofExcept (s.loaded id) >>= f) =
      (Traced.ofExcept ((s.shown u id).mapError Unread.refusal) >>= f) := by
  unfold loaded shown
  cases s.load id with
  | error r => rfl
  | ok found => exact (hf found).symm

theorem Alike.bind_loaded (h : s.Alike u s') (id : String) {α : Type}
    {f : Option Document → Traced α}
    (hf : ∀ found, f (found.filter fun d => d.definition.readableBy u) = f found) :
    (Traced.ofExcept (s.loaded id) >>= f) = (Traced.ofExcept (s'.loaded id) >>= f) := by
  rw [s.bind_loaded u id hf, s'.bind_loaded u id hf, h.shown_eq]

theorem bind_loaded_of_not_shown {id : String} (h : s.shown u id = .ok none) {α : Type}
    {f : Option Document → Traced α}
    (hf : ∀ found, f (found.filter fun d => d.definition.readableBy u) = f found) :
    (Traced.ofExcept (s.loaded id) >>= f) = f none := by
  rw [s.bind_loaded u id hf, h]
  rfl

theorem readDocument_of_not_shown {id : String} (h : s.shown u id = .ok none) :
    s.readDocument u id = .refuse (.noDefinition id) :=
  bind_loaded_of_not_shown h fun found => by rw [readable_filter]

theorem Alike.readDocument_eq (h : s.Alike u s') (id : String) :
    s.readDocument u id = s'.readDocument u id :=
  h.bind_loaded id fun found => by rw [readable_filter]

/-! ## Listing -/

/-- What a party sees in the folder of the store, in order. -/
def seen (s : Store) (u : Party) : List (Place × Stored) :=
  s.listed.filter fun e => !e.2.isHiddenFrom u

theorem Discreet.mem_seen_iff (h : s.Discreet u) {p : Place} {x : Stored} :
    (p, x) ∈ s.seen u ↔ s.seenAt u p = some x ∧ s.folder.lists p = true := by
  simp only [seen, listed, List.mem_filter, Store.seenAt, Option.filter_eq_some_iff]
  constructor
  · rintro ⟨⟨hm, hp⟩, hx⟩
    exact ⟨⟨at?_of_mem h.ordered hm, hx⟩, hp⟩
  · rintro ⟨⟨hm, hx⟩, hp⟩
    exact ⟨⟨mem_entries_of_at? hm, hp⟩, hx⟩

theorem Discreet.isOrdered_seen (h : s.Discreet u) : IsOrdered (s.seen u) :=
  h.ordered.sublist (List.filter_sublist.trans List.filter_sublist)

theorem nodup_of_isOrdered {entries : List (Place × Stored)} (h : IsOrdered entries) :
    entries.Nodup :=
  h.imp fun hne heq => hne.2 (congrArg (·.1) heq)

theorem Alike.seen_eq (h : s.Alike u s') : s.seen u = s'.seen u := by
  have hmem : ∀ e, e ∈ s.seen u ↔ e ∈ s'.seen u := by
    rintro ⟨p, x⟩
    rw [h.left.mem_seen_iff, h.right.mem_seen_iff, h.seenAt, h.folder]
  refine List.Perm.eq_of_pairwise ?_ h.left.isOrdered_seen h.right.isOrdered_seen
    ((List.perm_ext_iff_of_nodup (nodup_of_isOrdered h.left.isOrdered_seen)
      (nodup_of_isOrdered h.right.isOrdered_seen)).2 hmem)
  -- in one folder a name is a place
  rintro ⟨⟨folder, name⟩, x⟩ ⟨⟨folder', name'⟩, x'⟩ he he' ⟨hle, hne⟩ ⟨hle', -⟩
  have hin := of_decide_eq_true (h.left.mem_seen_iff.1 he).2
  have hin' := of_decide_eq_true (h.right.mem_seen_iff.1 he').2
  have hname : name = name' := String.le_antisymm hle hle'
  have hfolder : folder = folder' := hin.trans ((congrArg Folder.path h.folder).trans hin'.symm)
  exact absurd (by rw [hname, hfolder]) hne

/-- What matches a query is seen. -/
theorem matched_eq (s : Store) (u : Party) (q : Query) :
    s.matched q u = (((s.seen u).filterMap fun e => e.2.read.toOption.map (·.definition)).filter
      (q.matched u)).mergeSort Definition.notOlder := by
  unfold matched documents seen
  rw [List.map_filterMap, List.filterMap_filter, List.filter_filterMap, List.filter_filterMap]
  congr 1
  apply List.filterMap_congr
  rintro ⟨p, x⟩ -
  cases hx : x.isHiddenFrom u with
  | false => simp
  | true =>
    cases x with
    | unreadable faults => cases hx
    | document d =>
      have hcovers : q.covers u d.definition = false := by
        simp_all [Stored.isHiddenFrom, Definition.readableBy, Query.covers]
      by_cases hr : d.toJson.isReadable = true <;>
        simp [Stored.read, hr, Except.toOption, Query.matched, hcovers]

theorem Alike.matched_eq (h : s.Alike u s') (q : Query) : s.matched q u = s'.matched q u := by
  rw [s.matched_eq, s'.matched_eq, h.seen_eq]

/-- What cannot be read is seen. -/
theorem Discreet.unreadable_eq (h : s.Discreet u) :
    s.unreadable = ((s.seen u).filter fun e => e.2.read.toOption.isNone).map (·.1.name) := by
  unfold unreadable seen
  rw [List.filter_filter]
  congr 1
  apply List.filter_congr
  rintro ⟨p, x⟩ hm
  cases hx : x.isHiddenFrom u with
  | false => simp
  | true =>
    cases x with
    | unreadable faults => cases hx
    | document d =>
      have hd : d ∈ s.stored := mem_stored.2 ⟨p, (List.mem_filter.1 hm).1⟩
      have hr := h.readable d hd (by simpa using hx)
      simp [Stored.read, hr, Except.toOption]

theorem Alike.skipped_eq (h : s.Alike u s') : s.skipped = s'.skipped := by
  rw [skipped, skipped, h.left.unreadable_eq, h.right.unreadable_eq, h.seen_eq]

/-! ## Writing -/

theorem seenAt_put (s : Store) (u : Party) (p : Place) (x : Stored) (q : Place) :
    (s.put p x).seenAt u q =
      if p = q then (some x).filter fun x => !x.isHiddenFrom u else s.seenAt u q := by
  unfold Store.seenAt
  rw [at?_put]
  split <;> rfl

theorem Discreet.put (h : s.Discreet u) {d : Document} (hd : d.definition.readableBy u = true)
    (p : Place) : (s.put p (.document d)).Discreet u where
  ordered := isOrdered_insert h.ordered p _
  readable e he hhidden := by
    rcases mem_stored_put he with he | rfl
    · exact h.readable e he hhidden
    · rw [hd] at hhidden
      cases hhidden

theorem Alike.put (h : s.Alike u s') {d : Document} (hd : d.definition.readableBy u = true)
    (p : Place) : (s.put p (.document d)).Alike u (s'.put p (.document d)) where
  folder := h.folder
  left := h.left.put hd p
  right := h.right.put hd p
  seenAt q := by rw [seenAt_put, seenAt_put, h.seenAt]

theorem Discreet.erase (h : s.Discreet u) (p : Place) : (s.erase p).Discreet u where
  ordered := h.ordered.sublist List.filter_sublist
  readable d hd := by
    obtain ⟨q, hm⟩ := mem_stored.1 hd
    exact h.readable d (mem_stored.2 ⟨q, (List.mem_filter.1 hm).1⟩)

/-- Nobody misses what is hidden from them. -/
theorem Discreet.alike_erase (h : s.Discreet u) {p : Place} {d : Document}
    (hp : s.at? p = some (.document d)) (hd : d.definition.readableBy u = false) :
    s.Alike u (s.erase p) where
  folder := rfl
  left := h
  right := h.erase p
  seenAt q := by
    unfold Store.seenAt
    rw [at?_erase]
    split
    · rename_i hq
      rw [← hq, hp, Option.filter_some, Stored.isHiddenFrom_document, hd]
      rfl
    · rfl

end Store

end WorkflowRelease
