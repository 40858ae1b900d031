import WorkflowRelease.Proofs.Codes
import WorkflowRelease.Proofs.Standing
import WorkflowRelease.Release.Listing

/-!
# Numbers of versions

The versions of a document are numbered in the order in which they are stored. A saved draft goes on
from the latest code and the draft after a publication from the code that is published, which may be
an old one; where the code after it is taken, the draft gets the one after the highest. So all
drafts get the number that comes next. Main statements: `successor_codesUpTo`, both ways lead to the
same code, and `numbered_unless_unreadable`. A document whose text is too deep keeps its numbers,
but its versions are listed to nobody (`unlisted_of_deep`).
-/

namespace WorkflowRelease

namespace VersionCode

/-- The code of the version with a number, the first one being numbered zero. -/
def nth (n : Nat) : VersionCode := ⟨1, 0, n⟩

/-- The texts of the codes from the first one up to one with a number. -/
def codesUpTo (n : Nat) : List String := (List.range (n + 1)).map fun k => (nth k).text

/-- The texts are codes, the first of which is the greater one. -/
def IsAbove (s t : String) : Prop :=
  ∃ v w, ofText? s = some v ∧ ofText? t = some w ∧ w.lt v = true

theorem text_nth (n : Nat) : (nth n).text = "1.0." ++ toString n := by
  have hfront : toString 1 ++ "." ++ toString 0 ++ "." = "1.0." := by decide
  rw [text, ← hfront]
  rfl

theorem le_nth_iff {m n : Nat} : (nth m).le (nth n) = true ↔ m ≤ n := by
  simp only [le, Bool.or_eq_true, Bool.and_eq_true, decide_eq_true_eq]
  simp [nth]

theorem lt_nth_iff {m n : Nat} : (nth m).lt (nth n) = true ↔ m < n := by
  rw [lt, Bool.not_eq_true', Bool.eq_false_iff, ne_eq, le_nth_iff, Nat.not_le]

theorem nth_injective {m n : Nat} (h : nth m = nth n) : m = n := congrArg VersionCode.patch h

theorem isWritable_nth_of_le {m n : Nat} (hmn : m ≤ n) (h : (nth n).isWritable = true) :
    (nth m).isWritable = true := by
  simp only [isWritable, Bool.and_eq_true, decide_eq_true_eq] at h ⊢
  exact ⟨h.1, Nat.lt_of_le_of_lt hmn h.2⟩

theorem mem_codesUpTo {s : String} {n : Nat} :
    s ∈ codesUpTo n ↔ ∃ k, k ≤ n ∧ s = (nth k).text := by
  simp only [codesUpTo, List.mem_map, List.mem_range, Nat.lt_succ_iff, eq_comm]

theorem codesUpTo_succ (n : Nat) : codesUpTo (n + 1) = codesUpTo n ++ [(nth (n + 1)).text] := by
  rw [codesUpTo, List.range_succ, List.map_append]
  rfl

theorem nodup_codesUpTo (n : Nat) : (codesUpTo n).Nodup :=
  List.nodup_range.map fun _ _ h => nth_injective (text_injective h)

theorem ofText?_nth {n k : Nat} (h : (nth n).isWritable = true) (hk : k ∈ List.range (n + 1)) :
    ofText? (nth k).text = some (nth k) :=
  ofText?_text (isWritable_nth_of_le (Nat.le_of_lt_succ (List.mem_range.1 hk)) h)

/-- Backwards, the codes go down. -/
theorem isAbove_codesUpTo {n : Nat} (h : (nth n).isWritable = true) :
    (codesUpTo n).reverse.Pairwise IsAbove := by
  rw [List.pairwise_reverse, codesUpTo, List.pairwise_map]
  refine List.pairwise_lt_range.imp_of_mem ?_
  intro j k hj hk hjk
  exact ⟨nth k, nth j, ofText?_nth h hk, ofText?_nth h hj, lt_nth_iff.2 hjk⟩

/-! ## The next code -/

/-- The last of the codes is the highest one. -/
theorem highest_codesUpTo {n : Nat} (h : (nth n).isWritable = true) :
    highest ((codesUpTo n).filterMap ofText?) = nth n := by
  have hread : (codesUpTo n).filterMap ofText? = (List.range (n + 1)).map nth := by
    rw [codesUpTo, List.filterMap_map, ← List.filterMap_eq_map]
    refine List.filterMap_congr fun k hk => ?_
    rw [Function.comp_apply, ofText?_nth h hk, Function.comp_apply]
  have hlast : nth n ∈ (List.range (n + 1)).map nth :=
    List.mem_map_of_mem (List.mem_range.2 (Nat.lt_succ_self n))
  rw [hread]
  obtain ⟨k, hk, hkn⟩ := List.mem_map.1 (highest_mem (List.ne_nil_of_mem hlast))
  have hle := le_highest hlast
  rw [← hkn, le_nth_iff] at hle
  rw [← hkn, Nat.le_antisymm (Nat.le_of_lt_succ (List.mem_range.1 hk)) hle]

/-- **The next code** is the same, whichever of the codes it is to follow. -/
theorem successor_codesUpTo {k n : Nat} (hk : k ≤ n) (h : (nth n).isWritable = true) :
    successor (some (nth k).text) (codesUpTo n) = (nth n).next? := by
  have hfollowing : following (some (nth k).text) = (nth k).next? := by
    rw [following, Option.bind_some, ofText?_text (isWritable_nth_of_le hk h)]
  rw [successor, hfollowing]
  rcases Nat.lt_or_eq_of_le hk with hlt | rfl
  · -- the code after it is taken
    have hnext : (nth k).next? = some (nth (k + 1)) :=
      if_pos (isWritable_nth_of_le (Nat.succ_le_of_lt hlt) h)
    have htaken : (nth (k + 1)).text ∈ codesUpTo n := mem_codesUpTo.2 ⟨k + 1, hlt, rfl⟩
    rw [hnext]
    show ite _ _ _ = _
    rw [if_pos htaken, highest_codesUpTo h]
  · cases hnext : (nth k).next? with
    | none => rfl
    | some v =>
      have hv : nth (k + 1) = v := (Option.ite_some_none_eq_some.1 hnext).2
      have hfree : v.text ∉ codesUpTo k := by
        intro hmem
        obtain ⟨j, hj, htext⟩ := mem_codesUpTo.1 hmem
        have hjk := nth_injective (hv.trans (text_injective htext))
        omega
      exact if_neg hfree

end VersionCode

/-! ## The codes of a document -/

/-- The versions have the codes up to one with a number, which is the latest. -/
structure Document.Numbered (d : Document) (n : Nat) : Prop where
  codes : d.codes = VersionCode.codesUpTo n
  latest : d.definition.latestVersionCode = some (VersionCode.nth n).text
  isWritable : (VersionCode.nth n).isWritable = true

namespace Document.Numbered

variable {d : Document} {n : Nat}

theorem length_versions (h : d.Numbered n) : d.versions.length = n + 1 := by
  have hlength := congrArg List.length h.codes
  rwa [Document.codes, List.length_map, VersionCode.codesUpTo, List.length_map,
    List.length_range] at hlength

theorem first {definition : Definition} (v : Version)
    (hlatest : definition.latestVersionCode = some VersionCode.initial.text)
    (hcode : v.code = VersionCode.initial.text) : (Document.first definition v).Numbered 0 where
  codes := congrArg (fun code => [code]) hcode
  latest := hlatest
  isWritable := by decide +kernel

/-- The code after any of the versions has the next number. -/
theorem nextCode {after : String} {code : VersionCode} (h : d.Numbered n) (hmem : after ∈ d.codes)
    (hcode : d.nextCode (some after) = some code) :
    code = VersionCode.nth (n + 1) ∧ (VersionCode.nth (n + 1)).isWritable = true := by
  rw [h.codes] at hmem
  obtain ⟨k, hk, rfl⟩ := VersionCode.mem_codesUpTo.1 hmem
  rw [Document.nextCode, h.codes, VersionCode.successor_codesUpTo hk h.isWritable] at hcode
  obtain ⟨hwritable, hnext⟩ := Option.ite_some_none_eq_some.1 hcode
  exact ⟨hnext.symm, hwritable⟩

/-- A document with one more version is numbered on. -/
theorem add (h : d.Numbered n) {d' : Document} {after : String} {code : VersionCode}
    (hmem : after ∈ d.codes) (hcode : d.nextCode (some after) = some code)
    (hcodes : d'.codes = d.codes ++ [code.text])
    (hlatest : d'.definition.latestVersionCode = some code.text) : d'.Numbered (n + 1) := by
  obtain ⟨rfl, hwritable⟩ := h.nextCode hmem hcode
  refine ⟨?_, hlatest, hwritable⟩
  rw [hcodes, h.codes, VersionCode.codesUpTo_succ]

theorem latest_mem (h : d.Numbered n) : (VersionCode.nth n).text ∈ d.codes := by
  rw [h.codes]
  exact VersionCode.mem_codesUpTo.2 ⟨n, Nat.le_refl n, rfl⟩

end Document.Numbered

theorem map_code_unmarked (versions : List Version) :
    (versions.map Version.unmarked).map (·.code) = versions.map (·.code) := by
  rw [List.map_map]
  rfl

theorem Document.codes_publish (d : Document) (o : PublishOutcome) (user now : String) :
    (d.publish o user now).codes = d.codes ++ [o.draft.code] := by
  rw [codes, Document.versions_publish, List.map_append, ← map_code_unmarked,
    unmarked_publishedVersions, map_code_unmarked]
  rfl

/-- A turn keeps a document numbered. -/
theorem Turns.numbered {party : Party} {supply : Supply} {c : Change} {d d' : Document} {n : Nat}
    (h : Turns party supply c d d') (hn : d.Numbered n) : ∃ n', d'.Numbered n' := by
  cases h with
  | save _ _ _ coded _ =>
    rw [hn.latest] at coded
    exact ⟨n + 1, hn.add hn.latest_mem coded List.map_append rfl⟩
  | publish _ _ meant _ _ _ coded =>
    have hmem := List.mem_map_of_mem (f := (·.code)) (List.mem_of_find?_eq_some meant)
    exact ⟨n + 1, hn.add hmem coded (Document.codes_publish _ _ _ _) rfl⟩
  | update _ _ _ => exact ⟨n, hn.codes, hn.latest, hn.isWritable⟩
  | remove _ editable _ =>
    rw [Document.retire, if_neg editable]
    exact ⟨n, hn.codes, hn.latest, hn.isWritable⟩
  | removed _ _ => exact ⟨n, hn⟩

/-- Definitions to be founded expect the first code. -/
theorem Service.latest_of_founding (s : Service) {ms : List Move} {k : Nat} {f : Definition}
    (h : (s.run ms).founding k = some f) :
    f.latestVersionCode = some VersionCode.initial.text := by
  induction ms using List.reverseRecOn with
  | nil => cases h
  | append_singleton ms m ih =>
    rw [run_concat] at h
    rcases founding_step h with ⟨h, -⟩ | ⟨_, _, _, _, _, _, _, _, _, rfl⟩
    · exact ih h
    · rfl

/-- All documents of a run are numbered. -/
theorem Service.exists_numbered (s : Service) {ms : List Move} {d : Document}
    (hd : d ∈ (s.run ms).store.stored) : ∃ n, d.Numbered n := by
  induction ms using List.reverseRecOn generalizing d with
  | nil => cases hd
  | append_singleton ms m ih =>
    rw [run_concat] at hd
    rcases arises_of_mem (neat_run s ms) hd with hd | ⟨p, ha⟩
    · exact ih hd
    · cases ha with
      | founded _ waits _ _ _ => exact ⟨0, .first _ (s.latest_of_founding waits) rfl⟩
      | turned _ _ _ _ _ held turns _ =>
        obtain ⟨n, hn⟩ := ih (Store.mem_stored_of_at? held)
        exact turns.numbered hn

/-! ## Listing -/

/-- What is answered to a party that asks for the versions of a document. -/
def Document.listing (d : Document) (party : Party) (id : String) : Except Refusal (List Version) :=
  if d.toJson.isReadable then
    if d.definition.readableBy party then .ok d.versions.reverse else .error (.noDefinition id)
  else .error (.unreadable Stored.unparsable)

/-- A party that may read a document gets its versions, the last one first, if it can be read. -/
theorem Store.result_listVersions {s : Store} {id : String} {p : Place} {d : Document}
    (hp : s.folder.placeOf id = .ok p) (hd : s.at? p = some (.document d)) (party : Party) :
    (s.listVersions party id).result = d.listing party id := by
  have hload := load_of_at? hp hd
  unfold Document.listing
  cases hr : d.toJson.isReadable with
  | true =>
    rw [hr, if_pos rfl] at hload
    have hdocument : (s.readDocument party id).result = readable party id (some d) := by
      rw [readDocument, Traced.result_bind_of_ok (loaded_eq_ok.2 hload), Traced.result_ofExcept]
    rw [if_pos rfl, listVersions, Traced.result_bind, hdocument, readable]
    cases d.definition.readableBy party <;> rfl
  | false =>
    rw [hr, if_neg Bool.false_ne_true] at hload
    have hloaded : (Traced.ofExcept (s.loaded id)).result =
        .error (.unreadable Stored.unparsable) := by
      rw [Traced.result_ofExcept, loaded, hload]
      rfl
    have hdocument : (s.readDocument party id).result = .error (.unreadable Stored.unparsable) := by
      rw [readDocument, Traced.result_bind_of_error hloaded]
    rw [if_neg Bool.false_ne_true, listVersions, Traced.result_bind_of_error hdocument]

theorem Document.Extends.codes {d d' : Document} (h : d'.Extends d) : d.codes <+: d'.codes := by
  have hcodes := h.versions.map (·.code)
  rwa [map_code_unmarked, map_code_unmarked] at hcodes

/-- **Versions are numbered in order.** In every schedule in which no two units of work for one
place overlap, each document that is stored has one version at least, and the codes of its versions
are `1.0.0`, `1.0.1` and so on in the order in which they are stored, without a gap and none of them
twice; the last of them is the latest code. Who may read the document gets its versions in strictly
decreasing order, unless it cannot be read back, and others are told that there is none. Whatever is
done next, the document keeps these codes, and any further ones come after them. -/
theorem numbered_unless_unreadable (s : Service) (as : List Action) (ho : s.IsOrderly as)
    (d : Document) (hd : d ∈ (s.situation as).store.stored) :
    ∃ n, d.versions.length = n + 1 ∧
      d.codes = (List.range (n + 1)).map (fun k => "1.0." ++ toString k) ∧
      d.definition.latestVersionCode = some ("1.0." ++ toString n) ∧
      d.codes.Nodup ∧ (d.versions.reverse.map (·.code)).Pairwise VersionCode.IsAbove ∧
      (∀ party id, s.folder.placeOf id = s.folder.placeOf d.definition.id →
        ((s.situation as).store.listVersions party id).result = d.listing party id) ∧
      (∀ as', Action.Drawn (as ++ as') → s.IsOrderly (as ++ as') →
        ∃ d' ∈ (s.situation (as ++ as')).store.stored,
          d'.definition.id = d.definition.id ∧ d.codes <+: d'.codes) := by
  have hrun := hd
  rw [← Service.store_serial ho] at hrun
  obtain ⟨n, hn⟩ := s.exists_numbered hrun
  refine ⟨n, hn.length_versions, ?_, ?_, ?_, ?_, ?_, ?_⟩
  · rw [hn.codes, VersionCode.codesUpTo]
    exact List.map_congr_left fun k _ => VersionCode.text_nth k
  · rw [hn.latest, VersionCode.text_nth]
  · rw [hn.codes]
    exact VersionCode.nodup_codesUpTo n
  · have habove := VersionCode.isAbove_codesUpTo hn.isWritable
    rwa [← hn.codes, Document.codes, ← List.map_reverse] at habove
  · intro party id hid
    obtain ⟨p, hp, hat⟩ := (Service.neat_situation ho).mem_stored_iff.1 hd
    rw [Service.folder_situation ho, ← hid, ← Service.folder_situation ho] at hp
    exact Store.result_listVersions hp hat party
  · intro as' hdrawn ho'
    obtain ⟨d', hd', hext⟩ := hdrawn.exists_extends ho' hd
    exact ⟨d', hd', hext.id, hext.codes⟩

/-- The draft after an old version that is published once more gets the number after the highest. -/
theorem numbered_unless_unreadable_republished :
    let as := Sample.moves.flatMap Move.actions
    let as' := Sample.again.flatMap Move.actions
    Sample.service.IsOrderly as ∧ ∃ d ∈ (Sample.service.situation as).store.stored,
      d.codes = ["1.0.0", "1.0.1", "1.0.2"] ∧
      d.definition.latestVersionCode = some "1.0.2" ∧
      ((Sample.service.situation as).store.listVersions Sample.owner "definition-0").result =
        .ok d.versions.reverse ∧
      (d.versions.reverse.map (·.code)).Pairwise VersionCode.IsAbove ∧
      ∃ d' ∈ (Sample.service.situation (as ++ as')).store.stored,
        d'.codes = ["1.0.0", "1.0.1", "1.0.2", "1.0.3"] ∧ d.codes <+: d'.codes := by
  have horderly := Sample.service.isOrderly_actions Sample.moves
  have horderly' := Sample.service.isOrderly_actions (Sample.moves ++ Sample.again)
  have hdrawn : Drawn (Sample.moves ++ Sample.again) := ⟨by decide +kernel, by decide +kernel⟩
  have hdrawn := hdrawn.actions
  have hfound : ∃ d ∈ (Sample.service.run Sample.moves).store.stored, d.versions.length = 3 ∧
      d.definition.id = "definition-0" ∧ d.toJson.isReadable = true ∧
      d.definition.readableBy Sample.owner = true := by
    decide +kernel
  have hlater : ∀ d ∈ (Sample.service.run (Sample.moves ++ Sample.again)).store.stored,
      d.codes = ["1.0.0", "1.0.1", "1.0.2", "1.0.3"] := by
    decide +kernel
  rw [← Service.store_situation_actions] at hfound hlater
  rw [List.flatMap_append] at hdrawn horderly' hlater
  obtain ⟨d, hd, hthree, hid, hreadable, hread⟩ := hfound
  obtain ⟨n, hlength, hcodes, hlatest, -, habove, hlist, hnext⟩ :=
    numbered_unless_unreadable Sample.service (Sample.moves.flatMap Move.actions) horderly d hd
  obtain rfl : n = 2 := by omega
  have hresult := hlist Sample.owner "definition-0" (by rw [hid])
  rw [Document.listing, if_pos hreadable, if_pos hread] at hresult
  obtain ⟨d', hd', -, hprefix⟩ := hnext (Sample.again.flatMap Move.actions) hdrawn horderly'
  exact ⟨horderly, d, hd, hcodes.trans (by decide), hlatest, hresult, habove, d', hd',
    hlater d' hd', hprefix⟩

/-- A document whose last version is too deep has its versions in order, but nobody gets them. And a
code is given again where units of work for one place overlap. -/
theorem unlisted_of_deep :
    (Action.Drawn Sample.deepening ∧ Sample.service.IsOrderly Sample.deepening ∧
      ∃ d ∈ (Sample.service.situation Sample.deepening).store.stored,
        d.codes = ["1.0.0", "1.0.1"] ∧ d.definition.readableBy Sample.owner = true ∧
        ((Sample.service.situation Sample.deepening).store.listVersions Sample.owner
          d.definition.id).result = .error (.unreadable Stored.unparsable)) ∧
    Action.Drawn Sample.overlapping ∧
      ∃ d ∈ (Sample.service.situation (Sample.overlapping.take 10)).store.stored,
      ∃ d' ∈ (Sample.service.situation Sample.overlapping).store.stored,
        d'.definition.id = d.definition.id ∧ ∃ v ∈ d.versions, ∃ v' ∈ d'.versions,
          v'.id ≠ v.id ∧ v'.code = "1.0.1" ∧ v.code = "1.0.1" := by
  refine ⟨⟨⟨?_, ?_⟩, Sample.service.isOrderly_actions _, ?_⟩, ⟨?_, ?_⟩, ?_⟩ <;> decide +kernel

end WorkflowRelease
