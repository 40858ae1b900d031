import Mathlib.Algebra.Order.Floor.Div
import WorkflowRelease.Proofs.Unique

/-!
# Pages

The pages of a listing, one after the other, hold what answers the query, each definition once and
the latest change first. Main statement: `divided_in_pages`. `listed_otherwise` is what a listing
does not show although it is stored, or does not name although it can be read.
-/

namespace WorkflowRelease

/-! ## Pages of a list -/

namespace Page

variable {α : Type} {pages : Nat → Page α} {all : List α} {size : Int} {last : Nat} {a : α}

/-- The pages from the first one on divide the items: up to the last page they hold all items in
order, every page but the last one is full, and none is empty. There is nothing on later pages. -/
structure Divides (pages : Nat → Page α) (all : List α) (size : Int) (last : Nat) : Prop where
  joined : (List.range last).flatMap (fun i => (pages (i + 1)).items) = all
  filled : ∀ i, 1 ≤ i → i ≤ last → (pages i).items ≠ []
  full : ∀ i, 1 ≤ i → i < last → (pages i).items.length = size
  bounded : ∀ i, 1 ≤ i → (pages i).items.length ≤ size
  beyond : ∀ i, last < i → (pages i).items = []
  total : ∀ i, 1 ≤ i → (pages i).total = all.length

theorem Divides.mem_iff (h : Divides pages all size last) :
    a ∈ all ↔ ∃ i, 1 ≤ i ∧ a ∈ (pages i).items := by
  rw [← h.joined, List.mem_flatMap]
  constructor
  · rintro ⟨i, -, hi⟩
    exact ⟨i + 1, Nat.le_add_left 1 i, hi⟩
  · rintro ⟨i, hpos, hi⟩
    have hle : i ≤ last := Nat.le_of_not_lt fun hlt => by
      rw [h.beyond i hlt] at hi
      cases hi
    refine ⟨i - 1, List.mem_range.2 (by omega), ?_⟩
    rwa [Nat.sub_add_cancel hpos]

/-- Slices in a row make up a beginning. -/
theorem flatMap_slices (all : List α) (k n : Nat) :
    (List.range n).flatMap (fun i => (all.drop (i * k)).take k) = all.take (n * k) := by
  induction n with
  | zero => simp
  | succ n ih =>
    rw [List.range_succ, List.flatMap_append, ih, List.flatMap_singleton, Nat.succ_mul,
      List.take_add]

theorem items_of (all : List α) (i k : Nat) :
    (of all (i + 1 : Nat) k).items = (all.drop (i * k)).take k := by
  have hstart : ((i + 1 : Nat) - 1 : Int) * k = (i * k : Nat) := by
    rw [Nat.cast_succ, Int.add_sub_cancel, Nat.cast_mul]
  rw [of, hstart, Int.toNat_natCast, Int.toNat_natCast]

theorem length_items_of (all : List α) (i k : Nat) :
    (of all (i + 1 : Nat) k).items.length = min k (all.length - i * k) := by
  rw [items_of, List.length_take, List.length_drop]

/-- **The pages of a list** divide it. -/
theorem divides_of (all : List α) (hsize : 1 ≤ size) :
    ∃ last, Divides (fun i => of all i size) all size last := by
  obtain ⟨k, rfl⟩ := Int.eq_ofNat_of_zero_le (Int.le_trans Int.one_nonneg hsize)
  have hk : 0 < k := by omega
  -- the last page is the last one that starts before the end
  have hlast : ∀ i, i < all.length ⌈/⌉ k ↔ i * k < all.length := by
    intro i
    rw [← not_le, ceilDiv_le_iff_le_mul hk, not_le, Nat.mul_comm]
  refine ⟨all.length ⌈/⌉ k, ?_, fun i hpos hi => ?_, fun i hpos hi => ?_, fun i hpos => ?_,
    fun i hi => ?_, fun i _ => rfl⟩
  · simp only [items_of]
    rw [flatMap_slices]
    exact List.take_of_length_le (Nat.le_of_not_lt fun h => Nat.lt_irrefl _ ((hlast _).2 h))
  all_goals obtain ⟨j, rfl⟩ : ∃ j, i = j + 1 := ⟨i - 1, by omega⟩
  · have hstart := (hlast j).1 hi
    refine List.ne_nil_of_length_pos ?_
    rw [length_items_of]
    omega
  · have hnext := (hlast (j + 1)).1 hi
    rw [Nat.succ_mul] at hnext
    rw [length_items_of]
    omega
  · rw [length_items_of]
    omega
  · have hend := mt (hlast j).2 (Nat.not_lt.2 (Nat.le_of_lt_succ hi))
    refine List.eq_nil_of_length_eq_zero ?_
    rw [length_items_of]
    omega

end Page

/-! ## What answers a query -/

/-- The party wants the definition to be listed: it may see it, and everything that is given in the
query is so, where a keyword may stand in the name or in the id of the workflow. -/
structure Query.Wants (q : Query) (party : Party) (d : Definition) : Prop where
  covered : party = .user d.ownerUserId ∨ q.includePublic = true ∧ d.source = .isPublic
  mode : ∀ mode, q.mode = some mode → d.mode = mode
  usageMethod : ∀ usageMethod, q.usageMethod = some usageMethod → d.usageMethod = some usageMethod
  status : ∀ status, q.status = some status → d.status = status
  keyword : ∀ keyword, q.keyword = some keyword →
    let word := (Text.lower (Text.strip keyword)).toList
    word <:+: (Text.lower d.name).toList ∨ word <:+: (Text.lower d.workflowId).toList

namespace Query

variable {q : Query} {party : Party} {d : Definition}

theorem isFoundIn_iff {word : List Char} : isFoundIn word d = true ↔
    word <:+: (Text.lower d.name).toList ∨ word <:+: (Text.lower d.workflowId).toList := by
  rw [isFoundIn, Bool.or_eq_true, Text.occurs_iff, Text.occurs_iff]

/-- Whoever looks for no word looks for the empty one, which is everywhere. -/
theorem isFoundIn_word_iff : isFoundIn q.word d = true ↔
    ∀ keyword, q.keyword = some keyword →
      let word := (Text.lower (Text.strip keyword)).toList
      word <:+: (Text.lower d.name).toList ∨ word <:+: (Text.lower d.workflowId).toList := by
  rw [isFoundIn_iff, word]
  cases q.keyword with
  | none => simp
  | some keyword => simp

theorem covers_iff : q.covers party d = true ↔
    party = .user d.ownerUserId ∨ q.includePublic = true ∧ d.source = .isPublic := by
  rw [covers, Definition.isOwnedBy, Bool.or_eq_true, Bool.and_eq_true, decide_eq_true_eq,
    decide_eq_true_eq]

theorem matched_iff : q.matched party d = true ↔ q.Wants party d := by
  simp only [matched, Bool.and_eq_true, covers_iff, isFoundIn_word_iff, Option.all_eq_true,
    decide_eq_true_eq, and_assoc]
  constructor
  · rintro ⟨hcovered, hmode, husage, hstatus, hword⟩
    exact ⟨hcovered, hmode, husage, hstatus, hword⟩
  · intro h
    exact ⟨h.covered, h.mode, h.usageMethod, h.status, h.keyword⟩

/-- By default all is wanted that the party may read. -/
theorem wants_default_iff : ({} : Query).Wants party d ↔ d.readableBy party = true := by
  have hcovers : ({} : Query).covers party d = true ↔ d.readableBy party = true := by
    simp [covers, Definition.readableBy]
  rw [← hcovers, covers_iff]
  exact ⟨fun h => h.covered, fun h => ⟨h, by simp, by simp, by simp, by simp⟩⟩

end Query

/-! ## What is listed -/

namespace Store

variable {s : Store} {party : Party} {id : String} {d : Definition} {document : Document}

/-- The id is that of a definition on some page of what the party may read. -/
def Lists (s : Store) (party : Party) (id : String) : Prop :=
  ∃ (i : Nat) (page : Page Definition), 1 ≤ i ∧
    (s.list party { page := i }).result = .ok page ∧ ∃ d ∈ page.items, d.id = id

theorem Neat.nodup_definitions (h : s.Neat) : (s.documents.map (·.definition)).Nodup := by
  have hids : ((s.documents.map (·.definition)).map (·.id)).Nodup := by
    rw [List.map_map, h.documents_eq]
    exact h.nodup_ids.sublist (List.filter_sublist.map _)
  exact hids.of_map

theorem mem_matched {q : Query} : d ∈ s.matched q party ↔
    q.Wants party d ∧ ∃ document ∈ s.documents, document.definition = d := by
  rw [matched, List.mem_mergeSort, List.mem_filter, Query.matched_iff, List.mem_map, and_comm]

theorem nodup_matched (h : s.Neat) (q : Query) : (s.matched q party).Nodup :=
  (List.mergeSort_perm _ _).nodup_iff.2 (h.nodup_definitions.filter _)

theorem pairwise_matched (s : Store) (q : Query) (party : Party) :
    (s.matched q party).Pairwise fun d e => e.updatedAt ≤ d.updatedAt := by
  have htrans : ∀ a b c : Definition, a.notOlder b = true → b.notOlder c = true →
      a.notOlder c = true := by
    intro a b c hab hbc
    simp only [Definition.notOlder, decide_eq_true_eq] at hab hbc ⊢
    exact String.le_trans hbc hab
  have htotal : ∀ a b : Definition, (a.notOlder b || b.notOlder a) = true := by
    intro a b
    simp only [Definition.notOlder, Bool.or_eq_true, decide_eq_true_eq]
    exact String.le_total b.updatedAt a.updatedAt
  exact (List.pairwise_mergeSort htrans htotal _).imp of_decide_eq_true

theorem result_list (s : Store) (party : Party) (q : Query) :
    (s.list party q).result = .ok (.of (s.matched q party) q.page q.pageSize) := rfl

/-! ## What is read -/

theorem result_readDefinition_eq_ok_iff : (s.readDefinition party id).result = .ok d ↔
    ∃ document, s.load id = .ok (some document) ∧
      document.definition.readableBy party = true ∧ document.definition = d := by
  simp only [readDefinition, Traced.result_bind_eq_ok_iff, result_readDocument_eq_ok_iff,
    Traced.result_pure, Except.ok.injEq, and_assoc]

/-- What is loaded under an id has its own id lead to the same place. -/
theorem Neat.load_iff (h : s.Neat) : s.load id = .ok (some document) ↔
    document ∈ s.stored ∧ document.toJson.isReadable = true ∧
      s.folder.placeOf id = s.folder.placeOf document.definition.id := by
  rw [load_eq_some_iff, h.mem_stored_iff]
  constructor
  · rintro ⟨p, hid, hat, hr⟩
    have hp := h.located p _ hat
    exact ⟨⟨p, hp, hat⟩, hr, hid.trans hp.symm⟩
  · rintro ⟨⟨p, hp, hat⟩, hr, hid⟩
    exact ⟨p, hid.trans hp, hat, hr⟩

/-- What is listed is found and may be read. -/
theorem Neat.lists_iff (h : s.Neat) : s.Lists party id ↔
    ∃ document ∈ s.stored, document.isFound s.folder = true ∧
      document.definition.readableBy party = true ∧ document.definition.id = id := by
  obtain ⟨last, hpages⟩ := Page.divides_of (s.matched {} party) (show (1 : Int) ≤ 20 by decide)
  have hlisted : s.Lists party id ↔ ∃ d ∈ s.matched {} party, d.id = id := by
    simp only [hpages.mem_iff]
    constructor
    · rintro ⟨i, page, hpos, hpage, d, hd, hid⟩
      cases (s.result_list party { page := i }).symm.trans hpage
      exact ⟨d, ⟨i, hpos, hd⟩, hid⟩
    · rintro ⟨d, ⟨i, hpos, hd⟩, hid⟩
      exact ⟨i, _, hpos, s.result_list party { page := i }, d, hd, hid⟩
  rw [hlisted]
  simp only [mem_matched, Query.wants_default_iff, h.mem_documents_iff]
  constructor
  · rintro ⟨_, ⟨hread, document, ⟨hstored, hfound⟩, rfl⟩, hid⟩
    exact ⟨document, hstored, hfound, hread, hid⟩
  · rintro ⟨document, hstored, hfound, hread, hid⟩
    exact ⟨_, ⟨hread, document, ⟨hstored, hfound⟩, rfl⟩, hid⟩

/-- Inside the folder, an id is listed iff it reads a definition and is the id of that. -/
theorem Neat.lists_iff_read (h : s.Neat) : s.Lists party id ↔ s.folder.leadsInside id = true ∧
    ∃ d, (s.readDefinition party id).result = .ok d ∧ d.id = id := by
  simp only [h.lists_iff, result_readDefinition_eq_ok_iff, h.load_iff, Document.isFound,
    Bool.and_eq_true]
  constructor
  · rintro ⟨document, hstored, ⟨hinside, hr⟩, hread, rfl⟩
    exact ⟨hinside, _, ⟨document, ⟨hstored, hr, rfl⟩, hread, rfl⟩, rfl⟩
  · rintro ⟨hinside, _, ⟨document, ⟨hstored, hr, -⟩, hread, rfl⟩, rfl⟩
    exact ⟨document, hstored, ⟨hinside, hr⟩, hread, rfl⟩

/-- Inside the folder, what an id reads is listed, under an id that leads to the same place. -/
theorem Neat.read_iff_lists (h : s.Neat) (hinside : s.folder.leadsInside id = true) :
    (∃ d, (s.readDefinition party id).result = .ok d) ↔
      ∃ k, s.Lists party k ∧ s.folder.placeOf k = s.folder.placeOf id := by
  simp only [h.lists_iff, result_readDefinition_eq_ok_iff, h.load_iff, Document.isFound,
    Bool.and_eq_true]
  constructor
  · rintro ⟨_, document, ⟨hstored, hr, hplace⟩, hread, rfl⟩
    rw [Folder.leadsInside, hplace] at hinside
    exact ⟨_, ⟨document, hstored, ⟨hinside, hr⟩, hread, rfl⟩, hplace.symm⟩
  · rintro ⟨_, ⟨document, hstored, ⟨-, hr⟩, hread, rfl⟩, hplace⟩
    exact ⟨_, document, ⟨hstored, hr, hplace.symm⟩, hread, rfl⟩

theorem result_listAudits (h : s.load id = .ok (some document))
    (hread : document.definition.readableBy party = true) {page size : Int} (hpage : 1 ≤ page)
    (hsize : 1 ≤ size) :
    (s.listAudits party id page size).result = .ok (.of document.audits.reverse page size) := by
  have hdocument := result_readDocument_eq_ok_iff.2 ⟨h, hread⟩
  have hrequired : (Traced.require (1 ≤ page && 1 ≤ size) .pageNotPositive).result = .ok () := by
    rw [Traced.result_require_eq_ok_iff, decide_eq_true hpage, decide_eq_true hsize, Bool.and_true]
  rw [listAudits, Traced.result_bind_of_ok hrequired, Traced.result_bind_of_ok hdocument]
  rfl

end Store

/-- **Pages.** Whatever the query of a party and the size of pages, the pages of a listing divide
the definitions that the party wants, among those that are found, with none twice and the latest
change first. With the default query an id is listed iff it leads inside the folder and the party
reads a definition of this very id with it. Other ids with which it can read something there lead to
the place of a listed one, and if all ids are names, there are none. The pages of the audits of what
the party can read divide all audits, the newest first. -/
theorem divided_in_pages {s : Store} (h : s.Neat) (party : Party) :
    (∀ q : Query, 1 ≤ q.pageSize → ∃ all pages last,
      (∀ i : Nat, 1 ≤ i → (s.list party { q with page := i }).result = .ok (pages i)) ∧
      Page.Divides pages all q.pageSize last ∧
      all.Pairwise (fun d e => e.updatedAt ≤ d.updatedAt) ∧ all.Nodup ∧
      ∀ d, d ∈ all ↔ q.Wants party d ∧
        ∃ document ∈ s.stored, document.isFound s.folder = true ∧ document.definition = d) ∧
    (∀ id, s.Lists party id ↔ s.folder.leadsInside id = true ∧
      ∃ d, (s.readDefinition party id).result = .ok d ∧ d.id = id) ∧
    (∀ id, s.folder.leadsInside id = true →
      ((∃ d, (s.readDefinition party id).result = .ok d) ↔
        ∃ k, s.Lists party k ∧ s.folder.placeOf k = s.folder.placeOf id)) ∧
    ((∀ document ∈ s.stored, IsName document.definition.id) → ∀ id, IsName id →
      (s.Lists party id ↔ ∃ d, (s.readDefinition party id).result = .ok d)) ∧
    ∀ id document, s.load id = .ok (some document) →
      document.definition.readableBy party = true → ∀ size : Int, 1 ≤ size → ∃ pages last,
        (∀ i : Nat, 1 ≤ i → (s.listAudits party id i size).result = .ok (pages i)) ∧
        Page.Divides pages document.audits.reverse size last := by
  refine ⟨fun q hsize => ?_, fun id => h.lists_iff_read, fun id => h.read_iff_lists,
    fun hnames id hid => ?_, fun id document hload hread size hsize => ?_⟩
  · obtain ⟨last, hpages⟩ := Page.divides_of (s.matched q party) hsize
    refine ⟨s.matched q party, _, last, fun i _ => s.result_list party { q with page := i }, hpages,
      s.pairwise_matched q party, Store.nodup_matched h q, fun d => ?_⟩
    simp only [Store.mem_matched, h.mem_documents_iff, and_assoc]
  · rw [h.read_iff_lists (hid.leadsInside s.folder)]
    refine ⟨fun hlisted => ⟨id, hlisted, rfl⟩, ?_⟩
    rintro ⟨k, hlisted, hplace⟩
    obtain ⟨document, hstored, -, -, rfl⟩ := h.lists_iff.1 hlisted
    exact (hnames document hstored).eq_of_place hid hplace ▸ hlisted
  · obtain ⟨last, hpages⟩ := Page.divides_of document.audits.reverse hsize
    exact ⟨_, last, fun i hpos => Store.result_listAudits hload hread (by omega) hsize, hpages⟩

/-- After two publications, the owner sees the definition on a page of its own, and its two audits,
and a guest sees nothing. -/
theorem divided_in_pages_published :
    let s := (Sample.service.run Sample.moves).store
    s.Neat ∧ s.Lists (.user "owner") "definition-0" ∧ ¬s.Lists Sample.guest "definition-0" ∧
    ∃ document, s.load "definition-0" = .ok (some document) ∧ document.audits.length = 2 ∧
      (∃ all pages last, (∀ i : Nat, 1 ≤ i →
          (s.list (.user "owner") { pageSize := 1, page := i }).result = .ok (pages i)) ∧
        Page.Divides pages all 1 last ∧ document.definition ∈ all) ∧
      ∃ pages last, (∀ i : Nat, 1 ≤ i →
          (s.listAudits (.user "owner") "definition-0" i 1).result = .ok (pages i)) ∧
        Page.Divides pages document.audits.reverse 1 last := by
  intro s
  have hneat : s.Neat := Service.neat_run _ _
  have hnames : ∀ document ∈ s.stored, IsName document.definition.id := by decide +kernel
  have hname : IsName "definition-0" := by decide +kernel
  obtain ⟨document, hstored, haudits, hr, hid, howner, hguest⟩ : ∃ document ∈ s.stored,
      document.audits.length = 2 ∧ document.toJson.isReadable = true ∧
      document.definition.id = "definition-0" ∧
      document.definition.readableBy (.user "owner") = true ∧
      document.definition.readableBy Sample.guest = false := by
    decide +kernel
  have hload : s.load "definition-0" = .ok (some document) :=
    hneat.load_iff.2 ⟨hstored, hr, by rw [hid]⟩
  obtain ⟨hpages, -, -, hlists, haudited⟩ := divided_in_pages hneat (.user "owner")
  obtain ⟨-, -, -, hnone, -⟩ := divided_in_pages hneat Sample.guest
  obtain ⟨all, pages, last, hlist, hdivides, -, -, hall⟩ := hpages { pageSize := 1 } (by decide)
  refine ⟨hneat, (hlists hnames _ hname).2 ?_, fun h => ?_, document, hload, haudits,
    ⟨all, pages, last, hlist, hdivides, (hall _).2 ⟨?_, document, hstored, ?_, rfl⟩⟩,
    haudited _ document hload howner 1 (by decide)⟩
  · exact ⟨_, Store.result_readDefinition_eq_ok_iff.2 ⟨document, hload, howner, rfl⟩⟩
  · obtain ⟨d, hd⟩ := (hnone hnames _ hname).1 h
    obtain ⟨e, he, hread, -⟩ := Store.result_readDefinition_eq_ok_iff.1 hd
    cases hload.symm.trans he
    rw [hguest] at hread
    cases hread
  · have hwants := Query.wants_default_iff.2 howner
    exact ⟨hwants.covered, hwants.mode, hwants.usageMethod, hwants.status, hwants.keyword⟩
  · rw [Document.isFound, hid, hname.leadsInside, hr, Bool.and_true]

/-- The owner of a definition that cannot be read back is not shown it. And what is shown under one
id can also be read with another one, which is not shown. -/
theorem listed_otherwise :
    (∃ document ∈ Sample.deepStore.stored,
      ({} : Query).Wants (.user "owner") document.definition ∧
      ¬Sample.deepStore.Lists (.user "owner") document.definition.id) ∧
    (∃ d, (Sample.shared.readDefinition (.user "owner") "./definition-0").result = .ok d) ∧
    ¬Sample.shared.Lists (.user "owner") "./definition-0" := by
  have hneat : Sample.deepStore.Neat := Service.neat_run _ _
  have hshared : Sample.shared.Neat := Service.neat_run _ _
  refine ⟨?_, ?_, fun h => ?_⟩
  · obtain ⟨document, hstored, hread, hnone⟩ : ∃ document ∈ Sample.deepStore.stored,
        document.definition.readableBy (.user "owner") = true ∧
        ∀ d ∈ Sample.deepStore.stored, d.toJson.isReadable = false := by
      decide +kernel
    refine ⟨document, hstored, Query.wants_default_iff.2 hread, fun h => ?_⟩
    obtain ⟨d, hd, hfound, -⟩ := hneat.lists_iff.1 h
    rw [Document.isFound, hnone d hd, Bool.and_false] at hfound
    cases hfound
  · obtain ⟨document, hstored, hr, hread, hid⟩ : ∃ document ∈ Sample.shared.stored,
        document.toJson.isReadable = true ∧
        document.definition.readableBy (.user "owner") = true ∧
        document.definition.id = "definition-0" := by
      decide +kernel
    have hplace : Sample.shared.folder.placeOf "./definition-0" =
        Sample.shared.folder.placeOf "definition-0" := by
      decide +kernel
    exact ⟨_, Store.result_readDefinition_eq_ok_iff.2
      ⟨document, hshared.load_iff.2 ⟨hstored, hr, hid ▸ hplace⟩, hread, rfl⟩⟩
  · obtain ⟨document, hstored, -, -, hid⟩ := hshared.lists_iff.1 h
    have hnone : ∀ d ∈ Sample.shared.stored, d.definition.id ≠ "./definition-0" := by
      decide +kernel
    exact hnone document hstored hid

end WorkflowRelease
