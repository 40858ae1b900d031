import WorkflowRelease.Workflow.Snapshot

/-!
# Reading what was written

A reader reads many values as the same thing. What it has read is written in one way, and from that
it is read again (`Reader.Rereads`), also as an element of a list and as an optional value. A field
is then read again as what it was, under its name in a document (`Fields.read_again`,
`Fields.readOr_again`, `Fields.readOption_again`).
-/

namespace WorkflowRelease

/-! ## Look-ups in written entries -/

namespace Fields

@[simp] theorem get?_append (o o' : Fields) (key : String) :
    get? (o ++ o') key = (o.get? key).or (o'.get? key) := by
  induction o with
  | nil => rfl
  | cons e o ih =>
    obtain ⟨k, v⟩ := e
    rw [List.cons_append, get?_cons, get?_cons, ih]
    by_cases h : k = key <;> simp [h]

@[simp] theorem get?_optionalField (name key : String) (v : Option Json) :
    get? (optionalField name v) key = if name = key then v else none := by
  cases v with
  | none => simp [optionalField]
  | some v => rw [optionalField, get?_cons, get?_nil]

theorem mem_of_get? {o : Fields} {key : String} {v : Json} (h : o.get? key = some v) :
    (key, v) ∈ o := by
  obtain ⟨before, after, rfl, -⟩ := List.lookup_eq_some_iff.1 h
  simp

theorem get?_filter_of_none {o : Fields} {key : String} (h : o.get? key = none)
    (p : String × Json → Bool) : get? (o.filter p) key = none := by
  rw [get?, List.lookup_eq_none_iff] at h ⊢
  exact fun e he => h e (List.mem_filter.1 he).1

@[simp] theorem get?_erase_self (o : Fields) (key : String) : (o.erase key).get? key = none := by
  rw [get?, List.lookup_eq_none_iff]
  intro e he
  have hne := (List.mem_filter.1 he).2
  exact bne_iff_ne.2 fun heq => by simp [heq] at hne

theorem erase_of_get?_none {o : Fields} {key : String} (h : o.get? key = none) :
    o.erase key = o := by
  rw [get?, List.lookup_eq_none_iff] at h
  refine List.filter_eq_self.2 fun e he => ?_
  have hne := h e he
  simp only [bne_iff_ne, ne_eq] at hne
  simpa using fun heq => hne heq.symm

/-- The objects have the same entries, but what is `null` in one may be missing in the other. -/
def Agrees (o o' : Fields) : Prop :=
  ∀ key, (o.get? key).getD .null = (o'.get? key).getD .null

theorem Agrees.refl (o : Fields) : o.Agrees o := fun _ => rfl

theorem Agrees.get?_eq_some {o o' : Fields} (h : o.Agrees o') {key : String} {v : Json}
    (hv : o'.get? key = some v) (hne : v ≠ .null) : o.get? key = some v := by
  have hkey := h key
  rw [hv, Option.getD_some] at hkey
  cases hget : o.get? key with
  | none =>
    rw [hget] at hkey
    exact absurd hkey.symm hne
  | some v' =>
    rw [hget] at hkey
    exact congrArg some hkey

end Fields

/-! ## Readers -/

namespace Reader

variable {α : Type} {r : Reader α} {write : α → Json}

/-- What the reader has read is read again from what it is written as, and that is not `null`
unless `null` was read. -/
structure Rereads (r : Reader α) (write : α → Json) : Prop where
  again : ∀ {v a}, r v = .valid a → r (write a) = .valid a
  null : ∀ {v a}, r v = .valid a → write a = .null → v = .null

theorem rereads_text : Rereads text .text where
  again _ := rfl
  null _ h := by cases h

/-- What passes a test is read, and nothing else. -/
theorem refine_eq_valid_iff {test : α → Option Cause} {v : Json} {a : α} :
    refine r test v = .valid a ↔ r v = .valid a ∧ test a = none := by
  rw [refine, Checked.andThen_eq_valid_iff]
  constructor
  · rintro ⟨b, hb, ht⟩
    cases htest : test b with
    | none =>
      rw [htest] at ht
      cases ht
      exact ⟨hb, htest⟩
    | some c =>
      rw [htest] at ht
      cases ht
  · rintro ⟨ha, htest⟩
    exact ⟨a, ha, by rw [htest]⟩

/-- A test is passed again. -/
theorem Rereads.refine (h : Rereads r write) (test : α → Option Cause) :
    Rereads (refine r test) write where
  again hv := by
    obtain ⟨hr, ht⟩ := refine_eq_valid_iff.1 hv
    exact refine_eq_valid_iff.2 ⟨h.again hr, ht⟩
  null hv hnull := h.null (refine_eq_valid_iff.1 hv).1 hnull

theorem rereads_nonempty : Rereads nonempty .text := rereads_text.refine _

theorem rereads_integer : Rereads integer .int where
  again _ := rfl
  null _ h := by cases h

theorem rereads_integerBetween (least most : Option Int) :
    Rereads (integerBetween least most) .int := rereads_integer.refine _

theorem rereads_boolean : Rereads boolean .bool where
  again _ := rfl
  null _ h := by cases h

theorem rereads_choice (α : Type) [LawfulChoice α] : Rereads (choice α) .word where
  again {v a} _ := by simp [choice, Json.word, Json.text?, Choice.ofWord?_word]
  null _ h := by cases h

theorem rereads_mapping : Rereads mapping .object where
  again _ := rfl
  null _ h := by cases h

theorem rereads_any : Rereads any id where
  again _ := rfl
  null hv h := by
    cases hv
    exact h

theorem optional_eq_valid_iff {v : Json} {a : Option α} : r.optional v = .valid a ↔
    v = .null ∧ a = none ∨ v ≠ .null ∧ ∃ b, r v = .valid b ∧ a = some b := by
  by_cases hv : v = .null
  · subst hv
    simp [optional, eq_comm]
  · have hopt : r.optional v = (r v).map some := by
      cases v <;> first | rfl | exact absurd rfl hv
    rw [hopt, Checked.map_eq_valid_iff]
    simp [hv, eq_comm]

/-- Nothing is written as `null`. -/
theorem Rereads.optional (h : Rereads r write) :
    Rereads r.optional fun a => (a.map write).getD .null := by
  constructor
  · intro v a hv
    rcases optional_eq_valid_iff.1 hv with ⟨-, rfl⟩ | ⟨hne, b, hb, rfl⟩
    · rfl
    · exact optional_eq_valid_iff.2 (.inr ⟨fun hnull => hne (h.null hb hnull), b, h.again hb, rfl⟩)
  · intro v a hv hnull
    rcases optional_eq_valid_iff.1 hv with ⟨hv, -⟩ | ⟨-, b, hb, rfl⟩
    · exact hv
    · exact h.null hb hnull

theorem Rereads.elements (h : Rereads r write) {items : List Json} {as : List α} {i : Nat}
    (hread : elements r i items = as.map .valid) :
    Reader.elements r i (as.map write) = as.map .valid := by
  induction items generalizing as i with
  | nil =>
    cases as with
    | nil => rfl
    | cons a as => cases hread
  | cons v vs ih =>
    cases as with
    | nil => cases hread
    | cons a as =>
      obtain ⟨hv, hvs⟩ := List.cons.inj hread
      have ha := h.again (Checked.under_eq_valid_iff.1 hv)
      simp only [List.map_cons, Reader.elements, ha, ih hvs, Checked.under]

theorem Rereads.list (h : Rereads r write) : Rereads (list r) fun as => .list (as.map write) := by
  constructor
  · intro v as hv
    cases v with
    | list items => exact Checked.all_eq_valid_iff.2 (h.elements (Checked.all_eq_valid_iff.1 hv))
    | _ => cases hv
  · intro v as _ hnull
    cases hnull

theorem record_eq_valid_iff {name : String} {read : Fields → Checked α} {v : Json} {a : α} :
    record name read v = .valid a ↔ ∃ o, v = .object o ∧ read o = .valid a := by
  cases v <;> simp [record, Checked.fault]

/-- A record is read again if its fields are. -/
theorem rereads_record {name : String} {read : Fields → Checked α} {write : α → Fields}
    (h : ∀ {o a}, read o = .valid a → read (write a) = .valid a) :
    Rereads (record name read) fun a => .object (write a) := by
  constructor
  · intro v a hv
    obtain ⟨o, -, ho⟩ := record_eq_valid_iff.1 hv
    exact h ho
  · intro v a _ hnull
    cases hnull

end Reader

/-! ## Fields -/

namespace Fields

variable {α : Type} {r : Reader α} {write : α → Json} {o o' : Fields} {name : String}
  {names : List String}

theorem findFirst_of_some {v : Json} (h : o.get? name = some v) :
    o.findFirst (name :: names) = some (name, v) := by
  simp [findFirst, h]

theorem mem_of_findFirst {e : String × Json} (h : o.findFirst names = some e) :
    e.1 ∈ names ∧ o.get? e.1 = some e.2 := by
  induction names with
  | nil => cases h
  | cons n names ih =>
    rw [findFirst] at h
    cases hget : o.get? n with
    | some v =>
      rw [hget] at h
      cases h
      exact ⟨List.mem_cons_self, hget⟩
    | none =>
      rw [hget] at h
      exact ⟨List.mem_cons_of_mem _ (ih h).1, (ih h).2⟩

theorem read_again (hr : r.Rereads write) {a : α} (h : o.read (name :: names) r = .valid a)
    (hw : o'.get? name = some (write a)) : o'.read (name :: names) r = .valid a := by
  have hv : ∃ v, r v = .valid a := by
    unfold read at h
    split at h
    · exact ⟨_, Checked.under_eq_valid_iff.1 h⟩
    · cases h
  obtain ⟨v, hv⟩ := hv
  simp [read, findFirst_of_some hw, hr.again hv, Checked.under]

theorem readOr_again (hr : r.Rereads write) {a fallback : α}
    (h : o.readOr (name :: names) fallback r = .valid a)
    (hfallback : r (write fallback) = .valid fallback) (hw : o'.get? name = some (write a)) :
    o'.readOr (name :: names) fallback r = .valid a := by
  have ha : r (write a) = .valid a := by
    unfold readOr at h
    split at h
    · exact hr.again (Checked.under_eq_valid_iff.1 h)
    · cases h
      exact hfallback
  simp [readOr, findFirst_of_some hw, ha, Checked.under]

theorem readOption_of_some {v : Json} (h : o.get? name = some v) :
    o.readOption (name :: names) r = (r.optional v).under (.key name) := by
  rw [readOption, readOr, findFirst_of_some h]

/-- Something is read iff the first name that is there has something that is read. -/
theorem readOption_eq_some_iff {a : α} : o.readOption names r = .valid (some a) ↔
    ∃ key v, o.findFirst names = some (key, v) ∧ v ≠ .null ∧ r v = .valid a := by
  unfold readOption readOr
  cases hf : o.findFirst names with
  | none => simp
  | some e =>
    obtain ⟨key, v⟩ := e
    simp only [Checked.under_eq_valid_iff, Reader.optional_eq_valid_iff, Option.some.injEq,
      Prod.mk.injEq]
    constructor
    · rintro (⟨-, hnone⟩ | ⟨hne, b, hb, rfl⟩)
      · cases hnone
      · exact ⟨key, v, ⟨rfl, rfl⟩, hne, hb⟩
    · rintro ⟨_, _, ⟨rfl, rfl⟩, hne, ha⟩
      exact .inr ⟨hne, a, ha, rfl⟩

/-- Nothing is read where there is nothing but `null`. -/
theorem readOption_of_null (h : ∀ n ∈ names, (o.get? n).getD .null = .null) :
    o.readOption names r = .valid none := by
  unfold readOption readOr
  cases hf : o.findFirst names with
  | none => rfl
  | some e =>
    obtain ⟨hn, hv⟩ := mem_of_findFirst hf
    have hnull := h e.1 hn
    rw [hv, Option.getD_some] at hnull
    dsimp only
    rw [hnull]
    rfl

theorem optional_of_readOption (hr : r.Rereads write) {a : Option α}
    (h : o.readOption names r = .valid a) : r.optional ((a.map write).getD .null) = .valid a := by
  unfold readOption readOr at h
  split at h
  · exact hr.optional.again (Checked.under_eq_valid_iff.1 h)
  · cases h
    rfl

/-- What is not set is left out or written as `null`. -/
theorem readOption_again (hr : r.Rereads write) {a : Option α}
    (h : o.readOption (name :: names) r = .valid a)
    (hw : (o'.get? name).getD .null = (a.map write).getD .null)
    (hnames : ∀ n ∈ names, (o'.get? n).getD .null = .null) :
    o'.readOption (name :: names) r = .valid a := by
  have ha := optional_of_readOption hr h
  rw [← hw] at ha
  cases hget : o'.get? name with
  | some v =>
    rw [hget, Option.getD_some] at ha
    rw [readOption_of_some hget, ha]
    rfl
  | none =>
    rw [hget, Option.getD_none] at ha
    rw [readOption_of_null (List.forall_mem_cons.2 ⟨by rw [hget]; rfl, hnames⟩)]
    exact ha

end Fields

end WorkflowRelease
