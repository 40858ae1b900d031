import WorkflowRelease.Proofs.Spelling

/-!
# Fresh codes

The draft after a publication gets the code after the one that is published, and where that is taken
the one after the highest code there is. Texts are compared as texts and codes by their numbers, so
that the new code is not taken because a taken text is read as the code that it is the text of, and
no code is above the highest. Main statement: `fresh_unless_exhausted`. A patch that is all nines
and as long as a number may be is the last one: `exhausted_unnumbered`.
-/

namespace WorkflowRelease

namespace Text

theorem digitsValue_lt (cs : List Char) : digitsValue cs < Nat.pow 10 cs.length := by
  induction cs using List.reverseRecOn with
  | nil => decide
  | append_singleton cs c ih =>
    have hdigit : (digitValue? c).getD 0 < 10 := by
      cases hc : digitValue? c with
      | none => decide
      | some d => exact digitValue?_lt hc
    rw [digitsValue_append, List.length_append, List.length_singleton]
    calc 10 * digitsValue cs + (digitValue? c).getD 0
      _ < 10 * (digitsValue cs + 1) := by omega
      _ ≤ 10 * Nat.pow 10 cs.length := Nat.mul_le_mul_left 10 ih
      _ = Nat.pow 10 (cs.length + 1) := Nat.mul_comm _ _

theorem digitsValue_lt_of_length_le {cs : List Char} {k : Nat} (h : cs.length ≤ k) :
    digitsValue cs < Nat.pow 10 k :=
  Nat.lt_of_lt_of_le (digitsValue_lt cs) (Nat.pow_le_pow_right (by decide) h)

end Text

namespace VersionCode

/-! ## What a fresh code is -/

/-- The digits are those that a number is usually written in, without zeros in front. -/
def IsPlain (cs : List Char) : Prop :=
  cs ≠ [] ∧ (∀ c ∈ cs, c.isDigit = true) ∧ (cs.head? = some '0' → cs = ['0'])

/-- The text is a code as it is usually written. -/
def IsCanonical (s : String) : Prop :=
  ∃ major minor patch, IsPlain major ∧ IsPlain minor ∧ IsPlain patch ∧
    s.toList = major ++ '.' :: (minor ++ '.' :: patch)

/-- The code comes after what is published, or is the first one if that is no code. -/
def Follows (published : String) (c : VersionCode) : Prop :=
  (∃ p, ofText? published = some p ∧ c = p.next) ∨ ofText? published = none ∧ c = initial

/-- The code is the highest one of those that are among the texts. -/
def IsHighest (existing : List String) (w : VersionCode) : Prop :=
  (∃ s ∈ existing, ofText? s = some w) ∧
    ∀ s ∈ existing, ∀ u, ofText? s = some u → u.le w = true

/-- The patch has as many digits as a number may have, and all of them are nines. -/
def IsLast (v : VersionCode) : Prop := v.patch + 1 = Nat.pow 10 digitLimit

/-- The code that would be next cannot be written. -/
def Exhausted (published : String) (existing : List String) : Prop :=
  (∃ p, ofText? published = some p ∧ p.IsLast) ∨
    ∃ c w, Follows published c ∧ c.text ∈ existing ∧ IsHighest existing w ∧ w.IsLast

/-! ## Texts and numbers -/

/-- A number is written without zeros in front. -/
theorem isPlain_toDigits (n : Nat) : IsPlain (Nat.toDigits 10 n) := by
  refine ⟨Nat.toDigits_ne_nil, fun c hc => Nat.isDigit_of_mem_toDigits (by decide) (by decide) hc,
    ?_⟩
  induction n using Nat.strongRecOn with
  | ind n ih =>
    rcases Nat.lt_or_ge n 10 with hlt | hge
    · rw [Nat.toDigits_of_lt_base hlt]
      intro hhead
      simpa using hhead
    · rw [Nat.toDigits_of_base_le (by decide) hge,
        List.head?_append_of_ne_nil _ Nat.toDigits_ne_nil]
      intro hhead
      -- what stands in front of the last digit would be a zero alone
      have hfront : Nat.toDigits 10 (n / 10) = Nat.toDigits 10 0 := ih (n / 10) (by omega) hhead
      have hzero : n / 10 = 0 := by
        rw [← Text.digitsValue_toDigits (n / 10), hfront, Text.digitsValue_toDigits]
      omega

theorem isCanonical_text (v : VersionCode) : IsCanonical v.text :=
  ⟨_, _, _, isPlain_toDigits _, isPlain_toDigits _, isPlain_toDigits _, toList_text v⟩

/-- Numbers that are read can be written. -/
theorem isWritable_of_ofText? {s : String} {v : VersionCode} (h : ofText? s = some v) :
    v.isWritable = true := by
  obtain ⟨⟨major, minor, patch, hrows, rfl⟩, hshort⟩ := ofText?_eq_some_iff_rows.1 h
  have hlt : ∀ row ∈ rows s, Text.digitsValue row < Nat.pow 10 digitLimit :=
    fun row hrow => Text.digitsValue_lt_of_length_le (hshort row hrow)
  simp only [hrows, List.forall_mem_cons] at hlt
  simp only [isWritable, Bool.and_eq_true, decide_eq_true_eq]
  exact ⟨⟨hlt.1, hlt.2.1⟩, hlt.2.2.1⟩

/-! ## The next code -/

/-- A code that can be written has a next one unless it is the last. -/
theorem next?_eq_none_iff {v : VersionCode} (h : v.isWritable = true) :
    v.next? = none ↔ v.IsLast := by
  simp only [isWritable, Bool.and_eq_true, decide_eq_true_eq] at h
  have hnext : v.next.isWritable = true ↔ v.patch + 1 < Nat.pow 10 digitLimit := by
    simp only [isWritable, Bool.and_eq_true, decide_eq_true_eq]
    exact and_iff_right h.1
  rw [next?, ite_eq_right_iff, IsLast]
  simp only [hnext, reduceCtorEq, imp_false]
  omega

theorem eq_next_of_next? {v w : VersionCode} (h : v.next? = some w) :
    w = v.next ∧ w.isWritable = true := by
  obtain ⟨hwritable, rfl⟩ := Option.ite_some_none_eq_some.1 h
  exact ⟨rfl, hwritable⟩

theorem follows_of_following {published : String} {c : VersionCode}
    (h : following (some published) = some c) : Follows published c ∧ c.isWritable = true := by
  rw [following, Option.bind_some] at h
  split at h
  · rename_i p hp
    obtain ⟨rfl, hwritable⟩ := eq_next_of_next? h
    exact ⟨.inl ⟨p, hp, rfl⟩, hwritable⟩
  · rename_i hp
    cases h
    exact ⟨.inr ⟨hp, rfl⟩, by decide +kernel⟩

theorem following_eq_none_iff {published : String} :
    following (some published) = none ↔ ∃ p, ofText? published = some p ∧ p.IsLast := by
  rw [following, Option.bind_some]
  split
  · rename_i p hp
    simp [hp, next?_eq_none_iff (isWritable_of_ofText? hp)]
  · rename_i hp
    simp [hp]

theorem following_of_follows {published : String} {c : VersionCode} (h : Follows published c)
    (hleft : following (some published) ≠ none) : following (some published) = some c := by
  rw [following, Option.bind_some] at hleft ⊢
  rcases h with ⟨p, hp, rfl⟩ | ⟨hp, rfl⟩
  · rw [hp] at hleft ⊢
    obtain ⟨c, hc⟩ := Option.ne_none_iff_exists'.1 hleft
    rw [hc, (eq_next_of_next? hc).1]
  · rw [hp]

/-- Where a code is taken there is a highest one. -/
theorem isHighest_highest {existing : List String} {s : String} {c : VersionCode}
    (hs : s ∈ existing) (hc : ofText? s = some c) :
    IsHighest existing (highest (existing.filterMap ofText?)) := by
  have hmem : ∀ {t u}, t ∈ existing → ofText? t = some u → u ∈ existing.filterMap ofText? :=
    fun ht hu => List.mem_filterMap.2 ⟨_, ht, hu⟩
  exact ⟨List.mem_filterMap.1 (highest_mem (List.ne_nil_of_mem (hmem hs hc))),
    fun t ht u hu => le_highest (hmem ht hu)⟩

theorem IsHighest.isWritable {existing : List String} {w : VersionCode}
    (h : IsHighest existing w) : w.isWritable = true := by
  obtain ⟨s, -, hs⟩ := h.1
  exact isWritable_of_ofText? hs

theorem IsHighest.eq_of_isHighest {existing : List String} {v w : VersionCode}
    (hv : IsHighest existing v) (hw : IsHighest existing w) : v = w := by
  obtain ⟨⟨s, hs, hv⟩, hvmax⟩ := hv
  obtain ⟨⟨t, ht, hw⟩, hwmax⟩ := hw
  exact le_antisymm (hwmax s hs v hv) (hvmax t ht w hw)

/-! ## The code of a new draft -/

variable {published : String} {existing : List String} {v : VersionCode}

/-- A new draft gets the code that follows, or the one after the highest where that is taken. -/
theorem successor_cases (h : successor (some published) existing = some v) :
    v.isWritable = true ∧
      (Follows published v ∧ v.text ∉ existing ∨
        ∃ c w, Follows published c ∧ c.text ∈ existing ∧ ofText? c.text = some c ∧
          IsHighest existing w ∧ v = w.next) := by
  rw [successor, Option.bind_eq_bind, Option.bind_eq_some_iff] at h
  obtain ⟨c, hc, h⟩ := h
  obtain ⟨hfollows, hwritable⟩ := follows_of_following hc
  split at h
  · rename_i htaken
    have hread := ofText?_text hwritable
    obtain ⟨rfl, hv⟩ := eq_next_of_next? h
    exact ⟨hv, .inr ⟨c, _, hfollows, htaken, hread, isHighest_highest htaken hread, rfl⟩⟩
  · rename_i hfree
    cases h
    exact ⟨hwritable, .inl ⟨hfollows, hfree⟩⟩

/-- A code that follows is above what is published. -/
theorem lt_of_follows {p c : VersionCode} (h : Follows published c)
    (hp : ofText? published = some p) : p.lt c = true := by
  rcases h with ⟨p', hp', rfl⟩ | ⟨hp', -⟩
  · obtain rfl : p = p' := by simpa [hp] using hp'
    exact lt_next p
  · rw [hp] at hp'
    cases hp'

/-- The code after the highest is not taken. -/
theorem next_not_mem_of_isHighest {w : VersionCode} (h : IsHighest existing w)
    (hwritable : w.next.isWritable = true) : w.next.text ∉ existing := by
  intro hmem
  have hle := h.2 _ hmem _ (ofText?_text hwritable)
  have hlt := lt_of_lt_of_le (lt_next w) hle
  rw [lt, le_refl] at hlt
  cases hlt

theorem successor_eq_none_iff :
    successor (some published) existing = none ↔ Exhausted published existing := by
  rw [successor, Option.bind_eq_bind]
  constructor
  · intro h
    cases hc : following (some published) with
    | none => exact .inl (following_eq_none_iff.1 hc)
    | some c =>
      obtain ⟨hfollows, hwritable⟩ := follows_of_following hc
      rw [hc, Option.bind_some] at h
      split at h
      · rename_i htaken
        have hw := isHighest_highest htaken (ofText?_text hwritable)
        exact .inr ⟨c, _, hfollows, htaken, hw, (next?_eq_none_iff hw.isWritable).1 h⟩
      · cases h
  · intro h
    by_cases hleft : following (some published) = none
    · rw [hleft, Option.bind_none]
    · rcases h with hlast | ⟨c, w, hfollows, htaken, hw, hlast⟩
      · exact absurd (following_eq_none_iff.2 hlast) hleft
      · have hc := following_of_follows hfollows hleft
        have hread := ofText?_text (follows_of_following hc).2
        rw [hc, Option.bind_some, if_pos htaken,
          (isHighest_highest htaken hread).eq_of_isHighest hw]
        exact (next?_eq_none_iff hw.isWritable).2 hlast

end VersionCode

open VersionCode

/-- **A new draft gets a fresh code.** For every text that is published and all texts that exist,
the code after it is written as codes usually are, is none of the texts, is read back as the
numbers it is written for, and is above what is published. It is the code that follows, or the one
after the highest. There is none iff the code that would be next has too many digits. -/
theorem fresh_unless_exhausted (published : String) (existing : List String) :
    (successor (some published) existing = none ↔ Exhausted published existing) ∧
    ∀ v, successor (some published) existing = some v →
      IsCanonical v.text ∧ v.text ∉ existing ∧ ofText? v.text = some v ∧
        (∀ p, ofText? published = some p → p.lt v = true) ∧
        (Follows published v ∨ ∃ w, IsHighest existing w ∧ v = w.next) := by
  refine ⟨successor_eq_none_iff, fun v h => ?_⟩
  obtain ⟨hwritable, hcases⟩ := successor_cases h
  refine ⟨isCanonical_text v, ?_, ofText?_text hwritable, ?_, ?_⟩
  · rcases hcases with ⟨-, hfree⟩ | ⟨c, w, -, -, -, hw, rfl⟩
    · exact hfree
    · exact next_not_mem_of_isHighest hw hwritable
  · intro p hp
    rcases hcases with ⟨hfollows, -⟩ | ⟨c, w, hfollows, htaken, hread, hw, rfl⟩
    · exact lt_of_follows hfollows hp
    · -- the code that follows is taken, and so it is not above the highest
      have hle : c.le w.next = true :=
        le_trans (hw.2 _ htaken _ hread) (le_of_lt (lt_next w))
      exact lt_of_lt_of_le (lt_of_follows hfollows hp) hle
  · rcases hcases with ⟨hfollows, -⟩ | ⟨c, w, -, -, -, hw, rfl⟩
    · exact .inl hfollows
    · exact .inr ⟨w, hw, rfl⟩

/-- The next code is taken, and the highest one is written with zeros in front. A text that is no
code but for those zeros is not taken for the new code. -/
theorem fresh_unless_exhausted_crowded :
    successor (some "1.0.0") ["1.0.0", "1.0.1", "draft", "1.0.0010", "1.0.9"] = some ⟨1, 0, 11⟩ ∧
      IsCanonical "1.0.11" ∧ "1.0.11" ∉ ["1.0.0", "1.0.1", "draft", "1.0.0010", "1.0.9"] ∧
      ofText? "1.0.11" = some ⟨1, 0, 11⟩ ∧ lt ⟨1, 0, 0⟩ ⟨1, 0, 11⟩ = true := by
  have hnew : successor (some "1.0.0") ["1.0.0", "1.0.1", "draft", "1.0.0010", "1.0.9"] =
      some ⟨1, 0, 11⟩ := by decide +kernel
  have htext : text ⟨1, 0, 11⟩ = "1.0.11" := by decide +kernel
  obtain ⟨hcanonical, hfree, hread, hlt, -⟩ :=
    (fresh_unless_exhausted "1.0.0" ["1.0.0", "1.0.1", "draft", "1.0.0010", "1.0.9"]).2 _ hnew
  rw [htext] at hcanonical hfree hread
  exact ⟨hnew, hcanonical, hfree, hread, hlt ⟨1, 0, 0⟩ (by decide +kernel)⟩

/-- After the last patch there is no code, though none is taken. -/
theorem exhausted_unnumbered :
    ofText? (text ⟨1, 0, Nat.pow 10 digitLimit - 1⟩) = some ⟨1, 0, Nat.pow 10 digitLimit - 1⟩ ∧
      successor (some (text ⟨1, 0, Nat.pow 10 digitLimit - 1⟩)) [] = none := by
  have hwritable : isWritable ⟨1, 0, Nat.pow 10 digitLimit - 1⟩ = true := by decide +kernel
  have hlast : ∀ k, Nat.pow 10 k - 1 + 1 = Nat.pow 10 k := fun k =>
    Nat.sub_add_cancel (Nat.pow_pos (by decide))
  have hread := ofText?_text hwritable
  exact ⟨hread, successor_eq_none_iff.2 (.inl ⟨_, hread, hlast digitLimit⟩)⟩

end WorkflowRelease
