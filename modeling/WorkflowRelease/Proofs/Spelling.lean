import Mathlib.Data.List.Induction
import WorkflowRelease.Proofs.Codes

/-!
# Spellings of codes

A text spells a code when it consists of three numbers in decimal digits, of any script and with any
zeros in front, which single dots part. The reader takes these texts for codes, but also those that
a line break follows, and it refuses numbers of more than `digitLimit` digits. Main statements:
`spellsLine_iff_rows`, what a text is cut into is how it is spelled, and `read_iff_spelled`.
`misread` has the two ways in which reading and spelling differ.
-/

namespace WorkflowRelease

/-- The digits write the number, most significant first. -/
inductive Text.Writes : List Char → Nat → Prop
  | digit {c : Char} {d : Nat} (value : digitValue? c = some d) : Writes [c] d
  | more {cs : List Char} {n : Nat} {c : Char} {d : Nat} (front : Writes cs n)
      (value : digitValue? c = some d) : Writes (cs ++ [c]) (10 * n + d)

namespace VersionCode

open Text

/-- The text consists of the three numbers of the code and of single dots between them. -/
def Spells (cs : List Char) (v : VersionCode) : Prop :=
  ∃ major minor patch, Writes major v.major ∧ Writes minor v.minor ∧ Writes patch v.patch ∧
    cs = major ++ '.' :: (minor ++ '.' :: patch)

/-- The text spells the code, and one line break may follow. -/
def SpellsLine (s : String) (v : VersionCode) : Prop :=
  ∃ cs, Spells cs v ∧ (s.toList = cs ∨ s.toList = cs ++ ['\n'])

/-- More digits stand in a row in the text than a number may have. -/
def LongRow (row cs : List Char) : Prop :=
  row <:+: cs ∧ (∀ c ∈ row, isDigit c = true) ∧ digitLimit < row.length

/-! ## What is spelled -/

theorem rows_eq_nil_or (s : String) :
    rows s = [] ∨ ∃ major minor patch, rows s = [major, minor, patch] := by
  unfold rows
  split
  · split
    · exact .inr ⟨_, _, _, rfl⟩
    · exact .inl rfl
  · exact .inl rfl

/-- A row of digits writes its value and no other number. -/
theorem writes_iff {cs : List Char} {n : Nat} :
    Writes cs n ↔ isRow cs = true ∧ digitsValue cs = n := by
  constructor
  · intro h
    induction h with
    | digit value => simp [isRow_iff, isDigit, digitsValue, value]
    | @more cs n c d _ value ih =>
      have hdigits := (isRow_iff.1 ih.1).2
      refine ⟨isRow_iff.2 ⟨by simp, fun e he => ?_⟩, ?_⟩
      · rcases List.mem_append.1 he with he | he
        · exact hdigits e he
        · rw [List.mem_singleton.1 he, isDigit, value]
          rfl
      · rw [digitsValue_append, ih.2, value, Option.getD_some]
  · rintro ⟨hrow, rfl⟩
    induction cs using List.reverseRecOn with
    | nil => cases hrow
    | append_singleton cs c ih =>
      have hdigits := (isRow_iff.1 hrow).2
      obtain ⟨d, hd⟩ := Option.isSome_iff_exists.1 (hdigits c (by simp))
      rw [digitsValue_append, hd, Option.getD_some]
      cases cs with
      | nil => simpa using Writes.digit hd
      | cons e cs =>
        refine .more (ih (isRow_iff.2 ⟨by simp, fun x hx => ?_⟩)) hd
        exact hdigits x (List.mem_append_left _ hx)

/-- **What a text is cut into** is how it is spelled: a text that spells a code, alone or with a
line break behind it, has three rows, which write the numbers of the code. -/
theorem spellsLine_iff_rows {s : String} {v : VersionCode} :
    SpellsLine s v ↔ ∃ major minor patch, rows s = [major, minor, patch] ∧
      v = ⟨digitsValue major, digitsValue minor, digitsValue patch⟩ := by
  constructor
  · rintro ⟨cs, ⟨major, minor, patch, hmajor, hminor, hpatch, rfl⟩, hs⟩
    obtain ⟨hmajor, hmajorValue⟩ := writes_iff.1 hmajor
    obtain ⟨hminor, hminorValue⟩ := writes_iff.1 hminor
    obtain ⟨hpatch, hpatchValue⟩ := writes_iff.1 hpatch
    refine ⟨major, minor, patch, rows_eq_iff.2 ⟨⟨hmajor, hminor, hpatch⟩, hs⟩, ?_⟩
    rw [hmajorValue, hminorValue, hpatchValue]
  · rintro ⟨major, minor, patch, hrows, rfl⟩
    obtain ⟨⟨hmajor, hminor, hpatch⟩, hs⟩ := rows_eq_iff.1 hrows
    exact ⟨_, ⟨major, minor, patch, writes_iff.2 ⟨hmajor, rfl⟩, writes_iff.2 ⟨hminor, rfl⟩,
      writes_iff.2 ⟨hpatch, rfl⟩, rfl⟩, hs⟩

/-- A text that spells a code has digits and dots only. -/
theorem not_mem_of_spells {cs : List Char} {v : VersionCode} (h : Spells cs v) {c : Char}
    (hc : isDigit c = false) (hdot : c ≠ '.') : c ∉ cs := by
  obtain ⟨major, minor, patch, hmajor, hminor, hpatch, rfl⟩ := h
  have hrow : ∀ {row n}, Writes row n → c ∉ row :=
    fun h => not_mem_of_isRow (writes_iff.1 h).1 hc
  simp [hrow hmajor, hrow hminor, hrow hpatch, hdot]

/-! ## Long rows -/

/-- A part that a separator cannot be in lies on one side of it. -/
theorem infix_append_cons_iff {sep : Char} {row : List Char} (h : sep ∉ row) (xs ys : List Char) :
    row <:+: xs ++ sep :: ys ↔ row <:+: xs ∨ row <:+: ys := by
  constructor
  · intro hrow
    -- a row that crosses from the one side to the other would have the separator in it
    rcases List.infix_append_iff.1 hrow with hrow | hrow | ⟨l, r, rfl, hl, hr⟩
    · exact .inl hrow
    · rcases List.infix_cons_iff.1 hrow with hrow | hrow
      · cases row with
        | nil => exact .inl List.nil_infix
        | cons c row => exact absurd (by simp [(List.cons_prefix_cons.1 hrow).1]) h
      · exact .inr hrow
    · cases r with
      | nil => exact .inl (by simpa using hl.isInfix)
      | cons c r => exact absurd (by simp [(List.cons_prefix_cons.1 hr).1]) h
  · rintro (hrow | hrow)
    · exact hrow.trans (List.prefix_append xs _).isInfix
    · exact hrow.trans ((List.suffix_cons sep ys).trans (List.suffix_append xs _)).isInfix

theorem infix_toList_iff {s : String} {major minor patch row : List Char}
    (h : rows s = [major, minor, patch]) (hrow : ∀ c ∈ row, isDigit c = true) :
    row <:+: s.toList ↔ row <:+: major ∨ row <:+: minor ∨ row <:+: patch := by
  have hnot : ∀ {c}, isDigit c = false → c ∉ row := fun hc hmem => by simp [hrow _ hmem] at hc
  have hparts := infix_append_cons_iff (hnot (by decide : isDigit '.' = false))
  rcases (rows_eq_iff.1 h).2 with hs | hs
  · rw [hs, hparts, hparts]
  · rw [hs, infix_append_cons_iff (hnot (by decide : isDigit '\n' = false)), hparts, hparts]
    -- nothing stands behind the line break
    exact or_iff_left_of_imp fun hnil => .inl (hnil.trans List.nil_infix)

theorem exists_rows_of_mem {s : String} {row : List Char} (h : row ∈ rows s) :
    ∃ major minor patch, rows s = [major, minor, patch] ∧
      (row = major ∨ row = minor ∨ row = patch) := by
  obtain ⟨major, minor, patch, hrows⟩ := (rows_eq_nil_or s).resolve_left (List.ne_nil_of_mem h)
  rw [hrows] at h
  exact ⟨major, minor, patch, hrows, by simpa using h⟩

theorem longRow_of_mem_rows {s : String} {row : List Char} (h : row ∈ rows s)
    (hlong : digitLimit < row.length) : LongRow row s.toList := by
  obtain ⟨major, minor, patch, hrows, hmem⟩ := exists_rows_of_mem h
  obtain ⟨hmajor, hminor, hpatch⟩ := (rows_eq_iff.1 hrows).1
  have hrow : isRow row = true := by
    obtain rfl | rfl | rfl := hmem
    exacts [hmajor, hminor, hpatch]
  have hdigits := (isRow_iff.1 hrow).2
  have hinside : row <:+: s.toList := by
    rw [infix_toList_iff hrows hdigits]
    obtain rfl | rfl | rfl := hmem <;> simp
  exact ⟨hinside, hdigits, hlong⟩

/-- Too many digits stand in a row in a text with rows iff one of these is too long. -/
theorem exists_longRow_iff {s : String} (h : rows s ≠ []) :
    (∃ row, LongRow row s.toList) ↔ ∃ row ∈ rows s, digitLimit < row.length := by
  constructor
  · rintro ⟨row, hinside, hdigits, hlong⟩
    obtain ⟨major, minor, patch, hrows⟩ := (rows_eq_nil_or s).resolve_left h
    have hpart : ∃ part ∈ rows s, row <:+: part := by
      simpa [hrows] using (infix_toList_iff hrows hdigits).1 hinside
    obtain ⟨part, hmem, hpart⟩ := hpart
    exact ⟨part, hmem, Nat.lt_of_lt_of_le hlong hpart.length_le⟩
  · rintro ⟨row, hrow, hlong⟩
    exact ⟨row, longRow_of_mem_rows hrow hlong⟩

/-! ## What is read -/

theorem number?_eq_some_iff {cs : List Char} {n : Nat} :
    number? cs = some n ↔ cs.length ≤ digitLimit ∧ digitsValue cs = n :=
  Option.ite_some_none_eq_some

/-- The rows of a text are read as they stand if none of them is too long. -/
theorem ofText?_eq_some_iff_rows {s : String} {v : VersionCode} :
    ofText? s = some v ↔ (∃ major minor patch, rows s = [major, minor, patch] ∧
      v = ⟨digitsValue major, digitsValue minor, digitsValue patch⟩) ∧
      ∀ row ∈ rows s, row.length ≤ digitLimit := by
  obtain h | ⟨major, minor, patch, h⟩ := rows_eq_nil_or s
  · simp [ofText?, h]
  · simp only [ofText?, h, Option.bind_eq_bind, Option.bind_eq_some_iff, number?_eq_some_iff,
      Option.some.injEq, List.forall_mem_cons, List.cons.injEq, and_true]
    constructor
    · rintro ⟨_, ⟨hmajor, rfl⟩, _, ⟨hminor, rfl⟩, _, ⟨hpatch, rfl⟩, rfl⟩
      exact ⟨⟨_, _, _, ⟨rfl, rfl, rfl⟩, rfl⟩, hmajor, hminor, hpatch, List.forall_mem_nil _⟩
    · rintro ⟨⟨_, _, _, ⟨rfl, rfl, rfl⟩, rfl⟩, hmajor, hminor, hpatch, -⟩
      exact ⟨_, ⟨hmajor, rfl⟩, _, ⟨hminor, rfl⟩, _, ⟨hpatch, rfl⟩, rfl⟩

/-- **What is read** is what is spelled, unless too many digits stand in a row. -/
theorem ofText?_eq_some_iff {s : String} {v : VersionCode} :
    ofText? s = some v ↔ SpellsLine s v ∧ ¬∃ row, LongRow row s.toList := by
  rw [ofText?_eq_some_iff_rows, ← spellsLine_iff_rows]
  refine and_congr_right fun hline => ?_
  obtain ⟨major, minor, patch, hrows, -⟩ := spellsLine_iff_rows.1 hline
  rw [exists_longRow_iff (by simp [hrows])]
  simp

/-- **What is said** about a text that is not read: that a number in it is too long if it spells a
code, and else that it is none. -/
theorem refusal_of_none {s : String} (h : ofText? s = none) :
    (∃ v, SpellsLine s v) ∧
        (∃ row, LongRow row s.toList ∧ refusal (some s) = excess (some row.length)) ∨
      (¬∃ v, SpellsLine s v) ∧
        refusal (some s) = "Not a semantic version code: " ++ Text.quoted s := by
  unfold refusal
  rw [Option.getD_some]
  split
  · rename_i row hfind
    have hmem := List.mem_of_find?_eq_some hfind
    have hlong : digitLimit < row.length := by simpa using List.find?_some hfind
    obtain ⟨major, minor, patch, hrows, -⟩ := exists_rows_of_mem hmem
    exact .inl ⟨⟨_, spellsLine_iff_rows.2 ⟨major, minor, patch, hrows, rfl⟩⟩,
      row, longRow_of_mem_rows hmem hlong, rfl⟩
  · rename_i hfind
    refine .inr ⟨?_, rfl⟩
    rintro ⟨v, hline⟩
    have hshort : ∀ row ∈ rows s, row.length ≤ digitLimit := by
      simpa using List.find?_eq_none.1 hfind
    rw [ofText?_eq_some_iff_rows.2 ⟨spellsLine_iff_rows.1 hline, hshort⟩] at h
    cases h

end VersionCode

open VersionCode

/-- **What is read as a code.** For every text and code, the text is read as the code iff it spells
the code, where a line break may follow, and no more than `digitLimit` digits stand in a row in it.
Of a text that is not read, it is said that a number is too long if it spells a code, and else that
it is no code. So a text is read as what it spells and nothing else, unless it spells a code but for
a line break, or it spells a code with too long a number. -/
theorem read_iff_spelled (s : String) :
    (∀ v, ofText? s = some v ↔ SpellsLine s v ∧ ¬∃ row, LongRow row s.toList) ∧
    (ofText? s = none ↔
      (∃ v, SpellsLine s v) ∧
        (∃ row, LongRow row s.toList ∧ refusal (some s) = excess (some row.length)) ∨
      (¬∃ v, SpellsLine s v) ∧
        refusal (some s) = "Not a semantic version code: " ++ Text.quoted s) ∧
    ((∀ v, ofText? s = some v ↔ Spells s.toList v) ↔
      ¬(∃ cs v, s.toList = cs ++ ['\n'] ∧ Spells cs v ∧ ¬∃ row, LongRow row s.toList) ∧
      ¬∃ v row, Spells s.toList v ∧ LongRow row s.toList) := by
  refine ⟨fun v => ofText?_eq_some_iff, ⟨refusal_of_none, ?_⟩, ?_, ?_⟩
  · intro h
    refine Option.eq_none_iff_forall_ne_some.2 fun v hv => ?_
    obtain ⟨hline, hshort⟩ := ofText?_eq_some_iff.1 hv
    rcases h with ⟨-, row, hrow, -⟩ | ⟨hnot, -⟩
    · exact hshort ⟨row, hrow⟩
    · exact hnot ⟨v, hline⟩
  · intro h
    constructor
    · rintro ⟨cs, v, hs, hspells, hshort⟩
      have hbreak := (h v).1 (ofText?_eq_some_iff.2 ⟨⟨cs, hspells, .inr hs⟩, hshort⟩)
      exact not_mem_of_spells hbreak (c := '\n') (by decide) (by decide) (by simp [hs])
    · rintro ⟨v, row, hspells, hrow⟩
      exact (ofText?_eq_some_iff.1 ((h v).2 hspells)).2 ⟨row, hrow⟩
  · rintro ⟨hbreak, hlong⟩ v
    rw [ofText?_eq_some_iff]
    constructor
    · rintro ⟨⟨cs, hspells, hs | hs⟩, hshort⟩
      · rwa [hs]
      · exact absurd ⟨cs, v, hs, hspells, hshort⟩ hbreak
    · intro hspells
      exact ⟨⟨_, hspells, .inl rfl⟩, fun ⟨row, hrow⟩ => hlong ⟨v, row, hspells, hrow⟩⟩

theorem Text.writes_zeros (n : Nat) : Writes (List.replicate (n + 1) '0') 0 := by
  have hzero : digitValue? '0' = some 0 := by decide
  induction n with
  | zero => exact .digit hzero
  | succ n ih =>
    rw [List.replicate_succ']
    exact .more ih hzero

/-- A text that spells no code is read, for the line break at its end, and one that spells a code is
not read, for the number of its zeros. -/
theorem misread :
    ofText? "1.2.3\n" = some ⟨1, 2, 3⟩ ∧ (¬∃ v, Spells "1.2.3\n".toList v) ∧
    ∃ s, Spells s.toList VersionCode.initial ∧ ofText? s = none := by
  refine ⟨by decide, ?_,
    String.ofList (['1', '.', '0', '.'] ++ List.replicate (digitLimit + 1) '0'), ?_, ?_⟩
  · rintro ⟨v, hspells⟩
    exact not_mem_of_spells hspells (c := '\n') (by decide) (by decide) (by decide)
  · rw [String.toList_ofList]
    exact ⟨['1'], ['0'], _, .digit (by decide), .digit (by decide),
      Text.writes_zeros digitLimit, rfl⟩
  · refine Option.eq_none_iff_forall_ne_some.2 fun v hv => ?_
    refine (ofText?_eq_some_iff.1 hv).2 ⟨List.replicate (digitLimit + 1) '0', ?_, ?_, ?_⟩
    · rw [String.toList_ofList]
      exact (List.suffix_append _ _).isInfix
    · exact fun c hc => by rw [List.eq_of_mem_replicate hc]; decide
    · rw [List.length_replicate]
      exact Nat.lt_succ_self digitLimit

end WorkflowRelease
