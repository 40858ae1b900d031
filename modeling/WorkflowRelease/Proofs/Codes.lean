import Mathlib.Data.List.Basic
import WorkflowRelease.Release.VersionCode

/-!
# Codes in texts

A code that can be written is read back from its text, so different codes have different texts. The
numbers of a code are written in digits, which neither a dot nor a line break is one of, so they are
the rows that the text is cut into. Main statements: `rows_eq_iff`, `ofText?_text` and
`text_injective`.
-/

namespace WorkflowRelease

namespace Text

theorem digitValue?_of_isDigit {c : Char} (h : c.isDigit = true) :
    digitValue? c = some (c.toNat - '0'.toNat) := by
  have hlow : 0x30 ≤ c.toNat ∧ c.toNat < 0x30 + 10 := by
    simp only [Char.isDigit, Bool.and_eq_true, decide_eq_true_eq, ge_iff_le,
      UInt32.le_iff_toNat_le] at h
    exact ⟨h.1, Nat.lt_succ_of_le h.2⟩
  simp [digitValue?, digitZeros, hlow]

theorem isDigit_of_mem_toDigits {c : Char} {n : Nat} (h : c ∈ Nat.toDigits 10 n) :
    isDigit c = true := by
  have hc := Nat.isDigit_of_mem_toDigits (by decide) (by decide) h
  rw [isDigit, digitValue?_of_isDigit hc]
  rfl

/-- The digits of a number write that number. -/
theorem digitsValue_toDigits (n : Nat) : digitsValue (Nat.toDigits 10 n) = n := by
  have hfold : ∀ (ds : List Char) (k : Nat), (∀ c ∈ ds, c.isDigit = true) →
      ds.foldl (fun n c => 10 * n + (digitValue? c).getD 0) k = Nat.ofDigitChars 10 ds k := by
    intro ds
    induction ds with
    | nil => exact fun _ _ => rfl
    | cons c ds ih =>
      intro k h
      rw [List.foldl_cons, digitValue?_of_isDigit (h c List.mem_cons_self),
        ih _ fun d hd => h d (List.mem_cons_of_mem _ hd)]
      rfl
  have hdigits : ∀ c ∈ Nat.toDigits 10 n, c.isDigit = true :=
    fun c hc => Nat.isDigit_of_mem_toDigits (by decide) (by decide) hc
  rw [digitsValue, hfold _ 0 hdigits, Nat.ofDigitChars_ten_toDigits]

end Text

namespace VersionCode

/-! ## Rows of digits -/

theorem isRow_iff {cs : List Char} :
    isRow cs = true ↔ cs ≠ [] ∧ ∀ c ∈ cs, Text.isDigit c = true := by
  simp only [isRow, Bool.and_eq_true, decide_eq_true_eq, List.all_eq_true]

theorem not_mem_of_isRow {cs : List Char} {c : Char} (h : isRow cs = true)
    (hc : Text.isDigit c = false) : c ∉ cs := fun hmem => by
  rw [(isRow_iff.1 h).2 c hmem] at hc
  cases hc

/-- At most one line break is left out, and only at the end. -/
theorem withoutBreak_eq_iff {l cs : List Char} (h : cs.getLast? ≠ some '\n') :
    withoutBreak l = cs ↔ l = cs ∨ l = cs ++ ['\n'] := by
  unfold withoutBreak
  split
  · rename_i hbreak
    have hl := List.dropLast_append_getLast? _ hbreak
    constructor
    · rintro rfl
      exact .inr hl.symm
    · rintro (rfl | rfl)
      · exact absurd hbreak h
      · exact List.dropLast_concat
  · rename_i hbreak
    refine ⟨.inl, fun hl => hl.elim id ?_⟩
    rintro rfl
    exact absurd List.getLast?_concat hbreak

/-- A text that ends with a row of digits does not end with a line break. -/
theorem getLast?_ne_break (cs : List Char) {row : List Char} (h : isRow row = true) :
    (cs ++ row).getLast? ≠ some '\n' := by
  intro hbreak
  have hlast : row.getLast? = some '\n' := by
    cases hr : row.getLast? with
    | none => exact absurd (List.getLast?_eq_none_iff.1 hr) (isRow_iff.1 h).1
    | some c => simpa [List.getLast?_append, hr] using hbreak
  exact not_mem_of_isRow h (by decide) (List.mem_of_getLast? hlast)

/-- **The rows of a text** are what single dots part, and a line break may follow them. -/
theorem rows_eq_iff {s : String} {major minor patch : List Char} :
    rows s = [major, minor, patch] ↔
      (isRow major = true ∧ isRow minor = true ∧ isRow patch = true) ∧
        (s.toList = major ++ '.' :: (minor ++ '.' :: patch) ∨
          s.toList = major ++ '.' :: (minor ++ '.' :: patch) ++ ['\n']) := by
  have hbreak : ∀ {patch}, isRow patch = true →
      (major ++ '.' :: (minor ++ '.' :: patch)).getLast? ≠ some '\n' := fun h => by
    simpa using getLast?_ne_break (major ++ '.' :: (minor ++ ['.'])) h
  constructor
  · intro h
    unfold rows at h
    split at h
    · rename_i hsplit
      split at h
      · rename_i hrows
        cases h
        have hjoin := Text.joinWith_split '.' (withoutBreak s.toList)
        rw [hsplit] at hjoin
        simp only [Bool.and_eq_true] at hrows
        exact ⟨⟨hrows.1.1, hrows.1.2, hrows.2⟩,
          (withoutBreak_eq_iff (hbreak hrows.2)).1 hjoin.symm⟩
      · cases h
    · cases h
  · rintro ⟨⟨hmajor, hminor, hpatch⟩, hs⟩
    have hdot : ∀ {row}, isRow row = true → '.' ∉ row := fun h => not_mem_of_isRow h (by decide)
    rw [rows, (withoutBreak_eq_iff (hbreak hpatch)).2 hs, Text.split_append_sep (hdot hmajor),
      Text.split_append_sep (hdot hminor), Text.split_of_not_mem (hdot hpatch)]
    simp only [hmajor, hminor, hpatch, Bool.and_self, if_true]

/-! ## Texts of codes -/

theorem isRow_toDigits (n : Nat) : isRow (Nat.toDigits 10 n) = true :=
  isRow_iff.2 ⟨Nat.toDigits_ne_nil, fun _ hc => Text.isDigit_of_mem_toDigits hc⟩

theorem number?_toDigits {n : Nat} (h : n < Nat.pow 10 digitLimit) :
    number? (Nat.toDigits 10 n) = some n := by
  have hlength : ∀ k, 0 < k → n < Nat.pow 10 k → (Nat.toDigits 10 n).length ≤ k :=
    fun _ hk hn => (Nat.length_toDigits_le_iff (by decide) hk).2 hn
  rw [number?, if_pos (hlength digitLimit (by decide) h), Text.digitsValue_toDigits]

theorem toList_text (v : VersionCode) :
    v.text.toList = Nat.toDigits 10 v.major ++ '.' ::
      (Nat.toDigits 10 v.minor ++ '.' :: Nat.toDigits 10 v.patch) := by
  simp [text, Nat.toString_eq_repr, Nat.toList_repr]

theorem rows_text (v : VersionCode) :
    rows v.text =
      [Nat.toDigits 10 v.major, Nat.toDigits 10 v.minor, Nat.toDigits 10 v.patch] :=
  rows_eq_iff.2 ⟨⟨isRow_toDigits _, isRow_toDigits _, isRow_toDigits _⟩, .inl (toList_text v)⟩

/-- **A code is read back** from its text if it can be written. -/
theorem ofText?_text {v : VersionCode} (h : v.isWritable = true) : ofText? v.text = some v := by
  simp only [isWritable, Bool.and_eq_true, decide_eq_true_eq] at h
  obtain ⟨⟨hmajor, hminor⟩, hpatch⟩ := h
  simp only [ofText?, rows_text, number?_toDigits hmajor, number?_toDigits hminor,
    number?_toDigits hpatch]
  rfl

/-- **Different codes** have different texts. -/
theorem text_injective {v w : VersionCode} (h : v.text = w.text) : v = w := by
  have hrows := rows_text v
  rw [h, rows_text] at hrows
  have hnumber : ∀ {m n : Nat}, Nat.toDigits 10 m = Nat.toDigits 10 n → m = n := by
    intro m n hmn
    rw [← Text.digitsValue_toDigits m, hmn, Text.digitsValue_toDigits]
  simp only [List.cons.injEq, and_true] at hrows
  obtain ⟨hmajor, hminor, hpatch⟩ := hrows
  cases v
  cases w
  rw [mk.injEq]
  exact ⟨(hnumber hmajor).symm, (hnumber hminor).symm, (hnumber hpatch).symm⟩

end VersionCode

end WorkflowRelease
