import WorkflowRelease.Proofs.Run.Turn

/-!
# Documents that can be read back

All that makes the text of a document hard to read back are the snapshots of its versions, for the
rest of it is shallow and holds no numbers. Main statements: `Document.isReadable_iff`, and
`Document.isReadable_publish`, a publication leaves a document that can be read back so.
-/

namespace WorkflowRelease

namespace Json

theorem nestingOfList_le_iff {vs : List Json} {n : Nat} :
    nestingOfList vs ≤ n ↔ ∀ v ∈ vs, v.nesting ≤ n := by
  induction vs with
  | nil => simp [nestingOfList]
  | cons v vs ih => rw [nestingOfList, Nat.max_le, ih, List.forall_mem_cons]

/-- A list adds one level to its items. -/
theorem nesting_list_le_iff {vs : List Json} {n : Nat} :
    (Json.list vs).nesting ≤ n + 1 ↔ ∀ v ∈ vs, v.nesting ≤ n := by
  cases vs with
  | nil => simp [nesting]
  | cons v vs => simp only [nesting, List.isEmpty_cons, Bool.false_eq_true, if_false,
      Nat.add_le_add_iff_right, nestingOfList_le_iff]

theorem numbersFit_list_iff {vs : List Json} :
    (Json.list vs).numbersFit = true ↔ ∀ v ∈ vs, v.numbersFit = true := by
  rw [numbersFit]
  induction vs with
  | nil => simp [numbersFitInList]
  | cons v vs ih => simp [numbersFitInList, ih]

@[simp] theorem nesting_ofText? (s : Option String) : (Json.ofText? s).nesting = 0 := by
  cases s <;> rfl

@[simp] theorem numbersFit_ofText? (s : Option String) : (Json.ofText? s).numbersFit = true := by
  cases s <;> rfl

@[simp] theorem nesting_ofWord? {α : Type} [Choice α] (a : Option α) :
    (Json.ofWord? a).nesting = 0 := by
  cases a <;> rfl

@[simp] theorem numbersFit_ofWord? {α : Type} [Choice α] (a : Option α) :
    (Json.ofWord? a).numbersFit = true := by
  cases a <;> rfl

theorem nesting_texts_le (ss : List String) : (Json.texts ss).nesting ≤ 1 := by
  refine nesting_list_le_iff.2 fun v hv => ?_
  obtain ⟨s, -, rfl⟩ := List.mem_map.1 hv
  simp [nesting]

@[simp] theorem numbersFit_texts (ss : List String) : (Json.texts ss).numbersFit = true := by
  refine numbersFit_list_iff.2 fun v hv => ?_
  obtain ⟨s, -, rfl⟩ := List.mem_map.1 hv
  rfl

end Json

open Json

/-- The snapshot of the version can be read back as a part of a document. -/
def Version.IsLegible (v : Version) : Prop :=
  (Json.object v.snapshot).nesting + 3 ≤ storedNesting ∧ (Json.object v.snapshot).numbersFit = true

theorem Definition.extent_toJson (d : Definition) :
    d.toJson.nesting = 1 ∧ d.toJson.numbersFit = true := by
  simp [Definition.toJson, nesting, numbersFit, nestingOfFields, numbersFitInFields, Json.word]

theorem Version.extent_toJson (v : Version) :
    v.toJson.nesting = (Json.object v.snapshot).nesting + 1 ∧
      v.toJson.numbersFit = (Json.object v.snapshot).numbersFit := by
  simp [Version.toJson, nesting, numbersFit, nestingOfFields, numbersFitInFields, Json.word]

theorem Audit.extent_toJson (a : Audit) : a.toJson.nesting ≤ 2 ∧ a.toJson.numbersFit = true := by
  have hids := nesting_texts_le a.archivedVersionIds
  have hcodes := nesting_texts_le a.archivedVersionCodes
  simp only [Audit.toJson, nesting, numbersFit, nestingOfFields, numbersFitInFields, Json.word,
    List.isEmpty_cons, Bool.false_eq_true, if_false, nesting_ofText?, numbersFit_ofText?,
    numbersFit_texts]
  exact ⟨by omega, rfl⟩

namespace Document

/-- **The text of a document** can be read back iff all its snapshots can. -/
theorem isReadable_iff {d : Document} :
    d.toJson.isReadable = true ↔ ∀ v ∈ d.versions, v.IsLegible := by
  obtain ⟨hnest, hfit⟩ := d.definition.extent_toJson
  have haudits : (Json.list (d.audits.map Audit.toJson)).nesting ≤ 198 + 1 ∧
      (Json.list (d.audits.map Audit.toJson)).numbersFit = true := by
    rw [nesting_list_le_iff, numbersFit_list_iff, List.forall_mem_map, List.forall_mem_map]
    exact ⟨fun a _ => Nat.le_trans a.extent_toJson.1 (by decide), fun a _ => a.extent_toJson.2⟩
  have hversions : (Json.list (d.versions.map Version.toJson)).nesting ≤ 198 + 1 ∧
      (Json.list (d.versions.map Version.toJson)).numbersFit = true ↔
        ∀ v ∈ d.versions, v.IsLegible := by
    rw [nesting_list_le_iff, numbersFit_list_iff, List.forall_mem_map, List.forall_mem_map,
      ← forall_and]
    refine forall_congr' fun v => ?_
    rw [← forall_and]
    refine forall_congr' fun _ => ?_
    rw [v.extent_toJson.1, v.extent_toJson.2, Version.IsLegible, storedNesting]
    exact and_congr_left' (by omega)
  have hextent : d.toJson.isReadable = true ↔
      (max d.definition.toJson.nesting (max (Json.list (d.versions.map Version.toJson)).nesting
        (max (Json.list (d.audits.map Audit.toJson)).nesting 0))) + 1 ≤ storedNesting ∧
      d.definition.toJson.numbersFit = true ∧
      (Json.list (d.versions.map Version.toJson)).numbersFit = true ∧
      (Json.list (d.audits.map Audit.toJson)).numbersFit = true := by
    simp [toJson, isReadable, nesting, numbersFit, nestingOfFields, numbersFitInFields]
  rw [← hversions, hextent, hnest, hfit, haudits.2, storedNesting]
  have := haudits.1
  constructor
  · rintro ⟨h, -, hfits, -⟩
    exact ⟨by omega, hfits⟩
  · rintro ⟨h, hfits⟩
    exact ⟨by omega, rfl, hfits, rfl⟩

variable {d : Document} {target : Version} {code : VersionCode} {comment : Option String}
  {id user : String} {fresh : Fresh}

/-- **A published document** can be read back if it could before: its draft has the snapshot of
another version. -/
theorem isReadable_publish (h : d.toJson.isReadable = true) (ht : target ∈ d.versions) :
    (d.publish (d.outcome target code comment id user fresh) user fresh.now).toJson.isReadable =
      true := by
  rw [isReadable_iff] at h ⊢
  intro v hv
  obtain ⟨v', hv', hsnapshot⟩ := exists_snapshot_of_publish ht hv
  rw [Version.IsLegible, ← hsnapshot]
  exact h v' hv'

end Document

end WorkflowRelease
