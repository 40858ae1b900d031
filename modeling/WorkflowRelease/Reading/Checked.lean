import WorkflowRelease.Reading.Fault

/-!
# Readings that collect every fault

The result of reading a value: what was read, or all faults in the order of the fields. Combining
two readings keeps the faults of both, so one reading reports everything that is wrong. Main
statement: `seq_eq_valid_iff`, a combination succeeds iff both parts do.
-/

namespace WorkflowRelease

/-- What was read, or the faults that were found. -/
inductive Checked (α : Type) where
  | valid (a : α)
  | faulty (faults : List Fault)

namespace Checked

variable {α β γ : Type}

/-- The faults that were found. -/
def faults : Checked α → List Fault
  | valid _ => []
  | faulty fs => fs

/-- What was read, if there was no fault. -/
def value? : Checked α → Option α
  | valid a => some a
  | faulty _ => none

def map (f : α → β) : Checked α → Checked β
  | valid a => valid (f a)
  | faulty fs => faulty fs

/-- Applies a reading of a function to a reading of its argument. -/
def seq : Checked (α → β) → Checked α → Checked β
  | valid f, valid a => valid (f a)
  | x, y => faulty (x.faults ++ y.faults)

instance : Functor Checked := ⟨fun f x => x.map f, fun a x => x.map fun _ => a⟩

instance : Applicative Checked where
  pure := valid
  seq f x := f.seq (x ())

/-- A reading that only makes sense after the first one has succeeded. -/
def andThen (x : Checked α) (f : α → Checked β) : Checked β :=
  match x with
  | valid a => f a
  | faulty fs => faulty fs

/-- The reading seen from one step further out. -/
def under (s : Step) : Checked α → Checked α
  | valid a => valid a
  | faulty fs => faulty (fs.map (·.under s))

/-- One fault at the place of the value itself. -/
def fault (c : Cause) : Checked α := faulty [{ cause := c }]

/-- Readings in a row. -/
def all : List (Checked α) → Checked (List α)
  | [] => valid []
  | x :: xs => List.cons <$> x <*> all xs

@[simp] theorem map_eq (f : α → β) (x : Checked α) : f <$> x = x.map f := rfl

@[simp] theorem seq_eq (f : Checked (α → β)) (x : Checked α) : f <*> x = f.seq x := rfl

@[simp] theorem pure_eq (a : α) : (pure a : Checked α) = valid a := rfl

@[simp] theorem seq_valid (f : α → β) (a : α) : (valid f).seq (valid a) = valid (f a) := rfl

theorem map_eq_valid_iff {f : α → β} {x : Checked α} {b : β} :
    x.map f = valid b ↔ ∃ a, x = valid a ∧ f a = b := by
  cases x <;> simp [map]

theorem seq_eq_valid_iff {f : Checked (α → β)} {x : Checked α} {b : β} :
    f.seq x = valid b ↔ ∃ g a, f = valid g ∧ x = valid a ∧ g a = b := by
  cases f <;> cases x <;> simp [seq]

theorem andThen_eq_valid_iff {x : Checked α} {f : α → Checked β} {b : β} :
    x.andThen f = valid b ↔ ∃ a, x = valid a ∧ f a = valid b := by
  cases x <;> simp [andThen]

theorem under_eq_valid_iff {s : Step} {x : Checked α} {a : α} :
    x.under s = valid a ↔ x = valid a := by
  cases x <;> simp [under]

theorem all_eq_valid_iff {xs : List (Checked α)} {as : List α} :
    all xs = valid as ↔ xs = as.map valid := by
  induction xs generalizing as with
  | nil => cases as <;> simp [all]
  | cons x xs ih =>
    simp only [all, map_eq, seq_eq, seq_eq_valid_iff, map_eq_valid_iff]
    constructor
    · rintro ⟨g, bs, ⟨a, rfl, rfl⟩, h, rfl⟩
      simp [ih.1 h]
    · intro h
      cases as with
      | nil => simp at h
      | cons a as =>
        simp only [List.map_cons, List.cons.injEq] at h
        exact ⟨List.cons a, as, ⟨a, h.1, rfl⟩, ih.2 h.2, rfl⟩

end Checked

end WorkflowRelease
