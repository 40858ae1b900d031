import WorkflowRelease.Reading.Reader

/-!
# Fixed vocabularies

A type with a fixed list of members, each written as one word. Main statement: for a lawful
vocabulary `ofWord?_word`, the word of a member reads back as the member.
-/

namespace WorkflowRelease

/-- A type whose members are written as words. -/
class Choice (α : Type) where
  /-- How messages call the vocabulary. -/
  title : String
  /-- The members, in the order in which messages list them. -/
  members : List α
  word : α → String

/-- Every member is listed, and no two members share a word. -/
class LawfulChoice (α : Type) extends Choice α where
  mem_members : ∀ a : α, a ∈ members
  word_inj : ∀ a b : α, word a = word b → a = b

namespace Choice

variable {α : Type} [Choice α]

/-- The member with a word. -/
def ofWord? (s : String) : Option α := (members (α := α)).find? (word · = s)

/-- The words of all members. -/
def words (α : Type) [Choice α] : List String := (members (α := α)).map word

theorem word_of_ofWord? {s : String} {a : α} (h : ofWord? s = some a) : word a = s := by
  simpa using List.find?_some h

end Choice

theorem Choice.ofWord?_word {α : Type} [LawfulChoice α] (a : α) :
    Choice.ofWord? (Choice.word a) = some a := by
  have hm := LawfulChoice.mem_members a
  cases h : Choice.ofWord? (α := α) (Choice.word a) with
  | none => exact absurd (List.find?_eq_none.1 h a hm) (by simp)
  | some b => rw [LawfulChoice.word_inj _ _ (Choice.word_of_ofWord? h)]

/-- Reads exactly one of the words. -/
def Reader.choice (α : Type) [Choice α] : Reader α := fun v =>
  match v.text?.bind Choice.ofWord? with
  | some a => .valid a
  | none => .fault (.notOneOf (Choice.words α))

end WorkflowRelease
