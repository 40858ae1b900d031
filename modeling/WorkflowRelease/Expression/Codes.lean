import WorkflowRelease.Expression.Scan
import WorkflowRelease.Json.Leaves
import WorkflowRelease.Text.Sorted

/-!
# Codes that values refer to

The references in the texts of a value (`refs_in`), the parameter codes among them, and lists of
codes cleared of blanks and repetitions (`normalize_codes`). Main statements: `mem_parameterCodes`
and `mem_cleanCodes`.
-/

namespace WorkflowRelease

namespace Expression

/-- The references in all texts of the values, value by value. -/
def inValues (values : List Json) : List Expression :=
  values.flatMap fun v => (Json.textLeaves [v]).flatMap scan

/-- The parameter codes among references, sorted (`parameter_codes`). -/
def parameterCodes (refs : List Expression) : List String :=
  Text.sorted ((refs.filter fun e => e.scope = paramsScope && e.head ≠ "").map head)

theorem mem_parameterCodes {refs : List Expression} {code : String} :
    code ∈ parameterCodes refs ↔
      code ≠ "" ∧ ∃ e ∈ refs, e.scope = paramsScope ∧ e.head = code := by
  simp only [parameterCodes, Text.mem_sorted, List.mem_map, List.mem_filter, Bool.and_eq_true,
    decide_eq_true_eq]
  constructor
  · rintro ⟨e, ⟨he, hs, hn⟩, rfl⟩
    exact ⟨hn, e, he, hs, rfl⟩
  · rintro ⟨hn, e, he, hs, rfl⟩
    exact ⟨e, ⟨he, hs, hn⟩, rfl⟩

end Expression

/-- The code in a text: without the blanks around it, and nothing when it is blank. -/
def code? (s : String) : Option String :=
  if Text.strip s = "" then none else some (Text.strip s)

/-- The codes in a list of texts, each one once in first-seen order. -/
def cleanCodes (texts : List String) : List String := Text.distinct (texts.filterMap code?)

theorem mem_cleanCodes {texts : List String} {code : String} :
    code ∈ cleanCodes texts ↔ ∃ s ∈ texts, code? s = some code := by
  simp [cleanCodes]

end WorkflowRelease
