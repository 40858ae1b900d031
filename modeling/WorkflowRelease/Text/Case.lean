import WorkflowRelease.Text.CaseTable

/-!
# Capital and small letters

Full case mapping of a text. The one rule that looks around is that of the small sigma, which has
a form of its own at the end of a word.
-/

namespace WorkflowRelease.Text

/-- Characters of one letter after a change of case: listed expansions win over runs. -/
def changeCase (expansions : List (Nat × List Nat)) (runs : List CaseRun) (c : Char) : List Char :=
  match expansions.lookup c.toNat with
  | some codes => codes.map Char.ofNat
  | none =>
    match runs.find? (·.covers c.toNat) with
    | some r => [Char.ofNat (c.toNat + r.shift).toNat]
    | none => [c]

/-- The text in capitals. -/
def upper (s : String) : String :=
  String.ofList (s.toList.flatMap (changeCase upperExpansions upperRuns))

/-- The next character that is not passed over is a cased letter. -/
def meetsCased (cs : List Char) : Bool :=
  match cs.dropWhile (CodeRanges.has passedOverRanges) with
  | [] => false
  | c :: _ => CodeRanges.has casedRanges c

/-- Small letters of `rest`, where `before` is what precedes it, nearest first. A capital sigma
that ends a word becomes the final small sigma. -/
def lowerAfter (before : List Char) : List Char → List Char
  | [] => []
  | c :: rest =>
    (if c = 'Σ' then
      if meetsCased before && !meetsCased rest then ['ς'] else ['σ']
    else changeCase lowerExpansions lowerRuns c) ++ lowerAfter (c :: before) rest

/-- The text in small letters. -/
def lower (s : String) : String := String.ofList (lowerAfter [] s.toList)

@[simp] theorem upper_empty : upper "" = "" := by simp [upper]

@[simp] theorem lower_empty : lower "" = "" := by simp [lower, lowerAfter]

end WorkflowRelease.Text
