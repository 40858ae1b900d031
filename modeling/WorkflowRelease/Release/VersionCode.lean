import WorkflowRelease.Text.DecimalDigit
import WorkflowRelease.Text.Quoted
import WorkflowRelease.Text.Segments

/-!
# Version codes

Codes of three numbers parted by dots, in the order of their numbers, and the code of a new version.
A number has no more than `digitLimit` digits, whether it is read or written, so codes may run out.
Main statements: `lt_next`, the next code is greater, and `le_highest`, none of a list of codes is
above the highest.
-/

namespace WorkflowRelease

/-- A version code `major.minor.patch`. -/
structure VersionCode where
  major : Nat
  minor : Nat
  patch : Nat
deriving DecidableEq, Repr

namespace VersionCode

/-! ## Text -/

/-- The most digits of a number in a code. -/
def digitLimit : Nat := 4300

/-- Digits, one at least. -/
def isRow (cs : List Char) : Bool := cs ≠ [] && cs.all Text.isDigit

/-- The number that a row of digits writes, zeros in front counting as digits. -/
def number? (cs : List Char) : Option Nat :=
  if cs.length ≤ digitLimit then some (Text.digitsValue cs) else none

/-- The characters without one line break at the end. -/
def withoutBreak (cs : List Char) : List Char :=
  if cs.getLast? = some '\n' then cs.dropLast else cs

/-- The rows of digits of a text that consists of three, parted by dots. A line break may follow
them. -/
def rows (s : String) : List (List Char) :=
  match Text.split '.' (withoutBreak s.toList) with
  | [major, minor, patch] =>
    if isRow major && isRow minor && isRow patch then [major, minor, patch] else []
  | _ => []

/-- Reads three numbers parted by dots (`parse`). -/
def ofText? (s : String) : Option VersionCode :=
  match rows s with
  | [major, minor, patch] => do
    some ⟨← number? major, ← number? minor, ← number? patch⟩
  | _ => none

def text (v : VersionCode) : String :=
  toString v.major ++ "." ++ toString v.minor ++ "." ++ toString v.patch

/-- What is said about a number of too many digits; how many is known of one that is read. -/
def excess (digits : Option Nat) : String :=
  "Exceeds the limit (" ++ toString digitLimit ++ " digits) for integer string conversion" ++
    (match digits with
      | some n => ": value has " ++ toString n ++ " digits"
      | none => "") ++
    "; use sys.set_int_max_str_digits() to increase the limit"

/-- What is said about a text that is no code; nothing at all may stand in its place. -/
def refusal (s : Option String) : String :=
  match (rows (s.getD "")).find? fun row => digitLimit < row.length with
  | some row => excess (some row.length)
  | none => "Not a semantic version code: " ++ (s.map Text.quoted).getD "None"

/-! ## Order -/

/-- The numbers decide from left to right. -/
def le (v w : VersionCode) : Bool :=
  v.major < w.major || (v.major = w.major &&
    (v.minor < w.minor || (v.minor = w.minor && v.patch ≤ w.patch)))

def lt (v w : VersionCode) : Bool := !w.le v

theorem le_refl (v : VersionCode) : v.le v = true := by simp [le]

theorem le_trans {u v w : VersionCode} (h : u.le v = true) (h' : v.le w = true) :
    u.le w = true := by
  simp [le] at *
  omega

theorem le_total (v w : VersionCode) : v.le w = true ∨ w.le v = true := by
  simp [le]
  omega

theorem le_antisymm {v w : VersionCode} (h : v.le w = true) (h' : w.le v = true) : v = w := by
  cases v
  cases w
  simp [le] at *
  omega

theorem le_of_lt {v w : VersionCode} (h : v.lt w = true) : v.le w = true := by
  refine (le_total v w).resolve_right fun hle => ?_
  rw [lt, hle] at h
  cases h

theorem lt_of_lt_of_le {u v w : VersionCode} (h : u.lt v = true) (h' : v.le w = true) :
    u.lt w = true := by
  rw [lt, Bool.not_eq_true', Bool.eq_false_iff] at h ⊢
  exact fun hle => h (le_trans h' hle)

/-! ## The code of a new version -/

/-- The next patch (`next_patch`). -/
def next (v : VersionCode) : VersionCode := { v with patch := v.patch + 1 }

/-- The code of a first version. -/
def initial : VersionCode := ⟨1, 0, 0⟩

theorem lt_next (v : VersionCode) : v.lt v.next = true := by
  have h : ¬ v.patch + 1 ≤ v.patch := by omega
  simp [lt, le, next, h]

/-- The numbers of the code can be written. -/
def isWritable (v : VersionCode) : Bool :=
  v.major < Nat.pow 10 digitLimit && v.minor < Nat.pow 10 digitLimit &&
    v.patch < Nat.pow 10 digitLimit

/-- The next patch, if it can be written. -/
def next? (v : VersionCode) : Option VersionCode := if v.next.isWritable then some v.next else none

/-- The code after a given one, unless codes have run out (`next_version_code`); whatever is no code
starts anew. -/
def following (latest : Option String) : Option VersionCode :=
  match latest.bind ofText? with
  | some v => v.next?
  | none => some initial

/-- A text is given that is no code, so that codes start anew. -/
def restarts (latest : Option String) : Bool :=
  decide (latest.getD "" ≠ "") && (latest.bind ofText?).isNone

/-- The greater of two codes. -/
def max (v w : VersionCode) : VersionCode := if v.le w then w else v

theorem le_max_left (v w : VersionCode) : v.le (v.max w) = true := by
  unfold max
  split
  · assumption
  · exact le_refl v

theorem le_max_right (v w : VersionCode) : w.le (v.max w) = true := by
  unfold max
  split
  · exact le_refl w
  · rename_i h
    exact (le_total v w).resolve_left h

/-- The highest of some codes; without any, the first code there is. -/
def highest : List VersionCode → VersionCode
  | [] => initial
  | [v] => v
  | v :: w :: rest => v.max (highest (w :: rest))

theorem le_highest {v : VersionCode} {vs : List VersionCode} (h : v ∈ vs) :
    v.le (highest vs) = true := by
  induction vs with
  | nil => simp at h
  | cons w rest ih =>
    cases rest with
    | nil => simp at h; subst h; exact le_refl v
    | cons u rest =>
      rcases List.mem_cons.1 h with rfl | h
      · exact le_max_left _ _
      · exact le_trans (ih h) (le_max_right _ _)

theorem highest_mem {vs : List VersionCode} (h : vs ≠ []) : highest vs ∈ vs := by
  induction vs with
  | nil => exact absurd rfl h
  | cons v rest ih =>
    cases rest with
    | nil => exact List.mem_singleton_self v
    | cons w rest =>
      rw [highest, max]
      split
      · exact List.mem_cons_of_mem _ (ih (List.cons_ne_nil _ _))
      · exact List.mem_cons_self

/-- The code of the version that follows `published` when some texts are taken
(`successor_version_code`): the next patch, or the one after the highest code of all when that is
taken. There is none when codes have run out. -/
def successor (published : Option String) (taken : List String) : Option VersionCode := do
  let candidate ← following published
  if candidate.text ∈ taken then (highest (taken.filterMap ofText?)).next? else some candidate

/-- The codes in increasing order. -/
def sort (vs : List VersionCode) : List VersionCode := vs.mergeSort le

end VersionCode

end WorkflowRelease
