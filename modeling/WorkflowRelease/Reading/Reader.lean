import WorkflowRelease.Json.Basic
import WorkflowRelease.Reading.Checked
import WorkflowRelease.Reading.IntegerText

/-!
# Readers of single values and of fields

Texts, integers, booleans, choices, lists and objects, and the fields of a record. Integers and
booleans are read generously: a text that writes one will do, and so will a double that equals one
and fits into 64 bits.
-/

namespace WorkflowRelease

/-- A reader of values. -/
abbrev Reader (α : Type) := Json → Checked α

namespace Reader

variable {α β : Type}

/-! ## Texts -/

def text : Reader String
  | .text s => .valid s
  | _ => .fault .notText

/-- Refuses what a test finds. -/
def refine (r : Reader α) (test : α → Option Cause) : Reader α := fun v =>
  (r v).andThen fun a => match test a with
    | none => .valid a
    | some c => .fault c

/-- A text with a number of characters within bounds. -/
def textBetween (least : Nat) (most : Option Nat) : Reader String :=
  refine text fun s =>
    if s.length < least then some (.tooShort least)
    else match most with
      | some m => if m < s.length then some (.tooLong m) else none
      | none => none

/-- A text that is not empty. -/
def nonempty : Reader String := textBetween 1 none

/-! ## Integers -/

/-- The double is within the range of integers of 64 bits, and at neither end of it. -/
def isWordSized (x : Binary64) : Bool := x.toInt.natAbs < 0x8000000000000000

def integer : Reader Int
  | .int n => .valid n
  | .bool b => .valid (if b then 1 else 0)
  | .float x =>
    if !x.isWhole then .fault .fractional
    else if isWordSized x then .valid x.toInt
    else .fault .oversizedInteger
  | .text s => match IntegerText.read s with
    | .ok n => .valid n
    | .error c => .fault c
  | _ => .fault .notInteger

/-- An integer within bounds. -/
def integerBetween (least : Option Int) (most : Option Int) : Reader Int :=
  refine integer fun n =>
    match least, most with
    | some l, some m => if n < l then some (.below l) else if m < n then some (.above m) else none
    | some l, none => if n < l then some (.below l) else none
    | none, some m => if m < n then some (.above m) else none
    | none, none => none

/-! ## Booleans -/

/-- Words for no. -/
def falseWords : List String := ["0", "off", "f", "false", "n", "no"]

/-- Words for yes. -/
def trueWords : List String := ["1", "on", "t", "true", "y", "yes"]

/-- The boolean that a number stands for. -/
def booleanOfInt (n : Int) : Checked Bool :=
  if n = 0 then .valid false else if n = 1 then .valid true else .fault .unreadableBoolean

/-- The integer is in the range of 64 bits. -/
def isWord (n : Int) : Bool := -0x8000000000000000 ≤ n && n < 0x8000000000000000

def boolean : Reader Bool
  | .bool b => .valid b
  | .int n => if isWord n then booleanOfInt n else .fault .notBoolean
  | .float x => if x.isWhole && isWordSized x then booleanOfInt x.toInt else .fault .notBoolean
  | .text s =>
    let word := String.ofList (s.toList.map Char.toLower)
    if word ∈ falseWords then .valid false
    else if word ∈ trueWords then .valid true
    else .fault .unreadableBoolean
  | _ => .fault .notBoolean

/-! ## Containers -/

def any : Reader Json := .valid

def mapping : Reader Fields
  | .object fields => .valid fields
  | _ => .fault .notMapping

/-- `null` for nothing, and otherwise what the reader reads. -/
def optional (r : Reader α) : Reader (Option α)
  | .null => .valid none
  | v => (r v).map some

/-- Reads every element, from a position on. -/
def elements (r : Reader α) : Nat → List Json → List (Checked α)
  | _, [] => []
  | i, v :: vs => (r v).under (.index i) :: elements r (i + 1) vs

/-- A list, each element of which is read. -/
def list (r : Reader α) : Reader (List α)
  | .list items => .all (elements r 0 items)
  | _ => .fault .notList

/-- An object that is read as the named record. -/
def record (name : String) (read : Fields → Checked α) : Reader α
  | .object fields => read fields
  | _ => .fault (.notRecord name)

end Reader

/-! ## Fields of a record -/

namespace Fields

variable {α : Type}

/-- The first of the names that has an entry, with the entry's value. -/
def findFirst (o : Fields) : List String → Option (String × Json)
  | [] => none
  | name :: names => match o.get? name with
    | some v => some (name, v)
    | none => o.findFirst names

/-- Reads a field under the first of its names that is there, or falls back. -/
def readOr (o : Fields) (names : List String) (fallback : α) (r : Reader α) : Checked α :=
  match o.findFirst names with
  | some (name, v) => (r v).under (.key name)
  | none => .valid fallback

/-- Reads a field that has to be there; a missing one is reported under its first name. -/
def read (o : Fields) (names : List String) (r : Reader α) : Checked α :=
  match o.findFirst names with
  | some (name, v) => (r v).under (.key name)
  | none => .faulty [⟨.missing, (names.head?.map Step.key).toList⟩]

/-- Reads a field that may be missing or `null`. -/
def readOption (o : Fields) (names : List String) (r : Reader α) : Checked (Option α) :=
  o.readOr names none r.optional

end Fields

end WorkflowRelease
