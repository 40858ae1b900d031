import WorkflowRelease.Reading.Fault
import WorkflowRelease.Text.Blank
import WorkflowRelease.Text.Segments

/-!
# Integers written as texts

A text is read generously. White space around the number does not count, nor does one plus sign, nor
zeros and underscores behind the sign, nor a point with zeros at the end, nor single underscores
between digits. What is left is a plain numeral, and no numeral is longer than `lengthLimit`. A text
that starts with too long a numeral is refused for its size.
-/

namespace WorkflowRelease.IntegerText

/-- The most characters that a numeral has, its sign included. -/
def lengthLimit : Nat := 4300

/-- The value of a row of decimal digits. -/
def value (digits : List Char) : Nat := digits.foldl (fun n c => 10 * n + (c.toNat - 48)) 0

/-- The sign, which is there or not, and what follows it. -/
def sign : List Char → Bool × List Char
  | '-' :: cs => (true, cs)
  | cs => (false, cs)

/-- Digits, the first of which is no zero unless it is the only one. -/
def isPlain (digits : List Char) : Bool :=
  digits ≠ [] && digits.all Char.isDigit && (digits.length = 1 || digits.head? ≠ some '0')

/-- The integer of a plain numeral. -/
def numeral? (cs : List Char) : Option Int :=
  if isPlain (sign cs).2 && cs.length ≤ lengthLimit then
    some (if (sign cs).1 then -(value (sign cs).2 : Int) else value (sign cs).2)
  else none

/-- A numeral without a zero in front starts here and is too long, whatever follows it. -/
def isOverlong (cs : List Char) : Bool :=
  let run := (sign cs).2.takeWhile Char.isDigit
  run.head? ≠ some '0' && run ≠ [] &&
    lengthLimit < run.length + (if (sign cs).1 then 1 else 0)

/-! ## What does not count -/

/-- White space; the separators of plain text files are none. -/
def isSpace (c : Char) : Bool := Text.isBlank c && !(28 ≤ c.toNat && c.toNat ≤ 31)

/-- The characters without white space at both ends. -/
def trimmed (cs : List Char) : List Char :=
  ((cs.dropWhile isSpace).reverse.dropWhile isSpace).reverse

/-- What is left after a zero: all that follows zeros and underscores. The character in front of a
point stays, and so does the last of nothing but zeros and underscores. -/
def afterZero (last : Char) : List Char → Option (List Char)
  | [] => some [last]
  | c :: cs =>
    if c = '0' ∨ c = '_' then afterZero c cs
    else if c.isDigit ∨ c = '-' then some (c :: cs)
    else if c = '.' then some (last :: c :: cs)
    else none

/-- The characters without zeros in front; they start with a digit or a minus sign. -/
def withoutZeros : List Char → Option (List Char)
  | [] => none
  | c :: cs =>
    if c = '0' then afterZero c cs
    else if c.isDigit ∨ c = '-' then some (c :: cs)
    else none

/-- The characters without a point and zeros at the end. -/
def withoutFraction (cs : List Char) : List Char :=
  match Text.breakAt '.' cs with
  | (whole, some zeros) => if zeros ≠ [] ∧ zeros.all (· = '0') then whole else cs
  | _ => cs

/-- Underscores stand between other characters, one at a time. -/
def isGrouped (cs : List Char) : Bool :=
  cs.head? ≠ some '_' && cs.getLast? ≠ some '_' && !Text.occurs ['_', '_'] cs

/-- The characters without the underscores between digits. -/
def withoutGroups (cs : List Char) : List Char :=
  if isGrouped cs then cs.filter (· ≠ '_') else cs

/-- The numeral in the characters behind a sign. -/
def unsigned? (cs : List Char) : Option (List Char) :=
  (withoutZeros cs).map fun cs => withoutGroups (withoutFraction cs)

/-- The numeral in a text, which keeps a minus sign. After a plus sign there is no minus sign. -/
def bare? (cs : List Char) : Option (List Char) :=
  match trimmed cs with
  | '+' :: '-' :: _ => none
  | '+' :: cs => unsigned? cs
  | '-' :: cs => (unsigned? cs).map ('-' :: ·)
  | cs => unsigned? cs

/-- The integer that a text writes, or why there is none. -/
def read (s : String) : Except Cause Int :=
  if isOverlong s.toList then .error .oversizedInteger
  else match (bare? s.toList).bind numeral? with
    | some n => .ok n
    | none => .error .unreadableInteger

end WorkflowRelease.IntegerText
