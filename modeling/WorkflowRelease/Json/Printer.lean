import WorkflowRelease.Json.Basic
import WorkflowRelease.Text.Hex

/-!
# One line of JSON

A value on one line in ASCII: a blank after every comma and colon, and what is not ASCII written in
UTF-16 code units.
-/

namespace WorkflowRelease.Json

/-- Escape of one UTF-16 code unit. -/
def unitEscape (n : Nat) : List Char := '\\' :: 'u' :: Text.hex 4 n

/-- One character inside the quotes. -/
def escape (c : Char) : List Char :=
  if c = '"' ∨ c = '\\' then ['\\', c]
  else if c = '\n' then ['\\', 'n']
  else if c = '\r' then ['\\', 'r']
  else if c = '\t' then ['\\', 't']
  else if c = '\x08' then ['\\', 'b']
  else if c = '\x0c' then ['\\', 'f']
  else if 0x20 ≤ c.toNat ∧ c.toNat < 0x7f then [c]
  else if c.toNat < 0x10000 then unitEscape c.toNat
  else
    let n := c.toNat - 0x10000
    unitEscape (0xd800 + n / 0x400) ++ unitEscape (0xdc00 + n % 0x400)

/-- A text as a JSON string. -/
def quotedText (s : String) : String :=
  String.ofList ('"' :: (s.toList.flatMap escape ++ ['"']))

mutual

/-- The value on one line. -/
def line : Json → String
  | .null => "null"
  | .bool b => if b then "true" else "false"
  | .int n => toString n
  | .float x => x.text
  | .text s => quotedText s
  | .list items => "[" ++ ", ".intercalate (lines items) ++ "]"
  | .object fields => "\x7b" ++ ", ".intercalate (entryLines fields) ++ "\x7d"

def lines : List Json → List String
  | [] => []
  | v :: vs => line v :: lines vs

def entryLines : List (String × Json) → List String
  | [] => []
  | (k, v) :: es => (quotedText k ++ ": " ++ line v) :: entryLines es

end

end WorkflowRelease.Json
