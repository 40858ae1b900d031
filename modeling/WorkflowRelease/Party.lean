import WorkflowRelease.Json.Basic

/-!
# Parties

Whom something belongs to and who asks for it (`owner_user_id`). A user is known by an id. There may
also be nobody, and somebody whose id is no text and who is therefore no user.
-/

namespace WorkflowRelease

inductive Party where
  | user (id : String)
  | nobody
  /-- Somebody whose id is no text. -/
  | stranger (id : Json)
deriving DecidableEq

namespace Party

/-- The party that a value names. -/
def ofJson : Json → Party
  | .text id => user id
  | .null => nobody
  | v => stranger v

/-- The user of an id, or nobody. -/
def ofId? : Option String → Party
  | some id => user id
  | none => nobody

/-- The id of a user. -/
def id? : Party → Option String
  | user id => some id
  | _ => none

end Party

end WorkflowRelease
