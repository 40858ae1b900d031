import WorkflowRelease.Release.Store

/-!
# Amendments

Changes of a stored document that no life cycle restrains, as whoever can write the file of a
document may make them: fields are set to any value, and versions are copied and dropped. So what is
stored in the end may be no document any more. An amendment is made as a whole or not at all.
-/

namespace WorkflowRelease

/-- The records of a document, the fields of which may hold anything. -/
structure Draft where
  definition : Fields
  versions : List Fields
  audits : Json
deriving DecidableEq

/-- Changes of the version at an index: fields to set, and entries of its snapshot to set and to
drop. -/
structure VersionChange where
  index : Int
  fields : Fields := []
  snapshot : Fields := []
  dropped : List String := []
deriving DecidableEq

/-- A copy of the version at an index, with some fields replaced, for another place. -/
structure VersionCopy where
  index : Int
  place : Int
  fields : Fields := []
deriving DecidableEq

/-- The changes in the order in which they are made. A negative index counts from the end. -/
structure Amendment where
  definition : Fields := []
  versions : List VersionChange := []
  copies : List VersionCopy := []
  dropped : List Int := []
  /-- All changes are called off in the end. -/
  isRevoked : Bool := false
deriving DecidableEq

namespace Amendment

/-- Why an amendment is not made. -/
inductive Obstacle where
  | refused (r : Refusal)
  | noField (record name : String)
  | noVersion
  /-- There is no version to drop. -/
  | nothingToDrop
  /-- The snapshot of a version has been replaced by a value of another kind. -/
  | noSnapshot (kind : String)
  | revoked
deriving DecidableEq

/-- What is said about an obstacle that is no refusal. -/
def Obstacle.message? : Obstacle → Option String
  | refused _ => none
  | noField record name => some ("\"" ++ record ++ "\" object has no field \"" ++ name ++ "\"")
  | noVersion => some "list index out of range"
  | nothingToDrop => some "list assignment index out of range"
  | noSnapshot kind => some ("'" ++ kind ++ "' object has no attribute 'update'")
  | revoked => some "rollback"

/-! ## Fields and positions -/

/-- Sets fields that the record has. A name that starts with an underscore is passed over. -/
def setFields (record : String) : Fields → Fields → Except Obstacle Fields
  | o, [] => .ok o
  | o, (name, v) :: rest =>
    if name.toList.head? = some '_' then setFields record o rest
    else if (Fields.get? o name).isSome then setFields record (Fields.put o name v) rest
    else .error (.noField record name)

/-- Replaces the fields that the record has; others are passed over. -/
def replaceFields (o changes : Fields) : Fields :=
  o.update (changes.filter fun e => (o.get? e.1).isSome)

/-- The position of an index among some elements. -/
def position? (length : Nat) (i : Int) : Option Nat :=
  let j := if i < 0 then length + i else i
  if 0 ≤ j ∧ j < length then some j.toNat else none

/-- The number of elements in front of something that is put in at an index. -/
def before (length : Nat) (i : Int) : Nat := (if i < 0 then length + i else i).toNat

/-! ## Changes -/

/-- Changes the entries of a snapshot. -/
def changeSnapshot (c : VersionChange) (v : Fields) : Except Obstacle Fields :=
  match Fields.get? v "dsl_snapshot" with
  | some (.object snapshot) =>
    .ok (Fields.put v "dsl_snapshot"
      (.object (c.dropped.foldl Fields.erase (Fields.update snapshot c.snapshot))))
  | v => .error (.noSnapshot (v.getD .null).kind)

def changeVersion (versions : List Fields) (c : VersionChange) : Except Obstacle (List Fields) := do
  match position? versions.length c.index with
  | none => .error .noVersion
  | some i =>
    let v ← setFields Refusal.versionName (versions[i]?.getD []) c.fields
    .ok (versions.set i (← changeSnapshot c v))

def copyVersion (versions : List Fields) (c : VersionCopy) : Except Obstacle (List Fields) :=
  match position? versions.length c.index with
  | none => .error .noVersion
  | some i =>
    let copy := replaceFields (versions[i]?.getD []) c.fields
    let n := before versions.length c.place
    .ok (versions.take n ++ copy :: versions.drop n)

def dropVersion (versions : List Fields) (i : Int) : Except Obstacle (List Fields) :=
  match position? versions.length i with
  | none => .error .nothingToDrop
  | some i => .ok (versions.eraseIdx i)

/-- The amended records of a document. Each index to drop counts in what earlier drops have left. -/
def amend (a : Amendment) (d : Draft) : Except Obstacle Draft := do
  let definition ← setFields Refusal.definitionName d.definition a.definition
  let versions ← a.versions.foldlM changeVersion d.versions
  let versions ← a.copies.foldlM copyVersion versions
  let versions ← a.dropped.foldlM dropVersion versions
  if a.isRevoked then .error .revoked else .ok { d with definition, versions }

end Amendment

/-! ## Storing -/

namespace Draft

def ofDocument (d : Document) : Draft where
  definition := (d.definition.toJson.object?).getD []
  versions := d.versions.filterMap fun v => v.toJson.object?
  audits := .list (d.audits.map Audit.toJson)

def toJson (d : Draft) : Json :=
  .object [("definition", .object d.definition), ("versions", .list (d.versions.map .object)),
    ("audits", d.audits)]

/-- The value of a field can be written out, or the entries of it where it is a snapshot. -/
def isWritableField : String × Json → Bool
  | ("dsl_snapshot", .object snapshot) => Fields.areWritable snapshot
  | (_, v) => v.isWritable

/-- Every field can be written out. -/
def isWritable (d : Draft) : Bool :=
  d.definition.all isWritableField && d.versions.all fun v => v.all isWritableField

/-- The id of the definition as it is shown. -/
def id (d : Draft) : String := ((Fields.get? d.definition "id").getD .null).shown

/-- What is there to read of records that are stored. -/
def stored (d : Draft) : Stored :=
  if d.toJson.isReadable then
    match Document.reader d.toJson with
    | .valid d => .document d
    | .faulty faults =>
      .unreadable (faults.map fun f => { f with cause := f.cause.inStoredText })
  else .noDocument

end Draft

namespace Store

/-- Writes records under the id of their definition. -/
def writeDraft (s : Store) (d : Draft) : Except Refusal Store := do
  let place ← s.placeFor d.id
  if d.isWritable then .ok (s.put place d.stored) else .error .documentTooDeep

/-- Amends the document of an id. -/
def amend (s : Store) (id : String) (a : Amendment) : Except Amendment.Obstacle Store :=
  match s.load id with
  | .error e => .error (.refused e.refusal)
  | .ok none => .error (.refused (.noDefinition id))
  | .ok (some d) => do
    let draft ← a.amend (.ofDocument d)
    (s.writeDraft draft).mapError .refused

end Store

end WorkflowRelease
