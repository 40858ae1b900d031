import WorkflowRelease.Release.Commit
import WorkflowRelease.Release.Listing

/-!
# Concurrent operations

Operations of one service that take turns. A unit of work (`unit_of_work`, and `create` for new
documents) begins when its locks are free: the document is loaded and its change staged. Then what
is staged is drafted in a file beside its place, and the draft takes the place of the document
(`_write`); between these actions others may act. The locks go by the texts of ids (`_get_lock`),
not by places, so under two texts for one place two units of work may overlap. A draft is opened
and written in one action; how two texts mix that are written to one draft at the same moment is
left out, and only units of work that overlap could do so. What an action does to the disk stays
whether the operation answers or is refused.
-/

namespace WorkflowRelease

/-! ## Inquiries -/

/-- What a party may ask for without changing anything. -/
inductive Inquiry where
  | definition (id : String)
  | versions (id : String)
  | audits (id : String) (page size : Int)
  | list (query : Query)
deriving DecidableEq

/-- What there is to see in a store. -/
inductive View where
  | definition (d : Definition)
  | versions (vs : List Version)
  | audits (p : Page Audit)
  | list (p : Page Definition)
deriving DecidableEq

/-- The answer to an inquiry (`get_definition`, `list_versions`, `list_publish_audits` and
`list_definitions`). -/
def Store.view (s : Store) (party : Party) : Inquiry → Traced View
  | .definition id => return .definition (← s.readDefinition party id)
  | .versions id => return .versions (← s.listVersions party id)
  | .audits id page size => return .audits (← s.listAudits party id page size)
  | .list query => return .list (← s.list party query)

/-! ## Locks and units of work -/

/-- What at most one operation has at a time. -/
inductive Lock where
  /-- The lock of creations (`_global_lock`). -/
  | creations
  /-- The lock of a text that is used as an id (`_get_lock`). -/
  | ofId (id : String)
deriving DecidableEq

/-- The locks under which a change is made. -/
def Change.locks : Change → List Lock
  | .create definition .. => [.creations, .ofId definition.id]
  | .save id .. | .publish id .. | .update id _ | .remove id => [.ofId id]

/-- The locks that a plan waits for. One that was found wanting is refused without any. -/
def Plan.locks (p : Plan) : List Lock := if p.IsAccepted then p.change.locks else []

/-- What an operation is about to write under its locks. -/
structure Work where
  plan : Plan
  /-- What the records have taken. -/
  supply : Supply
  staged : Staged

namespace Work

def document (u : Work) : Document := u.staged.document

/-- The answer when everything is written. The file of the audit trail is only opened then
(`get_audit_logger`). -/
def answer (u : Work) (audit : Option String) : Except Refusal Outcome :=
  match u.staged.trail, audit with
  | some _, some message => .error (.noAuditLog message)
  | _, _ => .ok u.staged.outcome

end Work

/-- How far an operation has come. -/
inductive Phase where
  /-- It has a plan, and waits for its locks. -/
  | planned (p : Plan)
  | staged (u : Work)
  /-- What is staged is drafted for a place. -/
  | drafted (u : Work) (place : Place)
  | ended (answer : Except Refusal Outcome)

namespace Phase

/-- An operation that has looked goes on with a plan, or has ended. -/
def ofPlan : Except Refusal Plan → Phase
  | .ok p => planned p
  | .error r => ended (.error r)

/-- The unit of work that the operation is in. -/
def work? : Phase → Option Work
  | staged u | drafted u _ => some u
  | planned _ | ended _ => none

/-- The plan of an operation that has one and has not ended. -/
def plan? : Phase → Option Plan
  | planned p => some p
  | staged u | drafted u _ => some u.plan
  | ended _ => none

/-- The answer of an operation that has ended. -/
def answer? : Phase → Option (Except Refusal Outcome)
  | ended answer => some answer
  | planned _ | staged _ | drafted .. => none

/-- The locks that the operation has. -/
def locks (phase : Phase) : List Lock :=
  match phase.work? with
  | some u => u.plan.change.locks
  | none => []

end Phase

/-! ## What is on the disk -/

structure Disk where
  store : Store := {}
  /-- What is drafted, by the places that it is for. -/
  drafts : Store := {}
deriving DecidableEq

namespace Disk

/-- What is said about a draft that is gone. -/
def noDraft : String := "No such file or directory"

/-- Begins the unit of work of a plan. -/
def enter (disk : Disk) (p : Plan) (supply : Supply) : Phase :=
  match (p.enter disk.store supply).result with
  | .ok x => .staged ⟨p, supply, x⟩
  | .error r => .ended (.error r)

/-- Drafts what is staged, or leaves an empty draft: the file is opened before the text is made. -/
def draft (disk : Disk) (u : Work) (fault : Option String) : Disk × Phase :=
  match disk.store.placeFor u.document.definition.id with
  | .error r => (disk, .ended (.error r))
  | .ok place =>
    match fault with
    | some message =>
      ({ disk with drafts := disk.drafts.put place .noDocument },
        .ended (.error (.notWritten message)))
    | none =>
      if u.document.versions.all (·.snapshot.areWritable) then
        ({ disk with drafts := disk.drafts.put place (.document u.document) }, .drafted u place)
      else
        ({ disk with drafts := disk.drafts.put place .noDocument },
          .ended (.error .documentTooDeep))

/-- What is drafted for a place takes it, whoever has drafted it. -/
def settle (disk : Disk) (u : Work) (place : Place) (fault audit : Option String) : Disk × Phase :=
  match fault, disk.drafts.at? place with
  | some message, _ => (disk, .ended (.error (.notWritten message)))
  | none, none => (disk, .ended (.error (.notWritten noDraft)))
  | none, some x =>
    ({ store := disk.store.put place x, drafts := disk.drafts.erase place },
      .ended (u.answer audit))

end Disk

/-! ## Situations -/

/-- What a party has asked for, and how far that has come. -/
structure Operation where
  party : Party
  command : Command
  phase : Phase

/-- The disk, all operations so far in the order of their looks, and what inquiries were told. -/
structure Situation where
  disk : Disk := {}
  operations : List Operation := []
  told : List (Except Refusal View) := []

namespace Situation

def store (w : Situation) : Store := w.disk.store

/-- Some operation has one of the locks. -/
def isHeld (w : Situation) (locks : List Lock) : Bool :=
  w.operations.any fun o => o.phase.locks.any (· ∈ locks)

/-- What the operation with the number has been answered, once it has ended. -/
def answer? (w : Situation) (n : Nat) : Option (Except Refusal Outcome) :=
  w.operations[n]?.bind (·.phase.answer?)

/-- The situation when an operation has got on to another phase. -/
def reach (w : Situation) (n : Nat) (o : Operation) (x : Disk × Phase) : Situation :=
  { w with disk := x.1, operations := w.operations.set n { o with phase := x.2 } }

/-- The places for which units of work are going on. -/
def places (w : Situation) : List Place :=
  w.operations.filterMap fun o => o.phase.work?.bind fun u =>
    (w.store.placeFor u.document.definition.id).toOption

end Situation

/-- What happens to a service at once. An operation is named by its number, and whatever is asked of
the wrong one does not happen. -/
inductive Action where
  /-- A new operation looks at the store and makes a plan. What its review is told may be from
  other moments, so it is left open. -/
  | look (party : Party) (command : Command) (supply : Supply) (directory : Directory Unread)
  | inquire (party : Party) (inquiry : Inquiry)
  /-- The operation enters its unit of work, unless others have one of its locks. -/
  | enter (operation : Nat) (supply : Supply)
  /-- The operation drafts what it has staged; the disk may fail. -/
  | draft (operation : Nat) (fault : Option String)
  /-- The draft of the operation takes its place; the disk may fail, and so may the audit log. -/
  | settle (operation : Nat) (fault audit : Option String)

namespace Service

/-- The situation before any action. -/
def calm (s : Service) : Situation := { disk := { store := { folder := s.folder } } }

/-- The situation after an action. -/
def advance (s : Service) (w : Situation) : Action → Situation
  | .look party command supply directory =>
    let plan := (s.planAsking w.store directory party supply command).result
    { w with operations := w.operations ++ [⟨party, command, .ofPlan plan⟩] }
  | .inquire party inquiry => { w with told := w.told ++ [(w.store.view party inquiry).result] }
  | .enter n supply =>
    match w.operations[n]? with
    | some ⟨party, command, .planned p⟩ =>
      if w.isHeld p.locks then w
      else w.reach n ⟨party, command, .planned p⟩ (w.disk, w.disk.enter p supply)
    | _ => w
  | .draft n fault =>
    match w.operations[n]? with
    | some ⟨party, command, .staged u⟩ =>
      w.reach n ⟨party, command, .staged u⟩ (w.disk.draft u fault)
    | _ => w
  | .settle n fault audit =>
    match w.operations[n]? with
    | some ⟨party, command, .drafted u place⟩ =>
      w.reach n ⟨party, command, .drafted u place⟩ (w.disk.settle u place fault audit)
    | _ => w

/-- The situation after some actions, from an empty store on. -/
def situation (s : Service) (as : List Action) : Situation := as.foldl s.advance s.calm

/-- With the action of the number, an operation ends with an answer. -/
def Finishes (s : Service) (as : List Action) (i n : Nat) (answer : Except Refusal Outcome) :
    Prop :=
  (s.situation (as.take i)).answer? n = none ∧
    (s.situation (as.take (i + 1))).answer? n = some answer

/-- No two units of work for one place ever overlap. -/
def IsOrderly (s : Service) (as : List Action) : Prop :=
  ∀ i ∈ List.range (as.length + 1), (s.situation (as.take i)).places.Nodup

instance (s : Service) (as : List Action) : Decidable (s.IsOrderly as) := by
  unfold IsOrderly
  infer_instance

end Service

end WorkflowRelease
