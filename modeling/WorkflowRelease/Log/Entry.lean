import WorkflowRelease.Json.Printer

/-!
# Log entries

What is logged: a message at a level by a named logger, with fields. An entry is written as an
object on one line (`JSONFormatter`) or as plain text (`TextFormatter`).
-/

namespace WorkflowRelease.Log

inductive Level where
  | debug
  | info
  | warning
  | error
  | critical
deriving DecidableEq, Repr

namespace Level

def word : Level → String
  | debug => "DEBUG"
  | info => "INFO"
  | warning => "WARNING"
  | error => "ERROR"
  | critical => "CRITICAL"

/-- Levels are ten apart. -/
def weight : Level → Nat
  | debug => 10
  | info => 20
  | warning => 30
  | error => 40
  | critical => 50

end Level

/-- The name under which the part of a service logs. -/
def serviceName (part : String) : String := "flowgate.service." ++ part

/-- The name of the audit trail. -/
def auditName : String := "flowgate.audit"

structure Entry where
  logger : String
  level : Level := .info
  message : String
  fields : Fields := []
  /-- The entry reports the error at hand, which is none. -/
  reportsError : Bool := false
deriving DecidableEq

/-- The report of the error at hand when there is none. -/
def noError : String := "NoneType: None"

/-- The one name under which a field is taken and not shown. -/
def hiddenField : String := "taskName"

namespace Entry

/-- The fields that are shown. -/
def shownFields (e : Entry) : Fields := e.fields.filter (·.1 ≠ hiddenField)

/-- What stands before the fields. -/
def heading (e : Entry) : Fields :=
  [("level", .text e.level.word), ("logger", .text e.logger), ("message", .text e.message)] ++
  if e.reportsError then [("exception", .text noError)] else []

/-- The entry as an object. A field of a name that stands there replaces its value. -/
def document (e : Entry) : Fields := e.heading.update e.shownFields

/-- The entry as an object on one line, with its time. -/
def line (time : String) (e : Entry) : String :=
  (Json.object (Fields.update (("timestamp", .text time) :: e.heading) e.shownFields)).line

/-- The message ends with a line break. -/
def endsLine (e : Entry) : Bool := e.message.toList.getLast? = some '\n'

/-- The entry in plain text, without its fields. The error at hand has a line of its own. -/
def plain (time : String) (e : Entry) : String :=
  time ++ " - " ++ e.logger ++ " - " ++ e.level.word ++ " - " ++ e.message ++
    if e.reportsError then (if e.endsLine then "" else "\n") ++ noError else ""

theorem get?_update {o changes : Fields} (h : changes.keys.Nodup) (key : String) :
    (o.update changes).get? key = (changes.get? key).or (o.get? key) := by
  induction changes generalizing o with
  | nil => simp [Fields.update]
  | cons c cs ih =>
    obtain ⟨k, v⟩ := c
    obtain ⟨hk, hcs⟩ := List.nodup_cons.1 h
    have e : Fields.update o ((k, v) :: cs) = Fields.update (o.put k v) cs := rfl
    rw [e, ih hcs, Fields.get?_put, Fields.get?_cons]
    by_cases hkey : k = key
    · have hn : Fields.get? cs key = none := by
        refine List.lookup_eq_none_iff.2 fun p hp => ?_
        have : p.1 ∈ Fields.keys cs := List.mem_map_of_mem hp
        simp only [bne_iff_ne, ne_eq]
        exact fun e => hk (hkey.trans e ▸ this)
      simp [hkey, hn]
    · simp [hkey]

end Entry

end WorkflowRelease.Log
