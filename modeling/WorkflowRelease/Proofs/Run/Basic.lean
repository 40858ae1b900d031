import WorkflowRelease.Release.Commit

/-!
# Runs

A run of a service is a list of moves of any number of operations, in any order. Every operation
moves twice: it looks at the store and makes a plan, and later it acts on its plan, at once. Others
may move in between. So a run is a schedule in which nothing comes into a unit of work: it is one of
the orderly schedules of `Concurrent` (`rests_actions`), and each of these stores what some run does
(`follows_serial`). Main statements: `waiting_step`, where a plan that waits comes from, and
`store_step`, only an operation that acts on its plan changes the store.
-/

namespace WorkflowRelease

/-- A move of an operation. Operations are numbered in the order of their looks. -/
inductive Move where
  /-- A new operation looks at the store and makes a plan. What its review is told may be from
  other moments, so it is left open. -/
  | look (party : Party) (command : Command) (supply : Supply)
    (directory : Directory Unread)
  /-- The operation with the number acts on its plan. -/
  | act (operation : Nat) (supply : Supply)

/-- What is stored, and the plans of all operations so far. A plan that was not made, or that has
been acted on, is none. -/
structure Scene where
  store : Store := {}
  plans : List (Option Plan) := []

namespace Scene

/-- The plan that an operation waits to act on. -/
def waiting (w : Scene) (n : Nat) : Option Plan := w.plans[n]?.join

/-- What comes of it when an operation that waits acts on its plan. -/
def deed (w : Scene) (n : Nat) (supply : Supply) : Option (Except Refusal (Store × Outcome)) :=
  (w.waiting n).map fun p => (p.commit w.store supply).result

/-- The definition that an operation waits to found. -/
def founding (w : Scene) (n : Nat) : Option Definition :=
  (w.waiting n).bind fun p => match p.change with
    | .create definition _ _ => some definition
    | _ => none

end Scene

namespace Service

/-- The scene before any move: a folder in which nothing is stored. -/
def start (s : Service) : Scene := { store := { folder := s.folder } }

/-- What a move does. Nothing comes in between the parts of an act, so a refusal of it, which comes
before anything is written, leaves the store as it is. -/
def step (s : Service) (w : Scene) : Move → Scene
  | .look party command supply directory =>
    let plan := (s.planAsking w.store directory party supply command).result
    { w with plans := w.plans ++ [plan.toOption] }
  | .act n supply =>
    match w.deed n supply with
    | some (.ok (store, _)) => ⟨store, w.plans.set n none⟩
    | some (.error _) => { w with plans := w.plans.set n none }
    | none => w

/-- What a move answers. A look does so only if no plan is made. -/
def answer (s : Service) (w : Scene) : Move → Option (Except Refusal Outcome)
  | .look party command supply directory =>
    match (s.planAsking w.store directory party supply command).result with
    | .ok _ => none
    | .error r => some (.error r)
  | .act n supply => (w.deed n supply).map (·.map Prod.snd)

/-- The scene after some moves, from an empty store on. -/
def run (s : Service) (ms : List Move) : Scene := ms.foldl s.step s.start

@[simp] theorem run_nil (s : Service) : s.run [] = s.start := rfl

@[simp] theorem run_concat (s : Service) (ms : List Move) (m : Move) :
    s.run (ms ++ [m]) = s.step (s.run ms) m := by
  simp [run, List.foldl_append]

end Service

/-! ## Ids and times -/

/-- The ids that a move may give to records. -/
def Move.ids : Move → List String
  | .look _ (.create _) supply _ => [supply.definitionId]
  | .look .. => []
  | .act _ supply => [supply.versionId, supply.auditId]

/-- The time that a move may give to records, if there is one. -/
def Move.times : Move → List String
  | .look _ (.create _) supply _ => supply.time.toOption.toList
  | .look .. => []
  | .act _ supply => supply.time.toOption.toList

/-- The ids of a run are drawn: each one is a label and some digits, and none is drawn twice. -/
structure Drawn (ms : List Move) : Prop where
  names : ∀ id ∈ ms.flatMap Move.ids, IsName id
  nodup : (ms.flatMap Move.ids).Nodup

/-- Ids that are names lead to different places. -/
theorem IsName.eq_of_place {f : Folder} {id id' : String} (h : IsName id) (h' : IsName id')
    (hp : f.placeOf id = f.placeOf id') : id = id' := by
  rw [f.placeOf_of_isName h, f.placeOf_of_isName h'] at hp
  simpa using hp

theorem not_mem_of_nodup {draw : Move → List String} {ms : List Move} {m : Move}
    (h : ((ms ++ [m]).flatMap draw).Nodup) {x : String} (hx : x ∈ draw m) :
    x ∉ ms.flatMap draw := by
  simp only [List.flatMap_append, List.flatMap_cons, List.flatMap_nil, List.append_nil] at h
  exact fun hm => (List.nodup_append.1 h).2.2 x hm x hx rfl

theorem nodup_of_append {draw : Move → List String} {ms ms' : List Move}
    (h : ((ms ++ ms').flatMap draw).Nodup) : (ms.flatMap draw).Nodup := by
  rw [List.flatMap_append] at h
  exact (List.nodup_append.1 h).1

theorem Drawn.of_append {ms ms' : List Move} (h : Drawn (ms ++ ms')) : Drawn ms where
  names id hid := h.names id (by rw [List.flatMap_append]; exact List.mem_append_left _ hid)
  nodup := nodup_of_append h.nodup

/-! ## What a move does -/

theorem eq_ok_of_toOption {ε α : Type} {x : Except ε α} {a : α} (h : x.toOption = some a) :
    x = .ok a := by
  cases x with
  | error e => cases h
  | ok b =>
    cases h
    rfl

namespace Service

variable {s : Service} {w : Scene}

theorem waiting_look (s : Service) (w : Scene) (party : Party) (command : Command)
    (supply : Supply) (directory : Directory Unread) (k : Nat) :
    (s.step w (.look party command supply directory)).waiting k =
      if k = w.plans.length then
        (s.planAsking w.store directory party supply command).result.toOption
      else w.waiting k := by
  simp only [step, Scene.waiting, List.getElem?_append]
  split
  · rw [if_neg (by omega)]
  · rename_i h
    by_cases hk : k = w.plans.length
    · simp [hk]
    · obtain ⟨i, hi⟩ : ∃ i, k - w.plans.length = i + 1 := ⟨k - w.plans.length - 1, by omega⟩
      rw [if_neg hk, hi, List.getElem?_eq_none (by simp), List.getElem?_eq_none (by omega)]

theorem waiting_act (s : Service) (w : Scene) (n : Nat) (supply : Supply) (k : Nat) :
    (s.step w (.act n supply)).waiting k = if k = n then none else w.waiting k := by
  have hset : ∀ store, Scene.waiting ⟨store, w.plans.set n none⟩ k =
      if k = n then none else w.waiting k := by
    intro store
    simp only [Scene.waiting, List.getElem?_set]
    by_cases hk : n = k
    · subst hk
      simp only [if_true]
      split <;> rfl
    · rw [if_neg hk, if_neg (Ne.symm hk)]
  simp only [step]
  split
  · exact hset _
  · exact hset _
  · rename_i h
    have hn : w.waiting n = none := by simpa [Scene.deed] using h
    split
    · subst k
      exact hn
    · rfl

/-- A plan that waits was waiting before, or has just been made. -/
theorem waiting_step {m : Move} {k : Nat} {p : Plan} (h : (s.step w m).waiting k = some p) :
    (w.waiting k = some p ∧ ∀ n supply, m = .act n supply → n ≠ k) ∨
    ∃ party command supply directory, m = .look party command supply directory ∧
      k = w.plans.length ∧
      (s.planAsking w.store directory party supply command).result = .ok p := by
  cases m with
  | look party command supply directory =>
    rw [waiting_look] at h
    split at h
    · rename_i hk
      exact .inr ⟨party, command, supply, directory, rfl, hk, eq_ok_of_toOption h⟩
    · exact .inl ⟨h, by simp⟩
  | act n supply =>
    rw [waiting_act] at h
    split at h
    · cases h
    · rename_i hk
      refine .inl ⟨h, ?_⟩
      rintro _ _ ⟨⟩
      exact Ne.symm hk

/-- A move leaves the store as it is, unless it acts on a plan that waits and goes through. -/
theorem store_step (s : Service) (w : Scene) (m : Move) :
    (s.step w m).store = w.store ∨
    ∃ n supply p outcome, m = .act n supply ∧ w.waiting n = some p ∧
      (p.commit w.store supply).result = .ok ((s.step w m).store, outcome) := by
  cases m with
  | look => exact .inl rfl
  | act n supply =>
    cases hp : w.waiting n with
    | none => simp [step, Scene.deed, hp]
    | some p =>
      cases hc : (p.commit w.store supply).result with
      | error r => simp [step, Scene.deed, hp, hc]
      | ok x =>
        refine .inr ⟨n, supply, p, x.2, rfl, hp, ?_⟩
        simp [step, Scene.deed, hp, hc]

theorem length_plans_step (s : Service) (w : Scene) (m : Move) :
    w.plans.length ≤ (s.step w m).plans.length := by
  cases m with
  | look => simp [step]
  | act n supply => simp only [step]; split <;> simp

end Service

/-! ## A small run -/

namespace Sample

def service : Service := { folder := { path := ["data", "workflows"] } }

/-- A node whose name is its id. -/
def node (id type : String) : Json :=
  .object [("id", .text id), ("type", .text type), ("name", .text id)]

/-- An edge whose id is that of the node that it leaves. -/
def edge (source target : String) : Json :=
  .object [("id", .text source), ("from", .text source), ("to", .text target)]

/-- A workflow that may be published. -/
def snapshot : Fields :=
  [("nodes", .list [node "start" "manual-trigger", node "data" "data-fetch",
      node "rule" "rule-eval", node "agent" "single-agent", node "gate" "risk-gate"]),
    ("edges", .list [edge "start" "data", edge "data" "rule", edge "rule" "agent",
      edge "agent" "gate"]),
    ("runPolicy", .object [("nodeDefaults", .object [("timeoutMs", .int 1000),
      ("retryCount", .int 1), ("retryBackoffMs", .int 1), ("onError", .text "FAIL_FAST")])])]

/-- Lists inside one another. -/
def nested : Nat → Json
  | 0 => .null
  | n + 1 => .list [nested n]

/-- A workflow whose trigger is set up by deep lists. -/
def deep : Fields :=
  [("nodes", .list [.object [("id", .text "start"), ("type", .text "manual-trigger"),
      ("name", .text "start"), ("config", .object [("deep", nested 200)])],
      node "data" "data-fetch"]),
    ("edges", .list [edge "start" "data"])]

/-- What the records of a numbered move take. -/
def supply (n : Nat) : Supply where
  time := .ok ("time-" ++ toString n)
  definitionId := "definition-" ++ toString n
  versionId := "version-" ++ toString n
  auditId := "audit-" ++ toString n

/-- A directory that knows no other workflow. -/
def directory : Directory Unread := ⟨fun _ _ => .ok false, fun _ _ => .ok false⟩

def owner : Party := .user "owner"

def guest : Party := .user "guest"

def look (n : Nat) (command : Command) : Move := .look owner command (supply n) directory

def act (operation n : Nat) : Move := .act operation (supply n)

def request : CreateRequest where
  workflowId := "linear"
  name := "Linear"
  mode := .linear
  snapshot := some snapshot

/-- The owner makes a definition. -/
def founding (snapshot : Fields) : List Move :=
  [look 0 (.create { request with snapshot := some snapshot }), act 0 1]

theorem drawn_founding (snapshot : Fields) : Drawn (founding snapshot) where
  names := by
    show ∀ id ∈ ["definition-0", "version-1", "audit-1"], IsName id
    decide +kernel
  nodup := by
    show ["definition-0", "version-1", "audit-1"].Nodup
    decide +kernel

def publish (code : String) : Command := .publish "definition-0" { versionCode := some code }

/-- Two operations that publish the first version look at it at a time, and a third one looks at the
draft after it. -/
def before : List Move :=
  [look 0 (.create request), act 0 1, look 2 (publish "1.0.0"), look 3 (publish "1.0.0"),
    act 2 4, act 1 5, look 6 (publish "1.0.1")]

/-- The third one publishes the draft. -/
def moves : List Move := before ++ [act 3 7]

theorem drawn_moves : Drawn moves where
  names := by decide +kernel
  nodup := by decide +kernel

end Sample

end WorkflowRelease
