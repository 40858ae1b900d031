import Mathlib.Data.Nat.Init
import WorkflowRelease.Proofs.Run.Apart

/-!
# The course of a run

The scenes of a run by the number of moves that have been made, and what operations do at which
move. Main statements: `kept_from`, what each move keeps holds from some move on, and
`waiting_of_le`, a plan waits unchanged.
-/

namespace WorkflowRelease

/-- The operation that makes a move. -/
def Scene.mover (w : Scene) : Move → Nat
  | .look .. => w.plans.length
  | .act n _ => n

namespace Service

/-- The scene after some number of moves of a run. -/
def sceneAt (s : Service) (ms : List Move) (i : Nat) : Scene := s.run (ms.take i)

/-- With the move of the number, an operation of a party looks, to carry out a command. -/
def Asks (s : Service) (ms : List Move) (i n : Nat) (party : Party) (command : Command) : Prop :=
  ∃ supply directory, ms[i]? = some (.look party command supply directory) ∧
    (s.sceneAt ms i).plans.length = n

/-- With the move of the number, an operation that is to publish looks at the document of an id. -/
def LooksToPublish (s : Service) (ms : List Move) (i n : Nat) (id : String) (d : Document) :
    Prop :=
  ∃ party request supply directory,
    ms[i]? = some (.look party (.publish id request) supply directory) ∧
    (s.sceneAt ms i).plans.length = n ∧ (s.sceneAt ms i).store.load id = .ok (some d)

/-- With the move of the number, an operation ends with an answer. -/
def Ends (s : Service) (ms : List Move) (i n : Nat) (answer : Except Refusal Outcome) : Prop :=
  ∃ m, ms[i]? = some m ∧ (s.sceneAt ms i).mover m = n ∧ s.answer (s.sceneAt ms i) m = some answer

variable {s : Service} {ms : List Move} {m : Move} {i j n : Nat}

theorem sceneAt_succ (h : ms[i]? = some m) :
    s.sceneAt ms (i + 1) = s.step (s.sceneAt ms i) m := by
  rw [sceneAt, List.take_add_one, h, Option.toList_some, run_concat]
  rfl

theorem sceneAt_succ_of_none (h : ms[i]? = none) : s.sceneAt ms (i + 1) = s.sceneAt ms i := by
  rw [sceneAt, List.take_add_one, h, Option.toList_none, List.append_nil]
  rfl

/-- What each move from some move on keeps holds from there on, if it holds there. -/
theorem kept_from {I : List Move → Scene → Prop} (h : I (ms.take i) (s.sceneAt ms i))
    (hs : ∀ j m, i ≤ j → ms[j]? = some m → I (ms.take j) (s.sceneAt ms j) →
      I (ms.take j ++ [m]) (s.step (s.sceneAt ms j) m))
    (hij : i ≤ j) : I (ms.take j) (s.sceneAt ms j) := by
  induction j, hij using Nat.le_induction with
  | base => exact h
  | succ j hij ih =>
    cases hm : ms[j]? with
    | none =>
      rw [sceneAt, List.take_add_one, hm, Option.toList_none, List.append_nil]
      exact ih
    | some m =>
      rw [sceneAt_succ hm, List.take_add_one, hm]
      exact hs j m hij hm ih

theorem neat_sceneAt (s : Service) (ms : List Move) (i : Nat) : (s.sceneAt ms i).store.Neat :=
  neat_run s (ms.take i)

@[simp] theorem folder_sceneAt (s : Service) (ms : List Move) (i : Nat) :
    (s.sceneAt ms i).store.folder = s.folder :=
  folder_run s (ms.take i)

theorem length_plans_le (s : Service) (ms : List Move) (hij : i ≤ j) :
    (s.sceneAt ms i).plans.length ≤ (s.sceneAt ms j).plans.length :=
  kept_from (I := fun _ w => (s.sceneAt ms i).plans.length ≤ w.plans.length) (Nat.le_refl _)
    (fun _ m _ _ ih => Nat.le_trans ih (length_plans_step s _ m)) hij

theorem lt_length_of_waiting {w : Scene} {p : Plan} (h : w.waiting n = some p) :
    n < w.plans.length := by
  by_contra hn
  have hnone : w.plans[n]? = none := List.getElem?_eq_none (by omega)
  simp [Scene.waiting, hnone] at h

/-- A plan that waits for an operation that has looked did so from its look on. -/
theorem waiting_of_le (hij : i ≤ j) (hn : n < (s.sceneAt ms i).plans.length) {p : Plan}
    (h : (s.sceneAt ms j).waiting n = some p) : (s.sceneAt ms i).waiting n = some p := by
  refine kept_from (I := fun _ w => w.waiting n = some p → _ = some p) id ?_ hij h
  intro j m hij _ ih h
  rcases waiting_step h with ⟨hw, -⟩ | ⟨_, _, _, _, _, hk, _⟩
  · exact ih hw
  · have hle := length_plans_le s ms hij
    omega

/-- The plan that an operation acts on is the one that it has made with its look. -/
theorem planned_of_look {party : Party} {command : Command} {supply : Supply}
    {directory : Directory Unread} (hm : ms[i]? = some (.look party command supply directory))
    (hn : (s.sceneAt ms i).plans.length = n) {p : Plan}
    (hp : (s.sceneAt ms j).waiting n = some p) :
    i < j ∧ Planned s (s.sceneAt ms i).store directory party supply command p := by
  have hlt := lt_length_of_waiting hp
  have hij : i < j := by
    by_contra hle
    have hlen := length_plans_le s ms (Nat.le_of_not_lt hle)
    omega
  refine ⟨hij, ?_⟩
  have hlook := sceneAt_succ (s := s) hm
  have hlen : n < (s.sceneAt ms (i + 1)).plans.length := by
    rw [hlook]
    simp [step, hn]
  have hwait := waiting_of_le hij hlen hp
  rw [hlook, waiting_look, if_pos hn.symm] at hwait
  exact planned_of_planAsking (eq_ok_of_toOption hwait)

/-! ## Marks -/

variable {draw : Move → List String} {mark : Definition → String}

theorem apart_sceneAt (s : Service) (hd : Draws draw mark) (h : (ms.flatMap draw).Nodup)
    (i : Nat) : Apart mark ((ms.take i).flatMap draw) (s.sceneAt ms i) := by
  rw [← List.take_append_drop i ms] at h
  exact apart_run s hd _ (nodup_of_append h)

theorem not_mem_take_of_nodup (h : (ms.flatMap draw).Nodup) (hm : ms[i]? = some m) :
    ∀ x ∈ draw m, x ∉ (ms.take i).flatMap draw := by
  intro x hx
  rw [← List.take_append_drop (i + 1) ms] at h
  have htake := nodup_of_append h
  rw [List.take_add_one, hm] at htake
  exact not_mem_of_nodup htake hx

/-! ## Ends -/

/-- An operation that acts on its plan ends with what comes of the plan. -/
theorem ends_of_waiting {supply : Supply} {p : Plan} (hm : ms[i]? = some (.act n supply))
    (hp : (s.sceneAt ms i).waiting n = some p) {x : Except Refusal (Store × Outcome)}
    (hx : (p.commit (s.sceneAt ms i).store supply).result = x) :
    s.Ends ms i n (x.map Prod.snd) :=
  ⟨_, hm, rfl, by rw [answer, Scene.deed, hp, ← hx]; rfl⟩

/-- An operation that ends well acts on a plan that goes through. -/
theorem Ends.commit {o : Outcome} (h : s.Ends ms i n (.ok o)) :
    ∃ supply p, ms[i]? = some (.act n supply) ∧ (s.sceneAt ms i).waiting n = some p ∧
      (p.commit (s.sceneAt ms i).store supply).result =
        .ok ((s.sceneAt ms (i + 1)).store, o) := by
  obtain ⟨m, hm, hn, ha⟩ := h
  rw [sceneAt_succ hm]
  cases m with
  | look party command supply directory =>
    simp only [answer] at ha
    split at ha
    · cases ha
    · cases ha
  | act k supply =>
    have hk : k = n := hn
    subst hk
    cases hp : (s.sceneAt ms i).waiting k with
    | none => simp [answer, Scene.deed, hp] at ha
    | some p =>
      cases hc : (p.commit (s.sceneAt ms i).store supply).result with
      | error r => simp [answer, Scene.deed, hp, hc, Except.map] at ha
      | ok x =>
        simp only [answer, Scene.deed, hp, hc, Option.map_some, Except.map,
          Option.some.injEq, Except.ok.injEq] at ha
        refine ⟨supply, p, hm, rfl, ?_⟩
        subst ha
        simp only [step, Scene.deed, hp, hc, Option.map_some]

/-- An operation that ends with a refusal leaves what is stored as it is. -/
theorem Ends.store_of_error {r : Refusal} (h : s.Ends ms i n (.error r)) :
    (s.sceneAt ms (i + 1)).store = (s.sceneAt ms i).store := by
  obtain ⟨m, hm, -, ha⟩ := h
  rw [sceneAt_succ hm]
  rcases store_step s (s.sceneAt ms i) m with hs | ⟨k, supply, p, o, rfl, hp, hc⟩
  · exact hs
  · simp [answer, Scene.deed, hp, hc, Except.map] at ha

end Service

end WorkflowRelease
