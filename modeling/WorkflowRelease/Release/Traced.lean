import WorkflowRelease.Log.Entry
import WorkflowRelease.Release.Refusal

/-!
# Traced computations

A computation that gives a result or a refusal, and leaves a trace either way: the entries it has
logged and the kinds of ids it has taken. What follows a refusal is not done, and what has been
logged before it stays. Main statement: `result_bind`, the trace has no part in the result.
-/

namespace WorkflowRelease

/-- The records that need ids. -/
inductive IdKind where
  | definition
  | version
  | audit
deriving DecidableEq, Repr

structure Traced (α : Type) where
  result : Except Refusal α
  log : List Log.Entry := []
  taken : List IdKind := []

namespace Traced

variable {α β : Type}

def pure (a : α) : Traced α := { result := .ok a }

def refuse (r : Refusal) : Traced α := { result := .error r }

def bind (x : Traced α) (f : α → Traced β) : Traced β :=
  match x.result with
  | .ok a => ⟨(f a).result, x.log ++ (f a).log, x.taken ++ (f a).taken⟩
  | .error r => ⟨.error r, x.log, x.taken⟩

instance : Monad Traced where
  pure := pure
  bind := bind

/-- Logs the entries. -/
def logAll (entries : List Log.Entry) : Traced Unit := { result := .ok (), log := entries }

/-- Takes an id. -/
def take (kind : IdKind) : Traced Unit := { result := .ok (), taken := [kind] }

/-- The result alone, without a trace. -/
def ofExcept (x : Except Refusal α) : Traced α := { result := x }

/-- Refuses unless a condition holds. -/
def require (condition : Bool) (r : Refusal) : Traced Unit :=
  if condition then pure () else refuse r

@[simp] theorem result_pure (a : α) : (Pure.pure a : Traced α).result = .ok a := rfl

@[simp] theorem result_refuse (r : Refusal) : (refuse r : Traced α).result = .error r := rfl

@[simp] theorem result_logAll (entries : List Log.Entry) : (logAll entries).result = .ok () := rfl

@[simp] theorem result_take (kind : IdKind) : (take kind).result = .ok () := rfl

@[simp] theorem result_ofExcept (x : Except Refusal α) : (ofExcept x).result = x := rfl

theorem result_bind (x : Traced α) (f : α → Traced β) :
    (x >>= f).result = match x.result with
      | .ok a => (f a).result
      | .error r => .error r := by
  show (bind x f).result = _
  unfold bind
  cases x.result <;> rfl

theorem result_bind_of_ok {x : Traced α} {a : α} (h : x.result = .ok a) (f : α → Traced β) :
    (x >>= f).result = (f a).result := by
  rw [result_bind, h]

theorem result_bind_of_error {x : Traced α} {r : Refusal} (h : x.result = .error r)
    (f : α → Traced β) : (x >>= f).result = .error r := by
  rw [result_bind, h]

theorem result_bind_eq_ok_iff {x : Traced α} {f : α → Traced β} {b : β} :
    (x >>= f).result = .ok b ↔ ∃ a, x.result = .ok a ∧ (f a).result = .ok b := by
  rw [result_bind]
  cases x.result <;> simp

theorem result_require_eq_ok_iff {condition : Bool} {r : Refusal} :
    (require condition r).result = .ok () ↔ condition = true := by
  unfold require
  cases condition <;> simp [pure, refuse]

end Traced

end WorkflowRelease
