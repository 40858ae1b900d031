import WorkflowRelease.Decimal.Shortest

/-!
# JSON values

Values with ordered objects, unbounded integers and doubles, where an integer and a double of the
same value stay apart. `Fields` are the entries of an object: a look-up takes the first entry of a
key, and `put` keeps the place of a key that is there (`get?_put`).
-/

namespace WorkflowRelease

/-- A JSON value. Entries of an object keep their order. -/
inductive Json where
  | null
  | bool (b : Bool)
  | int (n : Int)
  | float (x : Binary64)
  | text (s : String)
  | list (items : List Json)
  | object (fields : List (String × Json))
deriving Inhabited

/-- The entries of an object, in order. -/
abbrev Fields := List (String × Json)

namespace Json

/-! ## Equality -/

mutual

/-- Equality of values; an integer never equals a double. -/
def same : Json → Json → Bool
  | .null, .null => true
  | .bool a, .bool b => decide (a = b)
  | .int a, .int b => decide (a = b)
  | .float a, .float b => decide (a = b)
  | .text a, .text b => decide (a = b)
  | .list a, .list b => sameList a b
  | .object a, .object b => sameFields a b
  | _, _ => false

def sameList : List Json → List Json → Bool
  | [], [] => true
  | a :: as, b :: bs => same a b && sameList as bs
  | _, _ => false

def sameFields : List (String × Json) → List (String × Json) → Bool
  | [], [] => true
  | (k, a) :: as, (l, b) :: bs => decide (k = l) && same a b && sameFields as bs
  | _, _ => false

end

mutual

theorem eq_of_same : ∀ {a b : Json}, same a b = true → a = b
  | .null, b, h => by cases b <;> simp [same] at h ⊢
  | .bool _, b, h => by cases b <;> simp [same] at h ⊢; exact h
  | .int _, b, h => by cases b <;> simp [same] at h ⊢; exact h
  | .float _, b, h => by cases b <;> simp [same] at h ⊢; exact h
  | .text _, b, h => by cases b <;> simp [same] at h ⊢; exact h
  | .list as, b, h => by cases b <;> simp [same] at h ⊢; exact eq_of_sameList h
  | .object as, b, h => by cases b <;> simp [same] at h ⊢; exact eq_of_sameFields h

theorem eq_of_sameList : ∀ {as bs : List Json}, sameList as bs = true → as = bs
  | [], [], _ => rfl
  | [], _ :: _, h => by simp [sameList] at h
  | _ :: _, [], h => by simp [sameList] at h
  | a :: as, b :: bs, h => by
    simp [sameList] at h
    rw [eq_of_same h.1, eq_of_sameList h.2]

theorem eq_of_sameFields : ∀ {as bs : List (String × Json)}, sameFields as bs = true → as = bs
  | [], [], _ => rfl
  | [], _ :: _, h => by simp [sameFields] at h
  | _ :: _, [], h => by simp [sameFields] at h
  | (k, a) :: as, (l, b) :: bs, h => by
    simp [sameFields] at h
    rw [h.1.1, eq_of_same h.1.2, eq_of_sameFields h.2]

end

mutual

theorem same_refl : ∀ a : Json, same a a = true
  | .null => rfl
  | .bool _ => by simp [same]
  | .int _ => by simp [same]
  | .float _ => by simp [same]
  | .text _ => by simp [same]
  | .list as => by simpa [same] using sameList_refl as
  | .object as => by simpa [same] using sameFields_refl as

theorem sameList_refl : ∀ as : List Json, sameList as as = true
  | [] => rfl
  | a :: as => by simp [sameList, same_refl a, sameList_refl as]

theorem sameFields_refl : ∀ as : List (String × Json), sameFields as as = true
  | [] => rfl
  | (k, a) :: as => by simp [sameFields, same_refl a, sameFields_refl as]

end

instance : DecidableEq Json := fun a b =>
  if h : same a b = true then isTrue (eq_of_same h)
  else isFalse fun e => h (e ▸ same_refl a)

/-! ## Views -/

def text? : Json → Option String
  | .text s => some s
  | _ => none

def list? : Json → Option (List Json)
  | .list items => some items
  | _ => none

def object? : Json → Option Fields
  | .object fields => some fields
  | _ => none

/-- A value as an optional one: `null` stands for nothing. -/
def value? : Json → Option Json
  | .null => none
  | v => some v

/-- Values that count as unset: nothing, false, zero, and whatever is empty. -/
def isFalsy : Json → Bool
  | .null => true
  | .bool b => !b
  | .int n => n = 0
  | .float x => x.pattern = 0
  | .text s => s = ""
  | .list items => items.isEmpty
  | .object fields => fields.isEmpty

def ofText? : Option String → Json
  | none => .null
  | some s => .text s

def texts (ss : List String) : Json := .list (ss.map .text)

end Json

/-! ## Entries of an object -/

namespace Fields

/-- The value under a key. -/
def get? (o : Fields) (key : String) : Option Json := o.lookup key

/-- The value under a key, where `null` and no entry at all are the same. -/
def value? (o : Fields) (key : String) : Option Json := (o.get? key).bind Json.value?

/-- Sets a key. A key that is there keeps its place, a new one comes last. -/
def put (o : Fields) (key : String) (v : Json) : Fields :=
  match o with
  | [] => [(key, v)]
  | (k, w) :: rest => if k = key then (k, v) :: rest else (k, w) :: put rest key v

/-- Sets the keys of `changes` one after the other. -/
def update (o changes : Fields) : Fields := changes.foldl (fun o e => o.put e.1 e.2) o

/-- The entries without a key. -/
def erase (o : Fields) (key : String) : Fields := o.filter (·.1 ≠ key)

def keys (o : Fields) : List String := o.map (·.1)

def values (o : Fields) : List Json := o.map (·.2)

@[simp] theorem get?_nil (key : String) : get? [] key = none := rfl

theorem get?_cons (k : String) (v : Json) (o : Fields) (key : String) :
    get? ((k, v) :: o) key = if k = key then some v else get? o key := by
  by_cases h : k = key
  · simp [get?, h]
  · simp [get?, List.lookup_cons, h, beq_eq_false_iff_ne.2 (Ne.symm h)]

theorem get?_put (o : Fields) (key : String) (v : Json) (k : String) :
    (o.put key v).get? k = if key = k then some v else o.get? k := by
  induction o with
  | nil => simp [put, get?_cons]
  | cons e o ih =>
    obtain ⟨l, w⟩ := e
    by_cases h : l = key
    · subst h
      by_cases hk : l = k <;> simp [put, get?_cons, hk]
    · simp only [put, h, if_false, get?_cons, ih]
      by_cases hk : l = k
      · have : ¬ key = k := fun e => h (hk.trans e.symm)
        simp [hk, this]
      · simp [hk]

end Fields

end WorkflowRelease
