import WorkflowRelease.Settings

/-!
# Settings that are not set

An entry of the settings is unset when the path of keys to it breaks off in the file, or leads to
nothing. It has its default then, unless the environment sets it, but for the two entries on
retries: these may be set to anything, and a `null` in their place is taken as it is. Main
statements: `set?_eq_some_iff`, what counts as set, `Entry.get_load`, where the value of an entry
comes from, and `default_unless_null`. `null_kept` is a file in which such a `null` stands.
-/

namespace WorkflowRelease

namespace Settings

/-! ## Entries -/

/-- The entries of the settings. -/
inductive Entry where
  | dataDir
  | logLevel
  | logFormat
  | logsPath
  | auditToFile
  | minPublishedVersion
  | registryCatalogPath
  | outputNodeTypes
  | timeoutMs
  | retryCount
  | retryBackoffMs
  | onError
deriving DecidableEq

namespace Entry

/-- The keys that lead to the entry in a file. -/
def path : Entry → List String
  | dataDir => ["storage", "data_dir"]
  | logLevel => ["logging", "level"]
  | logFormat => ["logging", "format"]
  | logsPath => ["logging", "logs_dir"]
  | auditToFile => ["logging", "audit_to_file"]
  | minPublishedVersion => ["governance", "min_published_version"]
  | registryCatalogPath => ["governance", "catalog_path"]
  | outputNodeTypes => ["governance", "output_node_types"]
  | timeoutMs => ["run_policy", "defaults", "timeout_ms"]
  | retryCount => ["run_policy", "defaults", "retry_count"]
  | retryBackoffMs => ["run_policy", "defaults", "retry_backoff_ms"]
  | onError => ["run_policy", "defaults", "on_error"]

def get (s : Settings) : Entry → Json
  | dataDir => s.dataDir
  | logLevel => s.logLevel
  | logFormat => s.logFormat
  | logsPath => s.logsPath
  | auditToFile => s.auditToFile
  | minPublishedVersion => s.minPublishedVersion
  | registryCatalogPath => s.registryCatalogPath
  | outputNodeTypes => s.outputNodeTypes
  | timeoutMs => s.timeoutMs
  | retryCount => s.retryCount
  | retryBackoffMs => s.retryBackoffMs
  | onError => s.onError

/-- The built-in value. -/
def default (e : Entry) : Json := e.get {}

/-- What a variable of the environment has for the entry. -/
def ofEnvironment? (environment : Environment) : Entry → Option String
  | dataDir => environment.dataDir
  | logLevel => environment.logLevel
  | _ => none

/-- No variable sets the entry. An empty one sets nothing. -/
def IsFree (e : Entry) (environment : Environment) : Prop :=
  ∀ text, e.ofEnvironment? environment = some text → text = ""

end Entry

/-! ## Paths in a file -/

/-- The keys lead through objects to the value. -/
inductive Holds : Json → List String → Json → Prop
  | here (v : Json) : Holds v [] v
  | under {o : Fields} {key : String} {keys : List String} {v w : Json}
      (entry : o.get? key = some v) (holds : Holds v keys w) : Holds (.object o) (key :: keys) w

/-- Nothing is set under the keys: the value that they lead to, or one on the way to it, is missing
or nothing, or one on the way is no object. -/
inductive Unset : Json → List String → Prop
  | null (keys : List String) : Unset .null keys
  | noObject {v : Json} {key : String} {keys : List String} (other : v.object? = none) :
      Unset v (key :: keys)
  | missing {o : Fields} {key : String} {keys : List String} (absent : o.get? key = none) :
      Unset (.object o) (key :: keys)
  | under {o : Fields} {key : String} {keys : List String} {v : Json}
      (entry : o.get? key = some v) (unset : Unset v keys) : Unset (.object o) (key :: keys)

theorem holds_nil_iff {v w : Json} : Holds v [] w ↔ w = v := by
  constructor
  · rintro ⟨⟩
    rfl
  · rintro rfl
    exact .here w

theorem holds_object_iff {o : Fields} {key : String} {keys : List String} {w : Json} :
    Holds (.object o) (key :: keys) w ↔ ∃ v, o.get? key = some v ∧ Holds v keys w := by
  constructor
  · rintro (_ | ⟨entry, holds⟩)
    exact ⟨_, entry, holds⟩
  · rintro ⟨v, entry, holds⟩
    exact .under entry holds

/-- Where nothing is set, there is nothing but a `null`. -/
theorem Unset.eq_null {v w : Json} {keys : List String} (h : Unset v keys) (hw : Holds v keys w) :
    w = .null := by
  induction h with
  | null keys =>
    cases hw
    rfl
  | noObject other =>
    cases hw
    cases other
  | missing absent =>
    obtain ⟨v, entry, -⟩ := holds_object_iff.1 hw
    rw [absent] at entry
    cases entry
  | under entry _ ih =>
    obtain ⟨v, entry', holds⟩ := holds_object_iff.1 hw
    rw [entry] at entry'
    cases entry'
    exact ih holds

/-- The value under some keys is what they lead to, unless that is an empty object. -/
theorem valueAt?_eq_some_iff {v w : Json} {keys : List String} :
    valueAt? v keys = some w ↔ Holds v keys w ∧ w ≠ .object [] := by
  induction keys generalizing v with
  | nil =>
    rw [valueAt?, Option.ite_none_left_eq_some, holds_nil_iff, Option.some.injEq]
    constructor
    · rintro ⟨hne, rfl⟩
      exact ⟨rfl, hne⟩
    · rintro ⟨rfl, hne⟩
      exact ⟨hne, rfl⟩
  | cons key keys ih =>
    cases v with
    | object o =>
      rw [holds_object_iff, valueAt?]
      cases hentry : Fields.get? o key with
      | none => simp
      | some v => simp [ih]
    | _ =>
      constructor
      · rintro ⟨⟩
      · rintro ⟨⟨⟩, -⟩

/-- **What counts as set** is what the keys lead to, unless it is empty, zero or false. -/
theorem set?_eq_some_iff {file w : Json} {keys : List String} :
    set? file keys = some w ↔ Holds file keys w ∧ w.isFalsy = false := by
  rw [set?, Option.filter_eq_some_iff, valueAt?_eq_some_iff, Bool.not_eq_true', and_assoc]
  refine and_congr_right fun _ => and_iff_right_of_imp ?_
  rintro hw rfl
  cases hw

theorem set?_of_unset {file : Json} {keys : List String} (h : Unset file keys) :
    set? file keys = none := by
  refine Option.eq_none_iff_forall_ne_some.2 fun w hw => ?_
  obtain ⟨hholds, hw⟩ := set?_eq_some_iff.1 hw
  rw [h.eq_null hholds] at hw
  cases hw

theorem valueAt?_eq_null_iff {file : Json} {keys : List String} :
    valueAt? file keys = some .null ↔ Holds file keys .null :=
  valueAt?_eq_some_iff.trans (and_iff_left nofun)

/-- Of what is not set only a `null` has a value. -/
theorem valueAt?_of_unset {file : Json} {keys : List String} (h : Unset file keys)
    (hnull : ¬Holds file keys .null) : valueAt? file keys = none := by
  refine Option.eq_none_iff_forall_ne_some.2 fun w hw => hnull ?_
  obtain ⟨hholds, -⟩ := valueAt?_eq_some_iff.1 hw
  rwa [h.eq_null hholds] at hholds

/-! ## Where values come from -/

namespace Entry

/-- The entries on retries are taken as they stand in a file. -/
def TakesNull (e : Entry) : Prop := e = .retryCount ∨ e = .retryBackoffMs

instance (e : Entry) : Decidable e.TakesNull := inferInstanceAs (Decidable (_ ∨ _))

/-- What a file makes of the entry. -/
def ofFile (file : Json) (e : Entry) : Json :=
  if e.TakesNull then (valueAt? file e.path).getD e.default
  else if e = .auditToFile then .bool (set? file e.path).isSome
  else (set? file e.path).getD e.default

/-- **The value of an entry** is that of a variable, or else it is up to the file. -/
theorem get_load (e : Entry) (file : Json) (environment : Environment) :
    e.get (load (some file) environment) =
      (nonempty? (e.ofEnvironment? environment)).getD (e.ofFile file) := by
  cases e <;> rfl

theorem get_load_of_free {e : Entry} {environment : Environment} (h : e.IsFree environment)
    (file : Json) : e.get (load (some file) environment) = e.ofFile file := by
  have hnone : nonempty? (e.ofEnvironment? environment) = none := by
    cases hv : e.ofEnvironment? environment with
    | none => rfl
    | some text =>
      rw [h text hv]
      rfl
  rw [get_load, hnone, Option.getD_none]

theorem default_ne_null (e : Entry) : e.default ≠ .null := by
  cases e <;> exact nofun

/-- Where nothing is set an entry has its default, unless it is one on retries and a `null`. -/
theorem ofFile_of_unset {e : Entry} {file : Json} (hunset : Unset file e.path)
    (h : ¬(e.TakesNull ∧ Holds file e.path .null)) : e.ofFile file = e.default := by
  rw [ofFile]
  split
  · rename_i htakes
    rw [valueAt?_of_unset hunset fun hnull => h ⟨htakes, hnull⟩, Option.getD_none]
  · rw [set?_of_unset hunset, Option.getD_none]
    split
    · rename_i haudit
      rw [haudit]
      rfl
    · rfl

theorem ofFile_eq_null_iff {e : Entry} {file : Json} :
    e.ofFile file = .null ↔ e.TakesNull ∧ Holds file e.path .null := by
  rw [ofFile]
  split
  · rename_i htakes
    rw [← valueAt?_eq_null_iff]
    cases valueAt? file e.path with
    | none => simp [default_ne_null]
    | some v => simp [htakes]
  · rename_i htakes
    simp only [htakes, false_and, iff_false]
    split
    · exact nofun
    · cases hset : set? file e.path with
      | none => exact default_ne_null e
      | some v =>
        rintro rfl
        cases (set?_eq_some_iff.1 hset).2

/-- What is set and counts is taken, but as an answer of yes or no where one is asked for. -/
theorem ofFile_of_set {e : Entry} {file v : Json} (hholds : Holds file e.path v)
    (hv : v.isFalsy = false) :
    e.ofFile file = if e = .auditToFile then .bool true else v := by
  have hset := set?_eq_some_iff.2 ⟨hholds, hv⟩
  have hvalue : valueAt? file e.path = some v := (Option.filter_eq_some_iff.1 hset).1
  rw [ofFile, hset, hvalue]
  split
  · rename_i htakes
    -- the entries on retries do not ask for yes or no
    rw [if_neg (by rintro rfl; exact absurd htakes (by decide))]
    rfl
  · rfl

/-- **An entry is nothing** iff it is one on retries and a `null` stands in its place. -/
theorem get_load_eq_null_iff (e : Entry) (file : Json) (environment : Environment) :
    e.get (load (some file) environment) = .null ↔ e.TakesNull ∧ Holds file e.path .null := by
  rw [get_load]
  by_cases htakes : e.TakesNull
  · have hnone : e.ofEnvironment? environment = none := by obtain rfl | rfl := htakes <;> rfl
    rw [hnone]
    exact ofFile_eq_null_iff
  · simp only [htakes, false_and, iff_false]
    cases hv : nonempty? (e.ofEnvironment? environment) with
    | none => exact fun h => htakes (ofFile_eq_null_iff.1 h).1
    | some v =>
      obtain ⟨text, -, rfl⟩ := Option.map_eq_some_iff.1 hv
      exact nofun

theorem nodeDefaults_eq (s : Settings) :
    s.nodeDefaults = [("timeoutMs", timeoutMs.get s), ("retryCount", retryCount.get s),
      ("retryBackoffMs", retryBackoffMs.get s), ("onError", onError.get s)] := rfl

/-- **The policy of new nodes** has an entry that is nothing iff one of those on retries is. -/
theorem exists_null_mem_nodeDefaults_iff (file : Json) (environment : Environment) :
    (∃ name, (name, Json.null) ∈ (load (some file) environment).nodeDefaults) ↔
      ∃ e : Entry, e.TakesNull ∧ Holds file e.path .null := by
  rw [nodeDefaults_eq]
  constructor
  · rintro ⟨name, hmem⟩
    simp only [List.mem_cons, Prod.mk.injEq, List.not_mem_nil, or_false] at hmem
    obtain ⟨e, he⟩ : ∃ e : Entry, e.get (load (some file) environment) = .null := by
      rcases hmem with ⟨-, h⟩ | ⟨-, h⟩ | ⟨-, h⟩ | ⟨-, h⟩ <;> exact ⟨_, h.symm⟩
    exact ⟨e, (e.get_load_eq_null_iff file environment).1 he⟩
  · rintro ⟨e, he⟩
    have hnull := (e.get_load_eq_null_iff file environment).2 he
    obtain rfl | rfl := he.1
    · exact ⟨"retryCount", by simp [hnull]⟩
    · exact ⟨"retryBackoffMs", by simp [hnull]⟩

end Entry

end Settings

open Settings

/-- **What is not set has its default.** For every file and environment, an entry of which nothing
is set in the file, and which no variable sets, has its default, unless it is one of the two on
retries and a `null` stands in its place. Only these two can be nothing, and they are exactly then,
so that exactly then the policy of new nodes has an entry that is nothing. What is set, and is
neither empty nor zero nor false, is taken. -/
theorem default_unless_null (file : Json) (environment : Environment) :
    (∀ e : Entry, Unset file e.path → e.IsFree environment →
      (e.get (load (some file) environment) = e.default ↔
        ¬(e.TakesNull ∧ Holds file e.path .null))) ∧
    (∀ e : Entry, e.get (load (some file) environment) = .null ↔
      e.TakesNull ∧ Holds file e.path .null) ∧
    ((∃ name, (name, Json.null) ∈ (load (some file) environment).nodeDefaults) ↔
      ∃ e : Entry, e.TakesNull ∧ Holds file e.path .null) ∧
    (∀ e : Entry, ∀ v, Holds file e.path v → v.isFalsy = false → e.IsFree environment →
      e.get (load (some file) environment) = if e = .auditToFile then .bool true else v) := by
  refine ⟨fun e hunset hfree => ?_, fun e => e.get_load_eq_null_iff file environment,
    Entry.exists_null_mem_nodeDefaults_iff file environment, fun e v hholds hv hfree => ?_⟩
  · constructor
    · intro hdefault hnull
      rw [← e.get_load_eq_null_iff file environment, hdefault] at hnull
      exact e.default_ne_null hnull
    · intro h
      rw [Entry.get_load_of_free hfree, Entry.ofFile_of_unset hunset h]
  · rw [Entry.get_load_of_free hfree, Entry.ofFile_of_set hholds hv]

/-- A file in which a section is nothing, one is no object, and one is empty, and one has a `null`
where it does no harm. The environment has an empty variable. -/
def sparse : Json :=
  .object [("storage", .text "here"), ("logging", .null), ("governance", .object []),
    ("run_policy", .object [("defaults",
      .object [("timeout_ms", .null), ("retry_count", .int 0), ("retry_backoff_ms", .int 9)])])]

theorem default_unless_null_sparse :
    Unset sparse Entry.logLevel.path ∧ Entry.logLevel.IsFree { logLevel := some "" } ∧
      (load (some sparse) { logLevel := some "" }).logLevel = .text "INFO" ∧
      Unset sparse Entry.timeoutMs.path ∧
      (load (some sparse) { logLevel := some "" }).timeoutMs = .int 30000 ∧
      Holds sparse Entry.retryBackoffMs.path (.int 9) ∧
      (load (some sparse) { logLevel := some "" }).retryBackoffMs = .int 9 := by
  obtain ⟨hdefault, -, -, hset⟩ := default_unless_null sparse { logLevel := some "" }
  have hlevel : Unset sparse Entry.logLevel.path := .under rfl (.null _)
  have htimeout : Unset sparse Entry.timeoutMs.path :=
    .under rfl (.under rfl (.under rfl (.null _)))
  have hbackoff : Holds sparse Entry.retryBackoffMs.path (.int 9) :=
    .under rfl (.under rfl (.under rfl (.here _)))
  have hfree : Entry.logLevel.IsFree { logLevel := some "" } := by
    rintro text ⟨⟩
    rfl
  exact ⟨hlevel, hfree, (hdefault .logLevel hlevel hfree).2 fun h => absurd h.1 (by decide),
    htimeout, (hdefault .timeoutMs htimeout nofun).2 fun h => absurd h.1 (by decide),
    hbackoff, hset .retryBackoffMs _ hbackoff rfl nofun⟩

/-- A file that sets nothing but the number of retries, and that to nothing. -/
def nullRetries : Json :=
  .object [("run_policy", .object [("defaults", .object [("retry_count", .null)])])]

/-- The number of retries is nothing then, also in the policy of new nodes. -/
theorem null_kept :
    Unset nullRetries Entry.retryCount.path ∧ Entry.retryCount.IsFree {} ∧
      (load (some nullRetries) {}).retryCount = .null ∧ Entry.retryCount.default = .int 1 ∧
      (load (some nullRetries) {}).nodeDefaults.get? "retryCount" = some .null :=
  ⟨.under rfl (.under rfl (.under rfl (.null _))), nofun, rfl, rfl, rfl⟩

end WorkflowRelease
