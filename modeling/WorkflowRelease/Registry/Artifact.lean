import WorkflowRelease.Party
import WorkflowRelease.Text.Sorted
import WorkflowRelease.Workflow.Vocabulary

/-!
# Registries of artifacts

Rule packs, agent profiles and parameter sets by code (`InMemoryArtifactRegistry`), with what makes
one usable: it is active, and it belongs to who asks or is public. A registry does not look at
version numbers, so their type is left open. Parameters are registered under the sets they belong to
(`InMemoryParameterItemRegistry`), data connectors by code alone (`InMemoryDataConnectorRegistry`).
Main statement: `mem_findUsable`, a look-up gives the usable records of the codes.
-/

namespace WorkflowRelease

/-- A rule pack, an agent profile or a parameter set (`ArtifactRecord`). -/
structure Artifact (ν : Type) where
  code : String
  version : ν
  owner : Party := .nobody
  source : TemplateSource := .isPrivate
  isActive : Bool := true
deriving DecidableEq

namespace Artifact

variable {ν μ : Type}

/-- The record belongs to the party or is public (`visible_to`). One that belongs to nobody is there
for nobody else. -/
def visibleTo (a : Artifact ν) (party : Party) : Bool := a.owner = party || a.source = .isPublic

def usableBy (a : Artifact ν) (party : Party) : Bool := a.isActive && a.visibleTo party

/-- The record with its version number changed. -/
def map (f : ν → μ) (a : Artifact ν) : Artifact μ := { a with version := f a.version }

end Artifact

/-- Records of artifacts, the latest first. -/
structure Registry (ν : Type) where
  records : List (Artifact ν) := []
deriving DecidableEq

namespace Registry

variable {ν μ : Type}

def add (r : Registry ν) (a : Artifact ν) : Registry ν := ⟨a :: r.records⟩

/-- The registry of records that are added one after the other. -/
def ofList (as : List (Artifact ν)) : Registry ν := ⟨as.reverse⟩

/-- The registry with all version numbers changed. -/
def map (f : ν → μ) (r : Registry ν) : Registry μ := ⟨r.records.map (·.map f)⟩

/-- The record of a code. -/
def find? (r : Registry ν) (code : String) : Option (Artifact ν) :=
  r.records.find? (·.code = code)

/-- The record of a code, if the party may use it. -/
def usable? (r : Registry ν) (party : Party) (code : String) : Option (Artifact ν) :=
  (r.find? code).filter (·.usableBy party)

/-- The records of the codes that the party may use, in the order of the codes
(`find_active_visible`). -/
def findUsable (r : Registry ν) (codes : List String) (party : Party) : List (Artifact ν) :=
  (Text.distinct codes).filterMap (r.usable? party)

theorem code_of_find? {r : Registry ν} {code : String} {a : Artifact ν}
    (h : r.find? code = some a) : a.code = code := by simpa using List.find?_some h

theorem usable?_eq_some_iff {r : Registry ν} {party : Party} {code : String} {a : Artifact ν} :
    r.usable? party code = some a ↔ r.find? code = some a ∧ a.usableBy party = true := by
  simp [usable?, Option.filter_eq_some_iff]

theorem mem_findUsable {r : Registry ν} {codes : List String} {party : Party}
    {a : Artifact ν} : a ∈ r.findUsable codes party ↔
      a.code ∈ codes ∧ r.find? a.code = some a ∧ a.usableBy party = true := by
  simp only [findUsable, List.mem_filterMap, Text.mem_distinct, usable?_eq_some_iff]
  constructor
  · rintro ⟨code, hc, hf, hu⟩
    rw [code_of_find? hf]
    exact ⟨hc, hf, hu⟩
  · rintro ⟨hc, hf, hu⟩
    exact ⟨a.code, hc, hf, hu⟩

end Registry

/-- A parameter of a parameter set (`ParameterItemRecord`). -/
structure ParameterItem where
  code : String
  setCode : String
  isActive : Bool := true
deriving DecidableEq, Repr

/-- The codes among `wanted` that are active parameters of one of the sets (`find_active`), sorted.
-/
def findParameters (items : List ParameterItem) (wanted sets : List String) : List String :=
  let found := items.filter fun i => i.isActive && i.code ∈ wanted && i.setCode ∈ sets
  Text.sorted (found.map (·.code))

theorem mem_findParameters {items : List ParameterItem} {wanted sets : List String}
    {code : String} : code ∈ findParameters items wanted sets ↔
      code ∈ wanted ∧ ∃ i ∈ items, i.isActive = true ∧ i.setCode ∈ sets ∧ i.code = code := by
  simp only [findParameters, Text.mem_sorted, List.mem_map, List.mem_filter, Bool.and_eq_true,
    decide_eq_true_eq]
  constructor
  · rintro ⟨i, ⟨hi, ⟨ha, hw⟩, hs⟩, rfl⟩
    exact ⟨hw, i, hi, ha, hs, rfl⟩
  · rintro ⟨hw, i, hi, ha, hs, rfl⟩
    exact ⟨i, ⟨hi, ⟨ha, hw⟩, hs⟩, rfl⟩

structure DataConnector where
  code : String
  isActive : Bool := true
deriving DecidableEq, Repr

/-- The latest record of the code, in a list that starts with the latest, is active. -/
def isConnected (connectors : List DataConnector) (code : String) : Bool :=
  ((connectors.find? (·.code = code)).map (·.isActive)).getD false

/-- The codes of active connectors, in order and each one once (`find_active`). -/
def findConnectors (connectors : List DataConnector) (codes : List String) : List String :=
  (Text.distinct codes).filter (isConnected connectors)

end WorkflowRelease
