import Mathlib.Data.List.Nodup
import WorkflowRelease.Proofs.Governance.Tenants

/-!
# Parameters of repeated sets

A catalog file may have several rows of one set. The registry of sets keeps the last of them, the
parameters of all of them are kept. So a parameter resolves in a set that the party may use if the
row that counts lists it (`Lists`), and also if that row does not and an active one before it does
(`ListedBefore`). Main statements: `Catalog.Rows.mem_resolved_iff`, nothing else resolves, and
`restated_resolves`, a file in which the two views of a set do not agree.
-/

namespace WorkflowRelease

/-- The codes among `wanted` that resolve in the bound sets that the party may use. -/
def Catalog.resolved (catalog : Catalog Int) (party : Party) (bound wanted : List String) :
    List String :=
  findParameters catalog.parameterItems wanted
    ((catalog.parameterSets.findUsable bound party).map (·.code))

namespace Catalog.Rows

/-! ## The row that counts -/

/-- The last row of a set. -/
def set? (r : Rows) (code : String) : Option ParameterSet :=
  r.parameterSets.reverse.find? (·.artifact.code = code)

/-- The row of the set that counts may be used by the party, and lists the parameter. -/
inductive Lists (r : Rows) (party : Party) (code item : String) : Prop
  | intro {s : ParameterSet} (last : r.set? code = some s)
      (usable : s.artifact.usableBy party = true) (listed : item ∈ s.items)

/-- The row of the set that counts may be used by the party and does not list the parameter, but
some active row of the set does. -/
inductive ListedBefore (r : Rows) (party : Party) (code item : String) : Prop
  | intro {s t : ParameterSet} (last : r.set? code = some s)
      (usable : s.artifact.usableBy party = true) (unlisted : item ∉ s.items)
      (row : t ∈ r.parameterSets) (gives : t.Gives code item)

variable {r : Rows} {party : Party} {bound wanted : List String} {code item : String}
  {s : ParameterSet}

theorem mem_of_set? (h : r.set? code = some s) : s ∈ r.parameterSets ∧ s.artifact.code = code :=
  ⟨List.mem_reverse.1 (List.mem_of_find?_eq_some h), by simpa using List.find?_some h⟩

/-- The registry of sets finds the row that counts. -/
theorem find?_parameterSets (r : Rows) (code : String) :
    r.catalog.parameterSets.find? code = (r.set? code).map (·.artifact) := by
  simp only [Registry.find?, catalog, ofRows, Registry.ofList, ← List.map_reverse, List.find?_map]
  rfl

theorem offers_iff : r.catalog.parameterSets.Offers party code ↔
    ∃ s, r.set? code = some s ∧ s.artifact.usableBy party = true := by
  simp only [Registry.Offers, find?_parameterSets, Option.map_eq_some_iff, ← Artifact.usableBy_iff]
  constructor
  · rintro ⟨_, ⟨s, hs, rfl⟩, hu⟩
    exact ⟨s, hs, hu⟩
  · rintro ⟨s, hs, hu⟩
    exact ⟨_, ⟨s, hs, rfl⟩, hu⟩

/-- The row that counts is no exception from what is kept. -/
theorem Lists.gives (h : r.Lists party code item) : ∃ s ∈ r.parameterSets, s.Gives code item := by
  obtain ⟨last, usable, listed⟩ := h
  obtain ⟨hrow, hcode⟩ := mem_of_set? last
  rw [Artifact.usableBy, Bool.and_eq_true] at usable
  exact ⟨_, hrow, hcode, usable.1, listed⟩

/-- What is kept of a set that the party may use is listed by the row that counts or by one before
it. -/
theorem lists_or_listedBefore_iff : r.Lists party code item ∨ r.ListedBefore party code item ↔
    r.catalog.parameterSets.Offers party code ∧ ∃ s ∈ r.parameterSets, s.Gives code item := by
  rw [offers_iff]
  constructor
  · rintro (⟨last, usable, listed⟩ | ⟨last, usable, -, row, gives⟩)
    · exact ⟨⟨_, last, usable⟩, Lists.gives ⟨last, usable, listed⟩⟩
    · exact ⟨⟨_, last, usable⟩, _, row, gives⟩
  · rintro ⟨⟨s, last, usable⟩, t, row, gives⟩
    by_cases hitem : item ∈ s.items
    · exact .inl ⟨last, usable, hitem⟩
    · exact .inr ⟨last, usable, hitem, row, gives⟩

/-! ## What resolves -/

/-- The sets are asked who may use them, and then all of their rows what they have. -/
theorem mem_resolved : item ∈ r.catalog.resolved party bound wanted ↔ item ∈ wanted ∧
    ∃ code ∈ bound, r.catalog.parameterSets.Offers party code ∧
      ∃ s ∈ r.parameterSets, s.Gives code item := by
  rw [resolved, mem_findParameters]
  refine and_congr_right fun _ => ?_
  simp only [Registry.mem_codes_findUsable]
  constructor
  · rintro ⟨s, hs, code, ⟨hbound, hoffers⟩, hgives⟩
    exact ⟨code, hbound, hoffers, s, hs, hgives⟩
  · rintro ⟨code, hbound, hoffers, s, hs, hgives⟩
    exact ⟨s, hs, code, ⟨hbound, hoffers⟩, hgives⟩

/-- **A parameter resolves** iff it is asked for and, of one of the bound sets that the party may
use, the row that counts lists it, or does not and an active row before it does. -/
theorem mem_resolved_iff (r : Rows) (party : Party) (bound wanted : List String) (item : String) :
    item ∈ r.catalog.resolved party bound wanted ↔
      item ∈ wanted ∧ ∃ code ∈ bound, r.Lists party code item ∨ r.ListedBefore party code item := by
  rw [mem_resolved]
  refine and_congr_right fun _ => exists_congr fun code => and_congr_right fun _ => ?_
  exact lists_or_listedBefore_iff.symm

end Catalog.Rows

namespace Sample

/-- The set of `owned`, restated without the parameter that its first row has. -/
def restated : Catalog.Rows :=
  { owned with
    parameterSets :=
      ⟨⟨"CAPS", 2, .user "owner", .isPrivate, true⟩, ["cap"]⟩ :: owned.parameterSets }

end Sample

/-- The row that counts lists nothing, and still a parameter resolves: it comes from the row before,
and a review that complains about the last row alone has nothing to say. -/
theorem restated_resolves :
    (Sample.restated.set? "CAPS").map (·.items) = some [] ∧
    ¬ ("cap" ∈ Sample.restated.catalog.resolved (.user "owner") ["CAPS"] ["cap"] ↔
      "cap" ∈ ["cap"] ∧ ∃ code ∈ ["CAPS"], Sample.restated.Lists (.user "owner") code "cap") ∧
    Sample.broken Sample.restated Sample.capped = some [] ∧
    Sample.broken Sample.owned Sample.capped = some ["WF203"] := by
  have hlast : Sample.restated.set? "CAPS" =
      some ⟨⟨"CAPS", 2, .user "owner", .isPrivate, true⟩, []⟩ := by decide
  refine ⟨by rw [hlast]; rfl, fun h => ?_, by decide +kernel, by decide +kernel⟩
  obtain ⟨-, code, hcode, last, -, listed⟩ := h.1 (by decide)
  rw [List.mem_singleton.1 hcode, hlast, Option.some.injEq] at last
  subst last
  cases listed

end WorkflowRelease
