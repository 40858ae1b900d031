import WorkflowRelease.Settings.Location

/-!
# Places

Where a document is stored (`_path`). A store has a folder, and the id of a definition is a path
that goes on from there, or from the root if it begins with a slash. So two ids may lead to the same
place, and a place may be outside the folder; an id may also lead nowhere, through a folder that is
not there or by a name that is too long. Main statement: `Folder.placeOf_of_isName`, an id that is a
short name without a slash leads to a place in the folder itself.
-/

namespace WorkflowRelease

structure Place where
  /-- The names on the way from the root to the folder that the place is in. -/
  folder : List String
  name : String
deriving DecidableEq, Repr

namespace Place

/-- Why nothing can be stored under an id. -/
inductive Fault where
  /-- The id has a character that no name may have. -/
  | noName
  /-- The path leads through a folder that is not there. -/
  | noFolder
  | tooLong
deriving DecidableEq, Repr

def Fault.message : Fault → String
  | noName => "embedded null byte"
  | noFolder => "No such file or directory"
  | tooLong => "File name too long"

/-- What follows an id in the name of a place. -/
def extension : String := ".json"

/-- How many bytes a name may have. -/
def longest : Nat := 255

def isTooLong (name : String) : Bool := longest < name.utf8ByteSize

/-- The name under which a document is drafted before it takes its place. -/
def draftName (p : Place) : String := "." ++ p.name ++ ".tmp"

end Place

/-- The folder of a store, and what other folders there are. -/
structure Folder where
  /-- The names on the way from the root to it. -/
  path : List String := []
  /-- The ways to other folders. -/
  others : List (List String) := []
deriving DecidableEq, Repr

namespace Folder

/-- There is a folder at the end of the way. -/
def has (f : Folder) (way : List String) : Bool :=
  way.isPrefixOf f.path || f.others.any (way.isPrefixOf ·)

/-- Goes on from a folder by the names on a way. Two dots lead to the folder above, and from the
root to the root. -/
def follow (f : Folder) : List String → List String → Except Place.Fault (List String)
  | here, [] => .ok here
  | here, name :: way =>
    if name = ".." then f.follow here.dropLast way
    else if Place.isTooLong name then .error .tooLong
    else if f.has (here ++ [name]) then f.follow (here ++ [name]) way
    else .error .noFolder

/-- The place that a path leads to. -/
def placeAt (f : Folder) (path : List Char) : Except Place.Fault Place :=
  if '\x00' ∈ path then .error .noName
  else
    let way := (Location.segments path).map String.ofList
    let name := way.getLastD ""
    match f.follow (if Location.root path = [] then f.path else []) way.dropLast with
    | .error fault => .error fault
    | .ok folder => if Place.isTooLong name then .error .tooLong else .ok ⟨folder, name⟩

/-- The place of what is stored under an id. -/
def placeOf (f : Folder) (id : String) : Except Place.Fault Place :=
  f.placeAt (id.toList ++ Place.extension.toList)

/-- The place is in the folder itself. -/
def lists (f : Folder) (p : Place) : Bool := p.folder = f.path

end Folder

/-- The id is a name: not empty, no path, and short enough to be drafted under. -/
def IsName (id : String) : Prop :=
  id ≠ "" ∧ '/' ∉ id.toList ∧ '\x00' ∉ id.toList ∧ id.utf8ByteSize + 10 ≤ Place.longest

instance (id : String) : Decidable (IsName id) := by unfold IsName; infer_instance

namespace Place

theorem root_of_not_mem {path : List Char} (h : '/' ∉ path) : Location.root path = [] := by
  unfold Location.root
  split <;> simp_all

theorem segments_of_not_mem {path : List Char} (h : '/' ∉ path)
    (hp : Location.isProper path = true) : Location.segments path = [path] := by
  simp [Location.segments, Text.split_of_not_mem h, hp]

theorem isProper_append {cs ds : List Char} (h : 1 < ds.length) :
    Location.isProper (cs ++ ds) = true := by
  have hl : 1 < (cs ++ ds).length := by simp; omega
  have h0 : cs ++ ds ≠ [] := by intro e; simp [e] at hl
  have h1 : cs ++ ds ≠ ['.'] := by intro e; simp [e] at hl
  simp only [Location.isProper, decide_eq_true h0, decide_eq_true h1, Bool.and_self]

/-- The name that an id is stored under is short enough, and so is that of its draft. -/
theorem isTooLong_of_isName {id : String} (h : IsName id) (folder : List String) :
    isTooLong (id ++ extension) = false ∧
      isTooLong (draftName ⟨folder, id ++ extension⟩) = false := by
  have hlength := h.2.2.2
  have hextension : extension.utf8ByteSize = 5 := by decide
  have hdot : ".".utf8ByteSize = 1 := by decide
  have htmp : ".tmp".utf8ByteSize = 4 := by decide
  simp only [isTooLong, draftName, String.utf8ByteSize_append, hextension, hdot, htmp,
    decide_eq_false_iff_not]
  omega

end Place

theorem Folder.placeOf_of_isName (f : Folder) {id : String} (h : IsName id) :
    f.placeOf id = .ok ⟨f.path, id ++ Place.extension⟩ := by
  have hshort := (Place.isTooLong_of_isName h []).1
  obtain ⟨-, hslash, hnull, -⟩ := h
  have he : '/' ∉ Place.extension.toList ∧ '\x00' ∉ Place.extension.toList := by decide
  have hs : '/' ∉ id.toList ++ Place.extension.toList := by simp [hslash, he.1]
  have hn : '\x00' ∉ id.toList ++ Place.extension.toList := by simp [hnull, he.2]
  have hname : String.ofList (id.toList ++ Place.extension.toList) = id ++ Place.extension := by
    simp
  rw [placeOf, placeAt, if_neg hn, Place.root_of_not_mem hs, if_pos rfl,
    Place.segments_of_not_mem hs (Place.isProper_append (by decide))]
  simp [follow, hname, hshort]

end WorkflowRelease
