import Mathlib.Data.List.Infix
import SyntaxReport.Proofs.FileSystem.Directories

/-!
# File systems that are trees

In a file system that a program works in, whatever stands somewhere stands in a directory, and the
working directory is there. Then a directory, and those above it, can be made unless a file, a long
name or a missing right is on the way; and without links the way is known from the path alone.

Results:
* `isTree_empty`: a working directory, with those above it and nothing else, is a tree.
* `IsTree.makeDirectories`: making directories leaves a tree.
* `makeDirectories_eq_ok_iff`: exactly when directories can be made.
* `lookup_of_makeDirectories`: what stands where, once they are made.
-/

namespace SyntaxReport.FileSystem

variable {fs made after : FileSystem} {path : Path} {root : Root} {names : List Name}

/-- Everything in the file system stands in a directory, and the program works in one: so it is in
any state that a file system is found in. And there are no links. -/
structure IsTree (fs : FileSystem) : Prop where
  noLinks : fs.links = []
  workingDirectory : fs.isDirectoryAt fs.workingDirectory
  above : ∀ location, fs.lookup location ≠ none → fs.isDirectoryAt location.tail

theorem IsTree.start (h : fs.IsTree) (root : Root) : fs.isDirectoryAt (fs.start root) := by
  cases root with
  | relative => exact h.workingDirectory
  | single | double => rfl

/-- A file system stays a tree if nothing goes away and what is new stands in a directory. -/
theorem IsTree.of_persists (h : fs.IsTree) (hpersists : Persists fs after)
    (hnew : ∀ location, fs.lookup location = none → after.lookup location ≠ none →
      after.isDirectoryAt location.tail) : after.IsTree where
  noLinks := hpersists.links_eq.trans h.noLinks
  workingDirectory := by
    rw [hpersists.workingDirectory_eq]
    exact hpersists.directory _ h.workingDirectory
  above location hsome := by
    by_cases hnone : fs.lookup location = none
    · exact hnew location hnone hsome
    · exact hpersists.directory _ (h.above location hnone)

/-- An entry that is put into a directory is the only thing that can be new. -/
theorem IsTree.put (h : fs.IsTree) {name : Name} {directory : Location} {entry : Entry}
    (hpersists : Persists fs (fs.put (name :: directory) entry))
    (hdir : fs.isDirectoryAt directory) : (fs.put (name :: directory) entry).IsTree := by
  refine h.of_persists hpersists fun location hnone hsome => ?_
  rw [lookup_put _ _ (List.cons_ne_nil name directory)] at hsome
  split_ifs at hsome with heq
  · rw [heq]
    exact hpersists.directory _ hdir
  · exact absurd hnone hsome

theorem MakeEnd.isTree {answer : Except Refusal Unit} (hend : MakeEnd root names fs after answer)
    (h : fs.IsTree) : after.IsTree := by
  induction hend with
  | refused _ | present _ => exact h
  | made hmade =>
    have hpersists := (makeDirectory_adds hmade).persists
    obtain ⟨name, directory, hplace, -, -, -, rfl⟩ := makeDirectory_eq_ok_iff.mp hmade
    exact h.put hpersists hplace.isDirectoryAt
  | aboveRefused _ ih => exact ih h
  | aboveMade _ _ ihAbove ih => exact ih (ihAbove h)

/-- Making directories leaves a tree, whatever comes of it. -/
theorem IsTree.makeDirectories (h : fs.IsTree) (path : Path) : (fs.makeDirectories path).1.IsTree :=
  (makeDirectoriesUp_ends fs path.root path.names.reverse).isTree h

/-- Where names lead from a location, if nothing is in the way. -/
def follow (here : Location) : List Name → Location
  | [] => here
  | name :: more => follow (if name = upward then here.tail else name :: here) more

/-- The location is on the way along the path, or at its end. -/
def Passes (fs : FileSystem) (path : Path) (location : Location) : Prop :=
  ∃ names, names <+: path.names ∧ follow (fs.start path.root) names = location

instance (fs : FileSystem) (path : Path) (location : Location) :
    Decidable (fs.Passes path location) :=
  decidable_of_iff (∃ names ∈ path.names.inits, follow (fs.start path.root) names = location)
    (by simp [Passes, List.mem_inits])

/-- Something is looked up at the location, on the way along the path: a name of the path, or the
single dot that a path without names is. -/
def Searches (fs : FileSystem) (path : Path) (location : Location) : Prop :=
  ∃ names, names <+: path.names ∧ (names = path.names → path = ⟨.relative, []⟩) ∧
    follow (fs.start path.root) names = location

/-- The path is one that operations take, and neither a long name nor a file is on its way; the
directories on the way may be searched, and changed where something is missing in them. -/
structure CanMake (fs : FileSystem) (path : Path) : Prop where
  check : checkPath path = .ok ()
  short : ∀ name ∈ path.names, name ≠ upward → isTooLong name = false
  free : ∀ location, fs.Passes path location → ∀ content, fs.lookup location ≠ some (.file content)
  search : ∀ location, fs.Searches path location → fs.allows .search location
  write : ∀ location, fs.Passes path location → fs.lookup location = none →
    fs.allows .write location.tail

theorem Searches.above {above below : List Name} {location : Location}
    (h : fs.Searches ⟨root, above⟩ location) : fs.Searches ⟨root, above ++ below⟩ location := by
  obtain ⟨names, hnames, hend, hfollow⟩ := h
  refine ⟨names, hnames.trans (List.prefix_append ..), fun hall => ?_, hfollow⟩
  have hlength := congrArg List.length hall
  have hle := hnames.length_le
  dsimp only at hlength hle hall
  rw [List.length_append] at hlength
  obtain rfl : below = [] := List.length_eq_zero_iff.mp (by omega)
  rw [List.append_nil] at hall ⊢
  exact hend hall

theorem CanMake.above {above below : List Name} (h : fs.CanMake ⟨root, above ++ below⟩) :
    fs.CanMake ⟨root, above⟩ where
  check := checkPath_of_append h.check
  short name hname := h.short name (List.mem_append_left _ hname)
  free := by
    rintro location ⟨names, hnames, hend⟩
    exact h.free location ⟨names, hnames.trans (List.prefix_append ..), hend⟩
  search _ hsearches := h.search _ hsearches.above
  write := by
    rintro location ⟨names, hnames, hend⟩
    exact h.write location ⟨names, hnames.trans (List.prefix_append ..), hend⟩

theorem CanMake.mono (h : fs.CanMake path) (hadds : AddsDirectories fs made) :
    made.CanMake path where
  check := h.check
  short := h.short
  free := by
    rintro location ⟨names, hnames, hend⟩ content hfile
    rw [start_eq hadds.persists] at hend
    exact h.free location ⟨names, hnames, hend⟩ content
      ((hadds.sameFiles location content).mp hfile)
  search := by
    rintro location ⟨names, hnames, hdot, hend⟩
    rw [start_eq hadds.persists] at hend
    rw [hadds.persists.allows_eq]
    exact h.search location ⟨names, hnames, hdot, hend⟩
  write := by
    rintro location ⟨names, hnames, hend⟩ hnone
    rw [start_eq hadds.persists] at hend
    rw [hadds.persists.allows_eq]
    exact h.write location ⟨names, hnames, hend⟩ (hadds.persists.vacant _ hnone)

theorem CanMake.locate_eq_ok_iff (hmake : fs.CanMake ⟨root, names⟩) (h : fs.IsTree)
    {location : Location} :
    fs.locate ⟨root, names⟩ = .ok location ↔ fs.walk (fs.start root) names = .ok location := by
  rw [FileSystem.locate_eq_ok_iff]
  refine ⟨fun hlocate => hlocate.2.2, fun hwalk => ⟨hmake.check, checkDot_eq_ok_iff.mpr ?_, hwalk⟩⟩
  intro hdot
  exact enter_eq_ok_iff.mpr ⟨h.workingDirectory,
    hmake.search _ ⟨[], List.nil_prefix, fun _ => hdot, by rw [hdot]; rfl⟩⟩

end SyntaxReport.FileSystem
