import Mathlib.Tactic.SplitIfs
import SyntaxReport.FileSystem.Access
import SyntaxReport.Proofs.Path.Written

/-!
# What stays in a file system

Making directories and writing files takes nothing away: a directory stays a directory, a place that
is taken stays taken, and links and rights stay as they are. So a path that leads somewhere leads
there still.

Results:
* `locate_mono`: a path that names something goes on naming it.
* `HasSlot.readFile_eq_ok_iff`: a path at which a file can be opened is read from the same place.
* `persists_put_file`: writing a file takes nothing away.
-/

namespace SyntaxReport.FileSystem

variable {fs made after : FileSystem}

/-- Nothing of the first file system is missing from the second: directories stay directories, and
a place is vacant only if it was. Rights and links are the same. -/
structure Persists (fs after : FileSystem) : Prop where
  workingDirectory_eq : after.workingDirectory = fs.workingDirectory
  denied_eq : after.denied = fs.denied
  links_eq : after.links = fs.links
  directory : ∀ location, fs.isDirectoryAt location → after.isDirectoryAt location
  vacant : ∀ location, after.lookup location = none → fs.lookup location = none

theorem Persists.refl (fs : FileSystem) : Persists fs fs :=
  ⟨rfl, rfl, rfl, fun _ h => h, fun _ h => h⟩

theorem Persists.trans (h : Persists fs made) (h' : Persists made after) : Persists fs after where
  workingDirectory_eq := h'.workingDirectory_eq.trans h.workingDirectory_eq
  denied_eq := h'.denied_eq.trans h.denied_eq
  links_eq := h'.links_eq.trans h.links_eq
  directory location hd := h'.directory location (h.directory location hd)
  vacant location hv := h.vacant location (h'.vacant location hv)

theorem Persists.allows_eq (h : Persists fs after) (right : Right) (location : Location) :
    after.allows right location = fs.allows right location := by
  rw [allows, allows, h.denied_eq]

theorem Persists.resolve_eq (h : Persists fs after) (location : Location) :
    after.resolve location = fs.resolve location := by
  rw [resolve, resolve, h.links_eq]

/-! ## Following a path -/

theorem enter_eq_ok_iff {here : Location} :
    fs.enter here = .ok () ↔ fs.isDirectoryAt here ∧ fs.allows .search here := by
  unfold enter
  split_ifs <;> simp_all

theorem enter_mono (h : Persists fs after) {here : Location} (henter : fs.enter here = .ok ()) :
    after.enter here = .ok () := by
  obtain ⟨hdir, hsearch⟩ := enter_eq_ok_iff.mp henter
  exact enter_eq_ok_iff.mpr ⟨h.directory here hdir, (h.allows_eq .search here).trans hsearch⟩

/-- One name of a path: it leads up or down, or along a link, from a directory that may be
searched. -/
theorem walk_cons_eq_ok_iff {here location : Location} {name : Name} {more : List Name} :
    fs.walk here (name :: more) = .ok location ↔
      fs.enter here = .ok () ∧
        (name = upward ∧ fs.walk here.tail more = .ok location ∨
          name ≠ upward ∧ isTooLong name = false ∧ fs.lookup (fs.resolve (name :: here)) ≠ none ∧
            fs.walk (fs.resolve (name :: here)) more = .ok location) := by
  rw [walk]
  cases fs.enter here with
  | error fault => simp
  | ok _ =>
    dsimp only
    split_ifs <;> simp_all

theorem walk_mono (h : Persists fs after) {here location : Location} {names : List Name}
    (hwalk : fs.walk here names = .ok location) : after.walk here names = .ok location := by
  induction names generalizing here with
  | nil => exact hwalk
  | cons name more ih =>
    rw [walk_cons_eq_ok_iff] at hwalk ⊢
    obtain ⟨henter, ⟨hup, hmore⟩ | ⟨hup, hlong, hsome, hmore⟩⟩ := hwalk
    · exact ⟨enter_mono h henter, .inl ⟨hup, ih hmore⟩⟩
    · rw [h.resolve_eq]
      exact ⟨enter_mono h henter,
        .inr ⟨hup, hlong, fun hnone => hsome (h.vacant _ hnone), ih hmore⟩⟩

theorem start_eq (h : Persists fs after) (root : Root) : after.start root = fs.start root := by
  cases root <;> simp [start, h.workingDirectory_eq]

/-- Only a single dot needs the right to search the working directory by itself. -/
theorem checkDot_eq_ok_iff {path : Path} :
    fs.checkDot path = .ok () ↔
      (path = ⟨.relative, []⟩ → fs.enter fs.workingDirectory = .ok ()) := by
  unfold checkDot
  split
  · simp
  · next hother => exact iff_of_true rfl fun hdot => absurd hdot fun h => hother (by simpa using h)

/-- A path names what a walk comes to, if it is one that can be looked up. -/
theorem locate_eq_ok_iff {path : Path} {location : Location} :
    fs.locate path = .ok location ↔
      checkPath path = .ok () ∧ fs.checkDot path = .ok () ∧
        fs.walk (fs.start path.root) path.names = .ok location := by
  unfold locate
  cases checkPath path <;> cases fs.checkDot path <;> simp

/-- A path that names something goes on naming it. -/
theorem locate_mono (h : Persists fs after) {path : Path} {location : Location}
    (hlocate : fs.locate path = .ok location) : after.locate path = .ok location := by
  obtain ⟨hcheck, hdot, hwalk⟩ := locate_eq_ok_iff.mp hlocate
  refine locate_eq_ok_iff.mpr ⟨hcheck, checkDot_eq_ok_iff.mpr fun hpath => ?_, ?_⟩
  · rw [h.workingDirectory_eq]
    exact enter_mono h (checkDot_eq_ok_iff.mp hdot hpath)
  · rw [start_eq h]
    exact walk_mono h hwalk

theorem walk_append (fs : FileSystem) (here : Location) (above below : List Name) :
    fs.walk here (above ++ below) =
      match fs.walk here above with
      | .error fault => .error fault
      | .ok location => fs.walk location below := by
  induction above generalizing here with
  | nil => rfl
  | cons name more ih =>
    rw [List.cons_append, walk, walk]
    cases fs.enter here with
    | error fault => rfl
    | ok _ =>
      dsimp only
      split_ifs <;> first | rfl | exact ih _

/-! ## What stands where a path leads -/

theorem readFile_eq_ok_iff {path : Path} {content : Bytes} :
    fs.readFile path = .ok content ↔
      ∃ location, fs.locate path = .ok location ∧ fs.lookup location = some (.file content) := by
  unfold readFile stat
  cases hlocate : fs.locate path with
  | error fault => simp [Except.map]
  | ok location =>
    cases hlookup : fs.lookup location with
    | none => simp [Except.map, hlookup]
    | some entry => cases entry <;> simp [Except.map, hlookup]

/-- Where the path is known to lead, reading looks there. -/
theorem readFile_eq_ok_iff_of_locate {path : Path} {location : Location} {content : Bytes}
    (h : fs.locate path = .ok location) :
    fs.readFile path = .ok content ↔ fs.lookup location = some (.file content) := by
  rw [readFile_eq_ok_iff, h]
  simp

theorem readFile_congr {path : Path} {location : Location} (h : fs.locate path = .ok location)
    (hafter : after.locate path = .ok location)
    (hlookup : after.lookup location = fs.lookup location) :
    after.readFile path = fs.readFile path := by
  unfold readFile stat
  rw [h, hafter, Except.map, Except.map, hlookup]

theorem isDirectory_eq_ok_true_iff {path : Path} :
    fs.isDirectory path = .ok true ↔
      ∃ location, fs.locate path = .ok location ∧ fs.isDirectoryAt location := by
  unfold isDirectory stat
  cases hlocate : fs.locate path with
  | error fault => cases hopen : fault.leavesOpen <;> simp [Except.map, hopen]
  | ok location => simp [Except.map, isDirectoryAt]

/-! ## The place for a last name -/

/-- The path is one that operations take, and its last name can be looked up in a directory that is
there. -/
structure HasSlot (fs : FileSystem) (path : Path) (name : Name) (directory : Location) : Prop where
  check : checkPath path = .ok ()
  last : path.names.getLast? = some name
  walk : fs.walk (fs.start path.root) path.names.dropLast = .ok directory
  enter : fs.enter directory = .ok ()
  ne_upward : name ≠ upward
  short : isTooLong name = false

theorem HasSlot.isDirectoryAt {path : Path} {name : Name} {directory : Location}
    (h : fs.HasSlot path name directory) : fs.isDirectoryAt directory :=
  (enter_eq_ok_iff.mp h.enter).1

theorem slotIn_eq_ok_some_iff {directory location : Location} {name : Name} :
    fs.slotIn directory name = .ok (some location) ↔
      (fs.enter directory = .ok () ∧ name ≠ upward ∧ isTooLong name = false) ∧
        location = name :: directory := by
  unfold slotIn
  cases fs.enter directory with
  | error fault => simp
  | ok _ =>
    dsimp only
    split_ifs with hup hlong
    · simp [hup]
    · simp [hlong]
    · simp at hlong
      simp [hup, hlong, eq_comm]

theorem slot_eq_ok_some_iff {path : Path} {location : Location} :
    fs.slot path = .ok (some location) ↔
      ∃ name directory, fs.HasSlot path name directory ∧ location = name :: directory := by
  unfold slot
  constructor
  · intro h
    cases hcheck : checkPath path with
    | error fault => simp [hcheck] at h
    | ok _ =>
      cases hlast : path.names.getLast? with
      | none => simp [hcheck, hlast] at h
      | some name =>
        cases hwalk : fs.walk (fs.start path.root) path.names.dropLast with
        | error fault => simp [hcheck, hlast, hwalk] at h
        | ok directory =>
          simp only [hcheck, hlast, hwalk] at h
          obtain ⟨⟨henter, hup, hshort⟩, rfl⟩ := slotIn_eq_ok_some_iff.mp h
          exact ⟨name, directory, ⟨hcheck, hlast, hwalk, henter, hup, hshort⟩, rfl⟩
  · rintro ⟨name, directory, hslot, rfl⟩
    simp only [hslot.check, hslot.last, hslot.walk]
    exact slotIn_eq_ok_some_iff.mpr ⟨⟨hslot.enter, hslot.ne_upward, hslot.short⟩, rfl⟩

/-- A path with a slot names what stands there, or where a link there leads. -/
theorem HasSlot.locate_eq {path : Path} {name : Name} {directory : Location}
    (h : fs.HasSlot path name directory) :
    fs.locate path =
      if (fs.lookup (fs.resolve (name :: directory))).isNone then .error .noEntry
      else .ok (fs.resolve (name :: directory)) := by
  obtain ⟨above, hnames⟩ := List.getLast?_eq_some_iff.mp h.last
  have hwalk := h.walk
  rw [hnames, List.dropLast_concat] at hwalk
  have hdot : fs.checkDot path = .ok () :=
    checkDot_eq_ok_iff.mpr fun hpath => by simp [hpath] at hnames
  rw [locate, h.check, hdot]
  dsimp only
  rw [hnames, walk_append, hwalk]
  simp [FileSystem.walk, h.enter, h.ne_upward, h.short]

/-- A path with a slot is read from there. -/
theorem HasSlot.readFile_eq_ok_iff {path : Path} {name : Name} {directory : Location}
    (h : fs.HasSlot path name directory) {content : Bytes} :
    fs.readFile path = .ok content ↔
      fs.lookup (fs.resolve (name :: directory)) = some (.file content) := by
  rw [FileSystem.readFile_eq_ok_iff, h.locate_eq]
  cases hlookup : fs.lookup (fs.resolve (name :: directory)) with
  | none => simp
  | some entry => simp [hlookup]

/-- If operations take a path, they take those above it. -/
theorem checkPath_of_child {path : Path} {name : Name}
    (h : checkPath (path.child name) = .ok ()) : checkPath path = .ok () := by
  by_cases hdot : path = ⟨.relative, []⟩
  · rw [hdot]
    rfl
  obtain ⟨rest, htext⟩ := Path.exists_toText_child hdot name
  unfold checkPath at h ⊢
  rw [htext] at h
  split_ifs at h with hnull hlong
  simp only [List.contains_eq_mem, List.mem_append, decide_eq_true_eq, not_or] at hnull
  simp only [Encoding.Utf8.encode, List.flatMap_append, List.length_append, Nat.not_le] at hlong
  rw [if_neg (by simpa using hnull.1), if_neg (by simp only [Encoding.Utf8.encode]; omega)]

/-- If operations take a path, they take those that its names start with. -/
theorem checkPath_of_append {root : Root} {above below : List Name}
    (h : checkPath ⟨root, above ++ below⟩ = .ok ()) : checkPath ⟨root, above⟩ = .ok () := by
  induction below generalizing above with
  | nil => rwa [List.append_nil] at h
  | cons name more ih =>
    rw [List.append_cons] at h
    have hchild : checkPath (Path.child ⟨root, above⟩ name) = .ok () := ih h
    exact checkPath_of_child hchild

/-! ## Writing a file -/

/-- Something new can be put into a directory that is there, and may be searched and changed. -/
theorem checkNew_eq_ok_iff {location : Location} :
    fs.checkNew location = .ok () ↔
      fs.enter location.tail = .ok () ∧ fs.allows .write location.tail := by
  unfold checkNew
  cases hlookup : fs.lookup location.tail with
  | none =>
    have henter : fs.enter location.tail = .error .notDirectory := by
      simp [enter, isDirectoryAt, hlookup]
    simp [henter]
  | some entry => cases fs.enter location.tail <;> simp

theorem checkNew_mono (h : Persists fs after) {location : Location}
    (hnew : fs.checkNew location = .ok ()) : after.checkNew location = .ok () := by
  obtain ⟨henter, hwrite⟩ := checkNew_eq_ok_iff.mp hnew
  exact checkNew_eq_ok_iff.mpr ⟨enter_mono h henter, (h.allows_eq .write _).trans hwrite⟩

/-- A file can be opened for writing under the path, and stands at the location. -/
structure OpensAt (fs : FileSystem) (path : Path) (location : Location) : Prop where
  leads : ∃ place, fs.slot path = .ok (some place) ∧ fs.resolve place = location
  noDirectory : fs.isDirectoryAt location = false
  new : fs.lookup location = none → fs.checkNew location = .ok ()

theorem OpensAt.exists_hasSlot {path : Path} {location : Location} (h : fs.OpensAt path location) :
    ∃ name directory, fs.HasSlot path name directory ∧
      fs.resolve (name :: directory) = location := by
  obtain ⟨place, hslot, hleads⟩ := h.leads
  obtain ⟨name, directory, hplace, rfl⟩ := slot_eq_ok_some_iff.mp hslot
  exact ⟨name, directory, hplace, hleads⟩

theorem OpensAt.unique {path : Path} {location other : Location} (h : fs.OpensAt path location)
    (h' : fs.OpensAt path other) : location = other := by
  obtain ⟨place, hslot, rfl⟩ := h.leads
  obtain ⟨same, hslot', rfl⟩ := h'.leads
  obtain rfl : place = same := by simpa [hslot] using hslot'
  rfl

theorem openFile_eq_ok_iff {path : Path} {opened : FileSystem} {location : Location} :
    fs.openFile path = .ok (opened, location) ↔
      fs.OpensAt path location ∧ opened = fs.put location (.file []) := by
  unfold openFile
  constructor
  · intro h
    rcases hslot : fs.slot path with fault | _ | place
    · simp [hslot] at h
    · simp [hslot] at h
    · simp only [hslot] at h
      rcases hlookup : fs.lookup (fs.resolve place) with _ | _ | content
      · cases hnew : fs.checkNew (fs.resolve place) with
        | error fault => simp [hlookup, hnew, Except.map] at h
        | ok _ =>
          simp only [hlookup, hnew, Except.map, Except.ok.injEq, Prod.mk.injEq] at h
          obtain ⟨rfl, rfl⟩ := h
          exact ⟨⟨⟨place, hslot, rfl⟩, by simp [isDirectoryAt, hlookup], fun _ => hnew⟩, rfl⟩
      · simp [hlookup] at h
      · simp only [hlookup, Except.ok.injEq, Prod.mk.injEq] at h
        obtain ⟨rfl, rfl⟩ := h
        exact ⟨⟨⟨place, hslot, rfl⟩, by simp [isDirectoryAt, hlookup], by simp [hlookup]⟩, rfl⟩
  · rintro ⟨⟨⟨place, hslot, rfl⟩, hdir, hnew⟩, rfl⟩
    rcases hlookup : fs.lookup (fs.resolve place) with _ | _ | content
    · simp [hslot, hlookup, hnew hlookup, Except.map]
    · simp [isDirectoryAt, hlookup] at hdir
    · simp [hslot, hlookup]

/-- What is read under the path stands where a file is opened. -/
theorem OpensAt.readFile_eq_ok_iff {path : Path} {location : Location}
    (h : fs.OpensAt path location) {content : Bytes} :
    fs.readFile path = .ok content ↔ fs.lookup location = some (.file content) := by
  obtain ⟨name, directory, hslot, rfl⟩ := h.exists_hasSlot
  exact hslot.readFile_eq_ok_iff

/-- A place where no directory stands is not the root. -/
theorem ne_nil_of_isDirectoryAt_eq_false {location : Location}
    (h : fs.isDirectoryAt location = false) : location ≠ [] := by
  rintro rfl
  simp [isDirectoryAt, lookup] at h

/-- Writing a file where no directory stands takes nothing away. -/
theorem persists_put_file {location : Location} (h : fs.isDirectoryAt location = false)
    (content : Bytes) : Persists fs (fs.put location (.file content)) where
  workingDirectory_eq := rfl
  denied_eq := rfl
  links_eq := rfl
  directory other hdir := by
    have hne : other ≠ location := by
      rintro rfl
      simp [h] at hdir
    rw [isDirectoryAt, lookup_put _ _ (ne_nil_of_isDirectoryAt_eq_false h), if_neg hne]
    exact hdir
  vacant other hvacant := by
    rw [lookup_put _ _ (ne_nil_of_isDirectoryAt_eq_false h)] at hvacant
    split_ifs at hvacant
    exact hvacant

theorem putEntry_putEntry (location : Location) (old new : Entry)
    (entries : List (Location × Entry)) :
    putEntry location new (putEntry location old entries) = putEntry location new entries := by
  induction entries with
  | nil => simp [putEntry]
  | cons held more ih =>
    obtain ⟨place, entry⟩ := held
    by_cases h : place = location
    · simp [putEntry, h]
    · simp [putEntry, h, ih]

/-- Of two entries put at one location, the later counts. -/
theorem put_put (fs : FileSystem) (location : Location) (old new : Entry) :
    (fs.put location old).put location new = fs.put location new := by
  rw [put, put, put, putEntry_putEntry]

theorem HasSlot.mono {path : Path} {name : Name} {directory : Location}
    (h : fs.HasSlot path name directory) (hpersists : Persists fs after) :
    after.HasSlot path name directory where
  check := h.check
  last := h.last
  walk := by
    rw [start_eq hpersists]
    exact walk_mono hpersists h.walk
  enter := enter_mono hpersists h.enter
  ne_upward := h.ne_upward
  short := h.short

/-- A file can be opened under the path later as well, unless a directory has taken its place. -/
theorem OpensAt.mono {path : Path} {location : Location} (h : fs.OpensAt path location)
    (hpersists : Persists fs after) (hdir : after.isDirectoryAt location = false) :
    after.OpensAt path location := by
  obtain ⟨name, directory, hslot, rfl⟩ := h.exists_hasSlot
  exact ⟨⟨_, slot_eq_ok_some_iff.mpr ⟨name, directory, hslot.mono hpersists, rfl⟩,
    hpersists.resolve_eq _⟩, hdir, fun hnone =>
      checkNew_mono hpersists (h.new (hpersists.vacant _ hnone))⟩

theorem OpensAt.lookup_put {path : Path} {location : Location} (h : fs.OpensAt path location)
    (content : Bytes) (other : Location) :
    (fs.put location (.file content)).lookup other =
      if other = location then some (.file content) else fs.lookup other :=
  FileSystem.lookup_put fs _ (ne_nil_of_isDirectoryAt_eq_false h.noDirectory) other

/-- A file that has been written can be opened again. -/
theorem OpensAt.put {path : Path} {location : Location} (h : fs.OpensAt path location)
    (content : Bytes) : (fs.put location (.file content)).OpensAt path location := by
  refine h.mono (persists_put_file h.noDirectory content) ?_
  rw [isDirectoryAt, h.lookup_put, if_pos rfl]
  rfl

/-- The path of an opened file goes on leading to it. -/
theorem OpensAt.locate_put {path : Path} {location : Location} (h : fs.OpensAt path location)
    (content : Bytes) : (fs.put location (.file content)).locate path = .ok location := by
  obtain ⟨name, directory, hslot, rfl⟩ := h.exists_hasSlot
  have hpersists := persists_put_file h.noDirectory content
  rw [(hslot.mono hpersists).locate_eq, hpersists.resolve_eq, h.lookup_put, if_pos rfl]
  rfl

/-- What has been written to an opened file is read under its path. -/
theorem OpensAt.readFile_put {path : Path} {location : Location} (h : fs.OpensAt path location)
    (content : Bytes) : (fs.put location (.file content)).readFile path = .ok content := by
  rw [readFile_eq_ok_iff_of_locate (h.locate_put content), h.lookup_put, if_pos rfl]

end SyntaxReport.FileSystem
