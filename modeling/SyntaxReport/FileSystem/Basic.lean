import SyntaxReport.Path

/-!
# The file system

A file system is a finite table of directories and files, together with the working directory. A
location lists the names from the innermost directory outwards, so that the parent of a location is
its tail; the root directory is the empty location and always there.

A link stands at a location of its own and leads to another one. It may be symbolic and lead to
where nothing is yet, or it may be another name of a file.

The rights of the program are a matter of the location: a directory that is made has those that its
location has already. Files can be read and written.

* `FileSystem.lookup` is what stands at a location; two file systems are alike if they agree on it.
* `FileSystem.put` and `FileSystem.erase` change one location, or a location with all beneath it.
* `FileSystem.changes` lists where two file systems differ.

Results:
* `lookup_put`: what has been put at a location stands there, and elsewhere nothing changes.
-/

namespace SyntaxReport

/-- A place in the file system: the names on the way to it, the innermost first. -/
abbrev Location := List Name

/-- What can stand at a location. -/
inductive Entry where
  | directory
  | file (content : Bytes)
  deriving DecidableEq, Repr

/-- The uses of a directory: listing it, changing what is in it, and looking a name up in it. -/
inductive Right where
  | read
  | write
  | search
  deriving DecidableEq, Repr

/-- The entries of a file system besides the root directory, the working directory, the uses of
directories that the program has no right to, and the links with what each leads to in the end. -/
structure FileSystem where
  entries : List (Location × Entry)
  workingDirectory : Location
  denied : List (Location × Right) := []
  links : List (Location × Location) := []
  deriving Repr

/-- A table after `entry` has been put at a location; a new location comes last. -/
def putEntry (location : Location) (entry : Entry) :
    List (Location × Entry) → List (Location × Entry)
  | [] => [(location, entry)]
  | (other, held) :: more =>
    if other = location then (location, entry) :: more
    else (other, held) :: putEntry location entry more

/-- A look-up after `entry` has been put at a location. -/
theorem lookup_putEntry (location other : Location) (entry : Entry)
    (entries : List (Location × Entry)) :
    (putEntry location entry entries).lookup other =
      if other = location then some entry else entries.lookup other := by
  have beq_false {a b : Location} (h : a ≠ b) : (a == b) = false := beq_false_of_ne h
  induction entries with
  | nil => by_cases h : other = location <;> simp [putEntry, List.lookup_cons, h, beq_false]
  | cons held more ih =>
    obtain ⟨place, old⟩ := held
    by_cases hp : place = location
    · subst hp
      by_cases h : other = place <;> simp [putEntry, List.lookup_cons, h, beq_false]
    · by_cases h : other = place
      · subst h
        simp [putEntry, hp]
      · simp [putEntry, hp, List.lookup_cons, h, beq_false, ih]

namespace FileSystem

/-- What stands at a location. -/
def lookup (fs : FileSystem) (location : Location) : Option Entry :=
  match location with
  | [] => some .directory
  | _ => fs.entries.lookup location

/-- Whether a directory stands at a location. -/
def isDirectoryAt (fs : FileSystem) (location : Location) : Bool :=
  fs.lookup location == some .directory

/-- Whether a link stands at a location. -/
def isLink (fs : FileSystem) (location : Location) : Bool :=
  (fs.links.lookup location).isSome

/-- Where a location leads: elsewhere if a link stands there, and otherwise to itself. -/
def resolve (fs : FileSystem) (location : Location) : Location :=
  (fs.links.lookup location).getD location

/-- Whether the program has a right to a directory. -/
def allows (fs : FileSystem) (right : Right) (location : Location) : Bool :=
  !fs.denied.contains (location, right)

/-- The file system with `entry` at a location. -/
def put (fs : FileSystem) (location : Location) (entry : Entry) : FileSystem :=
  { fs with entries := putEntry location entry fs.entries }

/-- What has been put at a location stands there, and elsewhere nothing changes. -/
theorem lookup_put (fs : FileSystem) {location : Location} (entry : Entry) (h : location ≠ [])
    (other : Location) :
    (fs.put location entry).lookup other =
      if other = location then some entry else fs.lookup other := by
  cases other with
  | nil => simp [lookup, Ne.symm h]
  | cons name above => simp [lookup, put, lookup_putEntry]

/-- The file system without a location and everything beneath it. -/
def erase (fs : FileSystem) (location : Location) : FileSystem :=
  { fs with entries := fs.entries.filter fun held => !location.isSuffixOf held.1 }

/-- The directories from the root down to a location, where there is nothing yet. -/
def putDirectories (fs : FileSystem) : Location → FileSystem
  | [] => fs
  | name :: above =>
    let fs := fs.putDirectories above
    if (fs.lookup (name :: above)).isSome then fs else fs.put (name :: above) .directory

/-- A file at a location, together with the directories above it. -/
def putFile (fs : FileSystem) (location : Location) (content : Bytes) : FileSystem :=
  (fs.putDirectories location.tail).put location (.file content)

/-- The working directory and those above it, with nothing in them. -/
def empty (workingDirectory : Location) : FileSystem :=
  ({ entries := [], workingDirectory } : FileSystem).putDirectories workingDirectory

/-- The locations at which two file systems differ, with what stands there in the second. -/
def changes (before after : FileSystem) : List (Location × Option Entry) :=
  ((before.entries ++ after.entries).map Prod.fst).eraseDups.filterMap fun location =>
    if before.lookup location == after.lookup location then none
    else some (location, after.lookup location)

end FileSystem

end SyntaxReport
