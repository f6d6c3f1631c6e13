import SyntaxReport.Encoding.Utf8
import SyntaxReport.FileSystem.Basic

/-!
# Paths in a file system

A path is followed name by name from the root or the working directory. Each step needs a directory
that may be searched; two dots lead to the directory above, and the root lies above itself. A link
is followed to where it leads. A name may have 255 bytes and a path 4095. To put something new into
a directory, the program needs the right to change it.

* `FileSystem.locate` finds what a path names, `FileSystem.slot` the place for its last name.
* `FileSystem.readFile` and `FileSystem.openFile` open a file for reading and for writing; opening
  for writing leaves an empty file.
* `FileSystem.makeDirectory` makes one directory, `FileSystem.makeDirectories` also those above it.
-/

namespace SyntaxReport

/-- The reasons for which the file system refuses a path. -/
inductive SystemFault where
  | noEntry
  | alreadyExists
  | notDirectory
  | isDirectory
  | nameTooLong
  | permissionDenied
  /-- The path holds the character that ends paths. -/
  | embeddedNull
  deriving DecidableEq, Repr

/-- Whether it stays open what a path names that is refused for the reason. Otherwise it names
nothing. -/
def SystemFault.leavesOpen : SystemFault → Bool
  | nameTooLong | permissionDenied => true
  | _ => false

/-- The most bytes that a name may have. -/
def nameLimit : Nat := 255

/-- The number of bytes that no path may reach. -/
def pathLimit : Nat := 4096

/-- The component that leads to the directory above. -/
def upward : Name := ['.', '.']

/-- Whether a name has too many bytes. -/
def isTooLong (name : Name) : Bool :=
  decide (nameLimit < (Encoding.Utf8.encode name).length)

namespace FileSystem

/-- Where a root starts. -/
def start (fs : FileSystem) : Root → Location
  | .relative => fs.workingDirectory
  | _ => []

/-- Refuse a path that no operation takes, wherever it leads. -/
def checkPath (path : Path) : Except SystemFault Unit :=
  if path.toText.contains (Char.ofNat 0) then .error .embeddedNull
  else if pathLimit ≤ (Encoding.Utf8.encode path.toText).length then .error .nameTooLong
  else .ok ()

/-- Refuse to look for names at a location: it is no directory, or may not be searched. -/
def enter (fs : FileSystem) (here : Location) : Except SystemFault Unit :=
  if !fs.isDirectoryAt here then .error .notDirectory
  else if !fs.allows .search here then .error .permissionDenied
  else .ok ()

/-- Follow names from a location. -/
def walk (fs : FileSystem) (here : Location) : List Name → Except SystemFault Location
  | [] => .ok here
  | name :: more =>
    match fs.enter here with
    | .error fault => .error fault
    | .ok () =>
      if name = upward then fs.walk here.tail more
      else if isTooLong name then .error .nameTooLong
      else if (fs.lookup (fs.resolve (name :: here))).isNone then .error .noEntry
      else fs.walk (fs.resolve (name :: here)) more

/-- Refuse to look up the path that is a single dot, if the working directory may not be searched.
-/
def checkDot (fs : FileSystem) : Path → Except SystemFault Unit
  | ⟨.relative, []⟩ => fs.enter fs.workingDirectory
  | _ => .ok ()

/-- The location that a path names; something stands there. -/
def locate (fs : FileSystem) (path : Path) : Except SystemFault Location :=
  match checkPath path, fs.checkDot path with
  | .error fault, _ => .error fault
  | .ok (), .error fault => .error fault
  | .ok (), .ok () => fs.walk (fs.start path.root) path.names

/-- The location for a name in a directory, whatever stands there: nothing, an entry or a link. Two
dots are no name: they have no location, since they lead to a directory that exists. -/
def slotIn (fs : FileSystem) (directory : Location) (name : Name) :
    Except SystemFault (Option Location) :=
  match fs.enter directory with
  | .error fault => .error fault
  | .ok () =>
    if name = upward then .ok none
    else if isTooLong name then .error .nameTooLong
    else .ok (some (name :: directory))

/-- The location for the last name of a path. A path that ends in two dots or has no names has none:
it leads to a directory that exists. -/
def slot (fs : FileSystem) (path : Path) : Except SystemFault (Option Location) :=
  match checkPath path with
  | .error fault => .error fault
  | .ok () =>
    match path.names.getLast? with
    | none => .ok none
    | some name =>
      match fs.walk (fs.start path.root) path.names.dropLast with
      | .error fault => .error fault
      | .ok directory => fs.slotIn directory name

/-- What stands where a path leads. -/
def stat (fs : FileSystem) (path : Path) : Except SystemFault (Option Entry) :=
  (fs.locate path).map fs.lookup

/-- The content of the file that a path names. -/
def readFile (fs : FileSystem) (path : Path) : Except SystemFault Bytes :=
  match fs.stat path with
  | .error fault => .error fault
  | .ok (some (.file content)) => .ok content
  | .ok (some .directory) => .error .isDirectory
  | .ok none => .error .noEntry

/-- Refuse to put something new at a location: its directory is missing, or may not be changed. -/
def checkNew (fs : FileSystem) (location : Location) : Except SystemFault Unit :=
  if (fs.lookup location.tail).isNone then .error .noEntry
  else
    match fs.enter location.tail with
    | .error fault => .error fault
    | .ok () => if fs.allows .write location.tail then .ok () else .error .permissionDenied

/-- Open a file for writing: it is emptied, or made if it is missing. The answer says where it
stands. -/
def openFile (fs : FileSystem) (path : Path) : Except SystemFault (FileSystem × Location) :=
  match fs.slot path with
  | .error fault => .error fault
  | .ok none => .error .isDirectory
  | .ok (some place) =>
    let location := fs.resolve place
    match fs.lookup location with
    | some .directory => .error .isDirectory
    | some (.file _) => .ok (fs.put location (.file []), location)
    | none => (fs.checkNew location).map fun () => (fs.put location (.file []), location)

/-- Make one directory, where nothing stands yet. A link is something, wherever it leads. -/
def makeDirectory (fs : FileSystem) (path : Path) : Except SystemFault FileSystem :=
  match fs.slot path with
  | .error fault => .error fault
  | .ok none => .error .alreadyExists
  | .ok (some location) =>
    if (fs.lookup location).isSome || fs.isLink location then .error .alreadyExists
    else (fs.checkNew location).map fun () => fs.put location .directory

/-- Whether a path names a directory. A path that leads nowhere does not; one that cannot be looked
up is refused. -/
def isDirectory (fs : FileSystem) (path : Path) : Except SystemFault Bool :=
  match fs.stat path with
  | .ok entry => .ok (entry == some .directory)
  | .error fault => if fault.leavesOpen then .error fault else .ok false

/-- Whether a path names a file. A path that leads nowhere does not; one that cannot be looked up is
refused. -/
def isFile (fs : FileSystem) (path : Path) : Except SystemFault Bool :=
  match fs.stat path with
  | .ok (some (.file _)) => .ok true
  | .ok _ => .ok false
  | .error fault => if fault.leavesOpen then .error fault else .ok false

/-- Whether a text, taken as it is spelled, names something other than a directory. A text that ends
in a slash or in a single dot can only name a directory. -/
def isFileAsSpelled (fs : FileSystem) (t : Text) : Bool :=
  Path.isKept ((Text.pieces '/' t).getLast?.getD []) &&
    decide ((Encoding.Utf8.encode t).length < pathLimit) &&
    match fs.isFile (Path.ofText t) with
    | .ok answer => answer
    | .error _ => false

/-- Whether a text ends in a single dot, but for slashes. -/
def endsInDot (t : Text) : Bool :=
  ((Text.pieces '/' t).filter (!·.isEmpty)).getLast? == some ['.']

/-- The directory that a text, taken as it is spelled, names. An empty text names nothing. A single
dot at the end is looked up in the directory. -/
def directoryAsSpelled? (fs : FileSystem) (t : Text) : Option Location :=
  if t.isEmpty || decide (pathLimit ≤ (Encoding.Utf8.encode t).length) then none
  else
    match fs.locate (Path.ofText t) with
    | .error _ => none
    | .ok location =>
      if fs.isDirectoryAt location && (!endsInDot t || fs.allows .search location) then
        some location
      else none

/-- A path refused by the file system, with the reason. -/
structure Refusal where
  fault : SystemFault
  path : Path
  deriving DecidableEq, Repr

/-- A refused directory is no failure if it is there. -/
def excuse (fs : FileSystem) (path : Path) (fault : SystemFault) : Except Refusal Unit :=
  match fs.isDirectory path with
  | .ok true => .ok ()
  | .ok false => .error ⟨fault, path⟩
  | .error other => .error ⟨other, path⟩

/-- Make the directory whose names are given from the last one back, and before it those above it
that are missing. Directories that are there already are fine; what has been made stays made when a
later one fails. -/
def makeDirectoriesUp (fs : FileSystem) (root : Root) :
    List Name → FileSystem × Except Refusal Unit
  | [] =>
    let path : Path := ⟨root, []⟩
    match fs.makeDirectory path with
    | .ok made => (made, .ok ())
    | .error .noEntry => (fs, .error ⟨.noEntry, path⟩)
    | .error fault => (fs, fs.excuse path fault)
  | name :: above =>
    let path : Path := ⟨root, (name :: above).reverse⟩
    match fs.makeDirectory path with
    | .ok made => (made, .ok ())
    | .error .noEntry =>
      match fs.makeDirectoriesUp root above with
      | (fs, .error refusal) => (fs, .error refusal)
      | (fs, .ok ()) =>
        match fs.makeDirectory path with
        | .ok made => (made, .ok ())
        | .error .noEntry => (fs, .error ⟨.noEntry, path⟩)
        | .error fault => (fs, fs.excuse path fault)
    | .error fault => (fs, fs.excuse path fault)

/-- Make a directory and those above it that are missing. -/
def makeDirectories (fs : FileSystem) (path : Path) : FileSystem × Except Refusal Unit :=
  fs.makeDirectoriesUp path.root path.names.reverse

end FileSystem

end SyntaxReport
