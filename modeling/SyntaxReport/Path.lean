import SyntaxReport.Text.Basic

/-!
# Paths

A path is a root and a list of names. Reading one from a text drops what does not matter: repeated
and trailing slashes and the components that are a single dot. Two dots stay, since they only make
sense where the directories are known. Exactly two leading slashes are a root of their own.

* `Path.ofText` and `Path.toText` read and write a path.
* `Path.name` is the last name; `Path.stem` and `Path.suffix` split it at its last dot.
* `Path.parent` and `Path.child` go up and down by one name.
-/

namespace SyntaxReport

/-- The name of a file or directory within its parent, or two dots. -/
abbrev Name := Text

/-- Where a path starts. -/
inductive Root where
  /-- At the working directory. -/
  | relative
  /-- At the root directory, written with one slash. -/
  | single
  /-- At the root directory, written with two slashes. -/
  | double
  deriving DecidableEq, Repr

/-- A path with nothing superfluous in it. -/
structure Path where
  root : Root
  names : List Name
  deriving DecidableEq, Repr

/-- The root that a text starts with: two slashes count only if no third follows. -/
def Root.ofText : Text → Root
  | '/' :: '/' :: '/' :: _ => single
  | '/' :: '/' :: _ => double
  | '/' :: _ => single
  | _ => relative

/-- The slashes of a root. -/
def Root.toText : Root → Text
  | relative => []
  | single => ['/']
  | double => ['/', '/']

namespace Path

/-- Whether a component of a path is kept: the empty one and the single dot are not. -/
def isKept (component : Text) : Bool :=
  component != [] && component != ['.']

/-- The path that a text denotes. -/
def ofText (t : Text) : Path :=
  ⟨Root.ofText t, (Text.pieces '/' t).filter isKept⟩

/-- The text of a path, a single dot if it has neither root nor names. -/
def toText (path : Path) : Text :=
  match path.root, path.names with
  | .relative, [] => ['.']
  | root, names => root.toText ++ Text.joinWith ['/'] names

/-- The last name, or the empty text if there is none. -/
def name (path : Path) : Name :=
  path.names.getLast?.getD []

/-- The directory that holds the path's last name; a path without names is its own parent. -/
def parent (path : Path) : Path :=
  { path with names := path.names.dropLast }

/-- The path with one more name. -/
def child (path : Path) (name : Name) : Path :=
  { path with names := path.names ++ [name] }

/-- A name cut before its last dot: the stem and the suffix, which starts with the dot. The suffix
is empty if the name has no dot, or if the last dot is its first or last character. -/
def splitName (name : Name) : Name × Text :=
  let extension := name.reverse.takeWhile (· != '.')
  let stem := (name.reverse.drop (extension.length + 1)).reverse
  if extension == [] || stem == [] then (name, [])
  else (stem, '.' :: extension.reverse)

/-- The last name without its suffix. -/
def stem (path : Path) : Name :=
  (splitName path.name).1

/-- The suffix of the last name, from its last dot on. -/
def suffix (path : Path) : Text :=
  (splitName path.name).2

end Path

end SyntaxReport
