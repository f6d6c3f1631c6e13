import SyntaxReport.Path
import SyntaxReport.Text.LowerCase

/-!
# Languages

The languages that can be parsed, each with its name and the module that holds its compiled
grammar. A file's language is guessed from the suffix of its name, in lower case.
-/

namespace SyntaxReport

/-- A language with a registered grammar. -/
inductive Language where
  | c
  | javascript
  | python
  deriving DecidableEq, Repr

namespace Language

/-- All languages, in the order of their names. -/
def all : List Language := [c, javascript, python]

/-- The name by which a language is asked for. -/
def name : Language → Text
  | c => "c".toList
  | javascript => "javascript".toList
  | python => "python".toList

/-- The module of the language's compiled grammar. -/
def grammarModule : Language → Text
  | c => "tree_sitter_c".toList
  | javascript => "tree_sitter_javascript".toList
  | python => "tree_sitter_python".toList

/-- The language of a name. -/
def ofName? (name : Text) : Option Language :=
  all.find? fun language => language.name == name

/-- A name is found exactly if it is the language's. -/
theorem ofName?_eq_some_iff {name : Text} {language : Language} :
    ofName? name = some language ↔ name = language.name := by
  constructor
  · intro h
    have found := List.find?_some h
    exact (beq_iff_eq.mp found).symm
  · rintro rfl
    cases language <;> decide +kernel

/-- The language of a file whose name says nothing about it. -/
def fallback : Language := javascript

/-- The suffixes that tell a language. -/
def suffixes : List (Text × Language) :=
  [(".js".toList, javascript), (".mjs".toList, javascript), (".cjs".toList, javascript),
   (".jsx".toList, javascript), (".py".toList, python), (".pyi".toList, python),
   (".c".toList, c), (".h".toList, c)]

/-- The language that the suffix of a path tells in lower case, or else the fallback. -/
def guess (path : Path) : Language :=
  (suffixes.lookup (Text.lower path.suffix)).getD fallback

end Language

end SyntaxReport
