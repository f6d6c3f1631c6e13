import SyntaxReport.Error

/-!
# Loaded grammars

A grammar is loaded the first time that its language is asked for, and the loaded grammar is handed
out again from then on. Each one has a serial number, by which it can be told whether two are the
same; a name without a registered grammar loads nothing.
-/

namespace SyntaxReport

/-- A loaded grammar. -/
structure Grammar where
  language : Language
  serial : Nat
  deriving DecidableEq, Repr

/-- The grammars loaded so far, the latest first. -/
structure GrammarCache where
  loaded : List Grammar
  deriving DecidableEq, Repr

namespace Language

/-- The language registered under a name; a missing name has none. -/
def find (name : Option Text) : Except DumpError Language :=
  match name.bind ofName? with
  | some language => .ok language
  | none => .error (.unknownLanguage name)

end Language

namespace GrammarCache

/-- No grammar is loaded yet. -/
def empty : GrammarCache := ⟨[]⟩

/-- The grammar of a language if it is loaded. -/
def held? (cache : GrammarCache) (language : Language) : Option Grammar :=
  cache.loaded.find? fun grammar => grammar.language == language

/-- The grammar registered under a name, loaded now unless it is there already. -/
def load (cache : GrammarCache) (name : Option Text) :
    GrammarCache × Except DumpError Grammar :=
  match Language.find name with
  | .error error => (cache, .error error)
  | .ok language =>
    match cache.held? language with
    | some grammar => (cache, .ok grammar)
    | none =>
      let grammar : Grammar := ⟨language, cache.loaded.length⟩
      (⟨grammar :: cache.loaded⟩, .ok grammar)

/-- The grammars registered under a list of names, asked for in turn. -/
def loadEach (cache : GrammarCache) : List (Option Text) → List (Except DumpError Grammar)
  | [] => []
  | name :: more =>
    let (cache, answer) := cache.load name
    answer :: cache.loadEach more

end GrammarCache

end SyntaxReport
