import SyntaxReport.Encoding.Codec
import SyntaxReport.Grammar.Cache
import SyntaxReport.Tree.Layout

/-!
# The parsing engine

The engine is any function from a language and a source text to the serialization of the syntax
tree. It is called only for a registered language, and every call is recorded.

* `parseText` looks the language up and calls the engine; `parseSource` does so for a source that
  may be no text.
* `dumpText` lays out the answer.
* `GrammarCache.parse` does what `parseText` does, with the grammars that are loaded already.
-/

namespace SyntaxReport

/-- The serialization of the syntax tree of a source text in a language. -/
abbrev Engine := Language → Text → Text

/-- A call of the engine. -/
structure EngineCall where
  language : Language
  source : Text
  deriving DecidableEq, Repr

/-- The bytes that the engine parses: the source text in UTF-8. -/
def EngineCall.bytes (call : EngineCall) : Bytes :=
  Encoding.Utf8.encode call.source

/-- The outcome of a piece of work, with the log entries and the engine calls on the way to it. -/
structure Attempt (α : Type) where
  result : Except DumpError α
  entries : List Text
  calls : List EngineCall

/-- Parse a source text in the language of the given name. -/
def parseText (engine : Engine) (source : Text) (name : Option Text) : Attempt Text :=
  match Language.find name with
  | .error error => ⟨.error error, [], []⟩
  | .ok language => ⟨.ok (engine language source), [], [⟨language, source⟩]⟩

/-- Parse a source in the language of the given name. If it is no text, it cannot be given to the
engine. -/
def parseSource (engine : Engine) (source : Points) (name : Option Text) : Attempt Text :=
  match Encoding.utf8.encodeError? source with
  | none => parseText engine source.characters name
  | some error =>
    match Language.find name with
    | .error error => ⟨.error error, [], []⟩
    | .ok _ => ⟨.error (.unparsable error), [], []⟩

/-- Lay out the serialization of a tree. -/
def layoutTree (indent text : Text) : Except DumpError Text :=
  match Tree.layout indent text with
  | .error unmatched => .error (.unmatchedClose unmatched.offset)
  | .ok laidOut => .ok laidOut

/-- The laid out syntax tree of a source text in the language of the given name. -/
def dumpText (engine : Engine) (source : Text) (name : Option Text) (indent : Text) :
    Attempt Text :=
  let parsed := parseText engine source name
  match parsed.result with
  | .error error => { parsed with result := .error error }
  | .ok tree => { parsed with result := layoutTree indent tree }

/-- Parse a source text with the grammar that the cache holds or loads for the name. -/
def GrammarCache.parse (cache : GrammarCache) (engine : Engine) (source : Text)
    (name : Option Text) : GrammarCache × Attempt Text :=
  match cache.load name with
  | (cache, .error error) => (cache, ⟨.error error, [], []⟩)
  | (cache, .ok grammar) =>
    (cache, ⟨.ok (engine grammar.language source), [], [⟨grammar.language, source⟩]⟩)

end SyntaxReport
