import SyntaxReport.Console.Log
import SyntaxReport.Error

/-!
# The state of the console

The console has two streams, of which the output stream can be silenced, the environment variable
NO_COLOR, and loggers that count their lines. Contexts are entered and left, the innermost first; a
context remembers what it replaced, and puts it back when it is left.

* `Console.step` carries out a step; `Console.run` carries out a list of them in order.
-/

namespace SyntaxReport.Console

/-- Where the output stream leads. -/
inductive Sink where
  /-- To the stream that the console had at first. -/
  | outer
  /-- Nowhere. -/
  | discard
  deriving DecidableEq, Repr

/-- A context that is open, with what it replaced. -/
inductive Context where
  | silent (saved : Sink)
  | noColor (saved : Option Text)
  deriving DecidableEq, Repr

/-- The contexts that can be entered. -/
inductive ContextKind where
  | silent
  | noColor
  deriving DecidableEq, Repr

/-- The two streams. -/
inductive Stream where
  | out
  | err
  deriving DecidableEq, Repr

/-- A logger: the number of its next line, and whether it writes at all. -/
structure Logger where
  next : Nat
  enabled : Bool
  deriving DecidableEq, Repr

/-- The console: NO_COLOR if it is set, the current output stream, the open contexts with the
innermost first, and the loggers by name. -/
structure State where
  noColor : Option Text
  output : Sink
  contexts : List Context
  loggers : List (Text × Logger)
  deriving DecidableEq, Repr

/-- What can be done with the console. -/
inductive Step where
  | enter (kind : ContextKind)
  /-- Leave the innermost context: as a rule without a failure on its way out through it. -/
  | leave (raising : optParam Bool false)
  | setNoColor (value : Option Text)
  | paint (tint : Tint) (text : Text)
  | print (text : Text) (stream : Stream)
  | createLogger (name : Text) (enabled : Bool)
  | log (name text : Text) (stream : Stream)
  deriving DecidableEq, Repr

/-- What a step answers, and what reaches the outer streams. -/
structure Answer where
  result : Except DumpError (Option Text)
  out : Text
  err : Text

/-- The answer of a step that says and writes nothing. -/
def Answer.quiet : Answer := ⟨.ok none, [], []⟩

/-- The environment variable that turns colours off. -/
def noColorVariable : Text := "NO_COLOR".toList

/-- The value of NO_COLOR within a context without colours. -/
def noColorValue : Text := "true".toList

namespace State

/-- A console as it is at first. -/
def initial (noColor : Option Text) : State :=
  { noColor, output := .outer, contexts := [], loggers := [] }

/-- What the outer streams get of a text and a newline. -/
def write (state : State) (text : Text) (stream : Stream) : Answer :=
  match stream, state.output with
  | .out, .outer => ⟨.ok none, text ++ ['\n'], []⟩
  | .out, .discard => .quiet
  | .err, _ => ⟨.ok none, [], text ++ ['\n']⟩

/-- Enter a context. -/
def enter (state : State) : ContextKind → State
  | .silent =>
    { state with output := .discard, contexts := .silent state.output :: state.contexts }
  | .noColor =>
    { state with
      noColor := some noColorValue
      contexts := .noColor state.noColor :: state.contexts }

/-- Leave the innermost context. It cannot unset NO_COLOR if that is not set any more. -/
def leave (state : State) : State × Except DumpError Unit :=
  match state.contexts with
  | [] => (state, .ok ())
  | .silent saved :: contexts => ({ state with output := saved, contexts }, .ok ())
  | .noColor (some value) :: contexts => ({ state with noColor := some value, contexts }, .ok ())
  | .noColor none :: contexts =>
    ({ state with noColor := none, contexts },
      if state.noColor.isNone then .error (.missingVariable noColorVariable) else .ok ())

/-- The logger of a name, if there is one. -/
def logger? (state : State) (name : Text) : Option Logger :=
  state.loggers.lookup name

/-- The state with the given logger under a name. -/
def setLogger (state : State) (name : Text) (logger : Logger) : State :=
  { state with loggers := (name, logger) :: state.loggers.filter fun held => held.1 != name }

/-- Write a log line; a logger that is not enabled, or does not exist, neither writes nor counts. -/
def log (state : State) (name text : Text) (stream : Stream) : State × Answer :=
  match state.logger? name with
  | some ⟨next, true⟩ =>
    (state.setLogger name ⟨next + 1, true⟩, state.write (logLine state.noColor next text) stream)
  | _ => (state, .quiet)

/-- Carry out a step. -/
def step (state : State) : Step → State × Answer
  | .enter kind => (state.enter kind, .quiet)
  | .leave _ =>
    -- the context is cleaned up in either case, and does not hold a failure back
    let (state, result) := state.leave
    (state, ⟨result.map fun _ => none, [], []⟩)
  | .setNoColor value => ({ state with noColor := value }, .quiet)
  | .paint tint text => (state, ⟨.ok (some (tint.paint state.noColor text)), [], []⟩)
  | .print text stream => (state, state.write text stream)
  | .createLogger name enabled => (state.setLogger name ⟨1, enabled⟩, .quiet)
  | .log name text stream => state.log name text stream

/-- Carry out some steps in order: the answer of each, and the state behind it. -/
def run (state : State) : List Step → List (Answer × State)
  | [] => []
  | step :: more =>
    let (state, answer) := state.step step
    (answer, state) :: state.run more

end State

end SyntaxReport.Console
