import SyntaxReport.Proofs.Console.Silence

/-!
# Numbered calls

The calls on a logger are numbered from its creation on, by themselves: what happens to the streams,
to NO_COLOR and to other loggers in between does not matter, nor whether a line is heard. Where the
streams lead and whether the number is coloured is found out anew at each call.

Results:
* `State.logger?_step_of_ne`, `State.logger?_after_of_undisturbed`: what a step and a run do to a
  logger.
* `State.numbers_eq`: in a run, the calls on a logger carry its next number and those behind it, one
  after another.
* `State.writesLine`: what a call writes.
* `log_numbering`: all of it, for a logger that has been created at any time in any run.
-/

namespace SyntaxReport.Console

/-- Whether a step is a call on the logger of a name. -/
def Step.calls (name : Text) : Step → Bool
  | .log other _ _ => other == name
  | _ => false

/-- The number of calls on the logger of a name among some steps. -/
def callCount (name : Text) (steps : List Step) : Nat :=
  steps.countP (Step.calls name)

/-- None of the steps creates a logger under the name. -/
def Undisturbed (name : Text) (steps : List Step) : Prop :=
  ∀ enabled, .createLogger name enabled ∉ steps

/-- The number that a call on the logger of a name carries; there is none if that is not enabled. -/
def State.number? (state : State) (name : Text) : Option Nat :=
  match state.logger? name with
  | some ⟨next, true⟩ => some next
  | _ => none

/-- The numbers that the calls on the logger of a name carry in a run. -/
def State.numbers (name : Text) (state : State) : List Step → List Nat
  | [] => []
  | step :: more =>
    (if step.calls name then (state.number? name).toList else []) ++
      (state.step step).1.numbers name more

variable {name text : Text} {enabled : Bool} {step : Step} {next : Nat}

theorem callCount_cons (name : Text) (step : Step) (steps : List Step) :
    callCount name (step :: steps) = callCount name steps + if step.calls name then 1 else 0 :=
  List.countP_cons

theorem undisturbed_cons {steps : List Step} :
    Undisturbed name (step :: steps) ↔
      (∀ enabled, step ≠ .createLogger name enabled) ∧ Undisturbed name steps := by
  simp only [Undisturbed, List.mem_cons, not_or, forall_and, ne_comm (a := step)]

namespace State

variable {state : State}

/-! ## Steps and runs -/

/-- A step that does not create a logger anew leaves it as it was, up to the next number: that goes
up by one if the logger is enabled and the step is a call on it. -/
theorem logger?_step_of_ne (h : state.logger? name = some ⟨next, enabled⟩)
    (hstep : ∀ again, step ≠ .createLogger name again) :
    (state.step step).1.logger? name =
      some ⟨next + if enabled && step.calls name then 1 else 0, enabled⟩ := by
  rw [logger?_step, h]
  cases step with
  | createLogger other again =>
    have hne : other ≠ name := fun heq => hstep again (heq ▸ rfl)
    simp [Step.loggerBehind, Step.calls, hne]
  | log other text stream =>
    by_cases hname : other = name <;> cases enabled <;>
      simp [Step.loggerBehind, Logger.called, Step.calls, hname]
  | enter | leave | setNoColor | paint | print => simp [Step.loggerBehind, Step.calls]

/-- Behind a run that does not create a logger anew, its next number counts the calls on it. -/
theorem logger?_after_of_undisturbed (h : state.logger? name = some ⟨next, enabled⟩)
    {recent : History} (hrecent : Undisturbed name recent) :
    (state.after recent).logger? name =
      some ⟨next + if enabled then callCount name recent else 0, enabled⟩ := by
  induction recent with
  | nil => simpa [after, callCount] using h
  | cons step recent ih =>
    obtain ⟨hstep, hrecent⟩ := undisturbed_cons.mp hrecent
    rw [after, logger?_step_of_ne (ih hrecent) hstep, callCount_cons]
    cases enabled <;> simp [Nat.add_assoc]

/-- In a run that does not create an enabled logger anew, the calls on it carry its next number and
those behind it, one after another. -/
theorem numbers_eq (h : state.logger? name = some ⟨next, true⟩) {steps : List Step}
    (hsteps : Undisturbed name steps) :
    state.numbers name steps = List.range' next (callCount name steps) := by
  induction steps generalizing state next with
  | nil => rfl
  | cons step steps ih =>
    obtain ⟨hstep, hsteps⟩ := undisturbed_cons.mp hsteps
    have hnumber : state.number? name = some next := by rw [number?, h]
    have hlogger := logger?_step_of_ne h hstep
    rw [numbers, ih hlogger hsteps, callCount_cons, hnumber]
    cases step.calls name with
    | true => exact List.range'_succ.symm
    | false => rfl

/-- A logger that is created starts with the number 1. -/
theorem logger?_after_create (state : State) (name : Text) (enabled : Bool) (before : History) :
    (state.after (.createLogger name enabled :: before)).logger? name = some ⟨1, enabled⟩ := by
  rw [after, State.step, logger?_setLogger, if_pos rfl]

end State

/-! ## Calls -/

/-- The line that a call writes: the number, green where NO_COLOR is not set, and the entry. -/
def spelledLine (noColor : Option Text) (number : Nat) (entry : Text) : Text :=
  if noColor.isNone then
    "\x1b[1m\x1b[32m".toList ++ Text.decimal number ++ ". \x1b[0m".toList ++ entry
  else Text.decimal number ++ ". ".toList ++ entry

theorem logLine_eq_spelledLine (noColor : Option Text) (number : Nat) (entry : Text) :
    logLine noColor number entry = spelledLine noColor number entry := by
  cases noColor with
  | none => simp [spelledLine, logLine, Tint.paint, sequence, Tint.parameter, escape]
  | some value => simp [spelledLine, logLine, Tint.paint]

/-- What a call on an enabled logger writes, where it is heard, and that it is the affair of that
logger alone. -/
structure WritesLine (state : State) (name : Text) (number : Nat) (text : Text) : Prop where
  err : (state.step (.log name text .err)).2 =
    ⟨.ok none, [], spelledLine state.noColor number text ++ ['\n']⟩
  out : (state.step (.log name text .out)).2 =
    ⟨.ok none,
      if state.output = .outer then spelledLine state.noColor number text ++ ['\n'] else [], []⟩
  others : ∀ stream other, other ≠ name →
    (state.step (.log name text stream)).1.logger? other = state.logger? other

namespace State

variable {state : State}

theorem writesLine (h : state.logger? name = some ⟨next, true⟩) (text : Text) :
    WritesLine state name next text := by
  have hstep (stream : Stream) : state.step (.log name text stream) =
      (state.setLogger name ⟨next + 1, true⟩,
        state.write (spelledLine state.noColor next text) stream) := by
    rw [State.step, log, h, ← logLine_eq_spelledLine]
  refine ⟨?_, ?_, fun stream other hother => ?_⟩
  · rw [hstep, write]
  · rw [hstep, write.eq_def]
    cases state.output with
    | outer => rfl
    | discard => rfl
  · rw [hstep, logger?_setLogger, if_neg (Ne.symm hother)]

/-- A call on a logger that is not enabled does nothing. -/
theorem log_of_disabled (h : state.logger? name = some ⟨next, false⟩) (text : Text)
    (stream : Stream) : state.step (.log name text stream) = (state, .quiet) := by
  rw [State.step, log, h]

end State

/-- The calls on a logger are numbered from its creation on. On a console that started with any
value of NO_COLOR, or none, let a logger be created behind any steps, and let any others follow that
do not create it anew: loggers of other names, calls on all of them, contexts entered and left, and
other values of NO_COLOR.

* If the logger is enabled, the calls on it among these steps carry the numbers 1, 2, 3 and so on.
  One more call writes a line with the next number: to the error stream in any case, and to the
  output stream unless that leads nowhere because a silent context is open. The number is green if
  and only if NO_COLOR is not set at the time of the call, and the entry is not changed. No other
  logger is changed by the call.
* If the logger is not enabled, a call on it writes and changes nothing. -/
theorem log_numbering (value : Option Text) (before recent : History) (name : Text)
    (h : Undisturbed name recent) :
    (let created := (State.initial value).after (.createLogger name true :: before)
     let state := (State.initial value).after (recent ++ .createLogger name true :: before)
     created.numbers name recent.reverse = List.range' 1 (callCount name recent) ∧
      (∀ opened, openings (recent ++ .createLogger name true :: before) = some opened →
        (state.output = .outer ↔ .silent ∉ opened.map Opening.kind)) ∧
      ∀ text, WritesLine state name (callCount name recent + 1) text) ∧
    let state := (State.initial value).after (recent ++ .createLogger name false :: before)
    ∀ text stream, state.step (.log name text stream) = (state, .quiet) := by
  have hcreated := State.logger?_after_create (State.initial value) name
  have hlogger (enabled : Bool) :=
    State.logger?_after_of_undisturbed (hcreated enabled before) h
  simp only [← State.after_append] at hlogger
  refine ⟨⟨?_, fun opened hopen => ?_, fun text => ?_⟩, fun text stream => ?_⟩
  · have hreverse : Undisturbed name recent.reverse :=
      fun enabled hmem => h enabled (List.mem_reverse.mp hmem)
    rw [State.numbers_eq (hcreated true before) hreverse, callCount, List.countP_reverse, callCount]
  · exact State.output_eq_outer_iff _ (openings_eq_some_iff.mp hopen) rfl
  · rw [Nat.add_comm]
    exact State.writesLine (hlogger true) text
  · exact State.log_of_disabled (hlogger false) text stream

/-- Since a logger has been created in the place of another one, it has been called once on the
error stream and once in a silent context, which is still open; and a logger with another name has
been created and called between these calls. -/
def calledUnheard : History :=
  [.setNoColor none, .log "a".toList "y".toList .out, .enter .silent,
    .log "b".toList "z".toList .out, .createLogger "b".toList true, .log "a".toList "x".toList .err]

/-- The third call carries the number 3, in green, and is heard on the error stream only. -/
theorem log_numbering_unheard :
    let created : History := [.createLogger "a".toList true, .log "a".toList "w".toList .out,
      .createLogger "a".toList true]
    let state := (State.initial (some [])).after (calledUnheard ++ created)
    ((State.initial (some [])).after created).numbers "a".toList calledUnheard.reverse = [1, 2] ∧
      (state.step (.log "a".toList "v".toList .err)).2.err =
        "\x1b[1m\x1b[32m3. \x1b[0mv\n".toList ∧
      (state.step (.log "a".toList "v".toList .out)).2.out = [] ∧
      (state.step (.log "a".toList "v".toList .out)).1.logger? "b".toList = some ⟨2, true⟩ := by
  intro created state
  have hundisturbed : Undisturbed "a".toList calledUnheard := by
    intro enabled hmem
    revert hmem
    cases enabled <;> decide
  have hopen : openings (calledUnheard ++ created) =
      some [⟨.silent, (calledUnheard ++ created).drop 3⟩] := by decide
  obtain ⟨⟨hnumbers, hsilent, hcalled⟩, -⟩ :=
    log_numbering (some []) _ calledUnheard "a".toList hundisturbed
  obtain ⟨herr, hout, hothers⟩ := hcalled "v".toList
  have houtput : state.output ≠ .outer := fun houter =>
    (hsilent _ hopen).mp houter List.mem_cons_self
  rw [if_neg houtput] at hout
  exact ⟨hnumbers, congrArg Answer.err herr, congrArg Answer.out hout,
    (hothers .out _ (by decide)).trans rfl⟩

end SyntaxReport.Console
