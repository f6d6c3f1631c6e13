import SyntaxReport.Proofs.Console.History

/-!
# Loggers

A logger is known by its name; another one that is created under the same name takes its place. The
history tells whether it is enabled, and how many lines it has written.

Results:
* `State.logger?_step`: what a step makes of the logger of a name.
* `State.logger?_after`: the logger of a name, as the history tells it.
-/

namespace SyntaxReport.Console

/-- A logger behind a call: it counts the call if it is enabled. -/
def Logger.called : Logger → Logger
  | ⟨next, true⟩ => ⟨next + 1, true⟩
  | ⟨next, false⟩ => ⟨next, false⟩

/-- What a step makes of the logger of a name. -/
def Step.loggerBehind (name : Text) (held : Option Logger) : Step → Option Logger
  | .createLogger other enabled => if other = name then some ⟨1, enabled⟩ else held
  | .log other _ _ => if other = name then held.map Logger.called else held
  | _ => held

/-- Whether the logger that was created last under a name is enabled, if any was created. -/
def created (name : Text) : History → Option Bool
  | [] => none
  | step :: past =>
    match step with
    | .createLogger other enabled => if other = name then some enabled else created name past
    | _ => created name past

/-- The number of lines that the logger of a name has written since it was created. -/
def logged (name : Text) : History → Nat
  | [] => 0
  | step :: past =>
    match step with
    | .createLogger other _ => if other = name then 0 else logged name past
    | .log other _ _ =>
      if other = name ∧ created other past = some true then logged name past + 1
      else logged name past
    | _ => logged name past

/-- The logger of a name, as the history tells it. -/
def tracked (name : Text) (past : History) : Option Logger :=
  (created name past).map fun enabled => ⟨logged name past + 1, enabled⟩

/-- One more step makes of the logger that the history tells what it makes of any logger. -/
theorem tracked_cons (name : Text) (step : Step) (past : History) :
    tracked name (step :: past) = step.loggerBehind name (tracked name past) := by
  cases step with
  | createLogger other enabled =>
    by_cases hname : other = name <;> simp [tracked, created, logged, Step.loggerBehind, hname]
  | log other text stream =>
    by_cases hname : other = name
    · subst hname
      rcases hcreated : created other past with _ | _ | _ <;>
        simp [tracked, created, logged, Step.loggerBehind, Logger.called, hcreated]
    · simp [tracked, created, logged, Step.loggerBehind, hname]
  | enter | leave | setNoColor | paint | print => rfl

theorem lookup_filter_ne {name other : Text} (h : name ≠ other) (loggers : List (Text × Logger)) :
    (loggers.filter fun held => held.1 != other).lookup name = loggers.lookup name := by
  induction loggers with
  | nil => rfl
  | cons held more ih =>
    obtain ⟨key, logger⟩ := held
    by_cases hkey : key = other
    · have hname : (name == key) = false := beq_false_of_ne (hkey ▸ h)
      rw [List.lookup_cons, hname, ← ih, List.filter_cons_of_neg (by simp [hkey])]
    · rw [List.filter_cons_of_pos (by simp [hkey]), List.lookup_cons, List.lookup_cons, ih]

namespace State

variable (state : State) {name text : Text} {stream : Stream} {past : History}

theorem logger?_setLogger (name other : Text) (logger : Logger) :
    (state.setLogger other logger).logger? name =
      if other = name then some logger else state.logger? name := by
  by_cases h : other = name
  · simp [setLogger, logger?, h]
  · have hname : name ≠ other := Ne.symm h
    simp only [setLogger, logger?, List.lookup_cons, beq_false_of_ne hname, lookup_filter_ne hname,
      if_neg h]

theorem loggers_enter (kind : ContextKind) : (state.enter kind).loggers = state.loggers := by
  cases kind <;> rfl

theorem loggers_leave : state.leave.1.loggers = state.loggers := by
  unfold leave
  split <;> rfl

/-- An enabled logger writes a line with its next number. -/
theorem log_of_enabled (h : state.logger? name = tracked name past)
    (henabled : created name past = some true) :
    state.log name text stream =
      (state.setLogger name ⟨logged name past + 2, true⟩,
        state.write (logLine state.noColor (logged name past + 1) text) stream) := by
  rw [tracked, henabled] at h
  rw [log, h]
  rfl

/-- Another one neither writes nor counts. -/
theorem log_of_not_enabled (h : state.logger? name = tracked name past)
    (hnot : created name past ≠ some true) :
    state.log name text stream = (state, .quiet) := by
  unfold log
  split
  · next number hlogger =>
    rw [h, tracked, Option.map_eq_some_iff] at hlogger
    obtain ⟨enabled, hcreated, heq⟩ := hlogger
    obtain ⟨-, rfl⟩ := Logger.mk.inj heq
    exact absurd hcreated hnot
  · rfl

/-- A step concerns the logger of a name only if it creates it or is a call on it. -/
theorem logger?_step (step : Step) (name : Text) :
    (state.step step).1.logger? name = step.loggerBehind name (state.logger? name) := by
  cases step with
  | enter kind => exact congrArg (List.lookup name) (state.loggers_enter kind)
  | leave raising => exact congrArg (List.lookup name) state.loggers_leave
  | createLogger other enabled => rw [State.step, logger?_setLogger, Step.loggerBehind]
  | log other text stream =>
    rw [State.step, log, Step.loggerBehind]
    by_cases hname : other = name
    · subst hname
      rw [if_pos rfl]
      rcases hheld : state.logger? other with _ | ⟨next, _ | _⟩
      · exact hheld
      · exact hheld
      · rw [logger?_setLogger, if_pos rfl]
        rfl
    · rw [if_neg hname]
      split
      · rw [logger?_setLogger, if_neg hname]
      · rfl
  | setNoColor | paint | print => rfl

/-- The logger of a name is as the history tells it, if the console had no loggers at first. -/
theorem logger?_after (h : state.loggers = []) (past : History) (name : Text) :
    (state.after past).logger? name = tracked name past := by
  induction past with
  | nil => rw [after, logger?, h]; rfl
  | cons step past ih => rw [after, logger?_step, ih, tracked_cons]

end State

end SyntaxReport.Console
