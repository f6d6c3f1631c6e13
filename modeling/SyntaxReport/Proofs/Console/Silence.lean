import SyntaxReport.Proofs.Console.Loggers

/-!
# Silent contexts

Within a silent context, and within whatever is open in it, nothing that is sent to the output
stream arrives; the error stream is never silenced. What is sent is told by the history: a text that
is printed, or an entry that is given to a logger which is enabled.

Results:
* `State.step_of_line`, `State.step_of_no_line`: a step writes the line that it sends, or nothing.
* `count_enter`: every context that has been entered has been left or is open.
* `silence_scoped`: what reaches the two streams, and when the output stream is back.
-/

namespace SyntaxReport.Console

variable {past : History} {opened : List Opening}

/-- The line that a step sends, and the stream it sends it to, behind some others; most steps send
none. -/
def Step.line? (past : History) (noColor : Option Text) : Step → Option (Text × Stream)
  | .print text stream => some (text, stream)
  | .log name text stream =>
    if created name past = some true then
      some (logLine noColor (logged name past + 1) text, stream)
    else none
  | _ => none

/-- The kind of the innermost context, if one is open. -/
def innermost (past : History) : Option ContextKind :=
  ((openings past).bind List.head?).map Opening.kind

/-- How often a context of a kind has been left. -/
def timesLeft (kind : ContextKind) : History → Nat
  | [] => 0
  | step :: past =>
    match step with
    | .leave _ => timesLeft kind past + if innermost past = some kind then 1 else 0
    | _ => timesLeft kind past

theorem timesLeft_of_stays {step : Step} (h : step.Stays) (kind : ContextKind) (past : History) :
    timesLeft kind (step :: past) = timesLeft kind past := by
  cases step with
  | enter | leave => cases h
  | setNoColor | paint | print | createLogger | log => rfl

/-- Every context that has been entered has been left or is open. -/
theorem count_enter (kind : ContextKind) (h : Nested past opened) :
    past.count (.enter kind) = timesLeft kind past + (opened.map Opening.kind).count kind := by
  induction h with
  | start => rfl
  | @enter past opened other _ ih =>
    have hleft : timesLeft kind (.enter other :: past) = timesLeft kind past := rfl
    rw [hleft, List.map_cons, List.count_cons, List.count_cons, ih]
    simp [Nat.add_assoc]
  | @leave past opening opened raising hpast _ ih _ =>
    have hinnermost : innermost past = some opening.kind := by
      rw [innermost, hpast.openings_eq]
      rfl
    rw [List.count_cons_of_ne (by simp), ih, timesLeft, hinnermost, List.map_cons, List.count_cons]
    simp only [Option.some.injEq, beq_iff_eq]
    omega
  | stay hstays _ ih =>
    rw [timesLeft_of_stays hstays, ← ih, List.count_cons_of_ne]
    rintro rfl
    exact hstays

namespace State

variable (state : State) {step : Step} {line : Text} {stream : Stream}

/-- A step that sends a line writes it. -/
theorem step_of_line (h : state.loggers = [])
    (hline : step.line? past (state.after past).noColor = some (line, stream)) :
    ((state.after past).step step).2 = (state.after past).write line stream := by
  cases step with
  | print text sent =>
    obtain ⟨rfl, rfl⟩ := Prod.mk.inj (Option.some.inj hline)
    rfl
  | log name text sent =>
    rw [Step.line?] at hline
    split at hline
    · next henabled =>
      obtain ⟨rfl, rfl⟩ := Prod.mk.inj (Option.some.inj hline)
      rw [State.step, log_of_enabled _ (state.logger?_after h past name) henabled]
    · cases hline
  | enter | leave | setNoColor | paint | createLogger => cases hline

/-- A step that sends no line writes nothing. -/
theorem step_of_no_line (h : state.loggers = [])
    (hline : step.line? past (state.after past).noColor = none) :
    ((state.after past).step step).2.out = [] ∧ ((state.after past).step step).2.err = [] := by
  cases step with
  | print => cases hline
  | log name text sent =>
    rw [Step.line?] at hline
    split at hline
    · cases hline
    · next hnot =>
      rw [State.step, log_of_not_enabled _ (state.logger?_after h past name) hnot]
      exact ⟨rfl, rfl⟩
  | enter | leave | setNoColor | paint | createLogger => exact ⟨rfl, rfl⟩

/-- The output stream is the first one unless a silent context is open. -/
theorem output_eq_outer_iff (h : Nested past opened) (houter : state.output = .outer) :
    (state.after past).output = .outer ↔ .silent ∉ opened.map Opening.kind := by
  rw [state.output_after h, houter]
  split <;> simp [*]

/-- A line that is sent to the output stream arrives unless a silent context is open. -/
theorem write_out_after (h : Nested past opened) (houter : state.output = .outer) :
    (state.after past).write line .out =
      ⟨.ok none, if .silent ∈ opened.map Opening.kind then [] else line ++ ['\n'], []⟩ := by
  have houtput := state.output_after h
  rw [houter] at houtput
  split at houtput
  · next hsilent => simp only [write, houtput, if_pos hsilent, Answer.quiet]
  · next hsilent => simp only [write, houtput, if_neg hsilent]

end State

/-- On a console on which contexts have been left innermost first, a line that is sent to the output
stream arrives if and only if no silent context is open, and one that is sent to the error stream
arrives in any case; nothing else is written. Once as many silent contexts have been left as have
been entered, and only then, the output stream is the one that the console had at first. -/
theorem silence_scoped (value : Option Text) (h : openings past = some opened) :
    let state := (State.initial value).after past
    (∀ step line, step.line? past state.noColor = some (line, .out) →
        (state.step step).2.out =
            (if .silent ∈ opened.map Opening.kind then [] else line ++ ['\n']) ∧
          (state.step step).2.err = []) ∧
      (∀ step line, step.line? past state.noColor = some (line, .err) →
        (state.step step).2.out = [] ∧ (state.step step).2.err = line ++ ['\n']) ∧
      (∀ step, step.line? past state.noColor = none →
        (state.step step).2.out = [] ∧ (state.step step).2.err = []) ∧
      (past.count (.enter .silent) = timesLeft .silent past ↔ state.output = .outer) := by
  intro state
  have hnested := openings_eq_some_iff.mp h
  refine ⟨fun step line hline => ?_, fun step line hline => ?_, fun step hline => ?_, ?_⟩
  · rw [(State.initial value).step_of_line rfl hline, State.write_out_after _ hnested rfl]
    exact ⟨rfl, rfl⟩
  · rw [(State.initial value).step_of_line rfl hline]
    exact ⟨rfl, rfl⟩
  · exact (State.initial value).step_of_no_line rfl hline
  · rw [count_enter .silent hnested, Nat.add_eq_left, List.count_eq_zero]
    exact (State.output_eq_outer_iff _ hnested rfl).symm

/-- In a silent context another one has been entered and left, within a context without colours that
could not be left without failure. -/
def silentAgain : History :=
  [.leave true, .setNoColor none, .leave false, .enter .silent, .enter .noColor,
    .createLogger "a".toList true, .enter .silent]

/-- One silent context is still open: what is logged does not arrive, nor is the output stream back,
but the error stream is heard. -/
theorem silence_scoped_again :
    let state := (State.initial none).after silentAgain
    openings silentAgain = some [⟨.silent, []⟩] ∧
      (state.step (.log "a".toList "x".toList .out)).2.out = [] ∧
      (state.step (.print "x".toList .err)).2.err = "x\n".toList ∧ state.output ≠ .outer := by
  intro state
  have hopen : openings silentAgain = some [⟨.silent, []⟩] := by decide
  obtain ⟨hout, herr, -, hback⟩ := silence_scoped none hopen
  have hlogged := (hout (.log "a".toList "x".toList .out) _ rfl).1
  have hprinted := (herr (.print "x".toList .err) _ rfl).2
  exact ⟨hopen, hlogged, hprinted, fun houter => absurd (hback.mpr houter) (by decide)⟩

end SyntaxReport.Console
