import SyntaxReport.Console.State

/-!
# Histories of the console

A history lists the steps that have been carried out, the latest first. It tells which contexts are
open, and where each was entered. Every context puts back what it found there, so the contexts that
are open tell what the console holds for them, and where its output stream leads.

Results:
* `State.run_concat`: what a run answers, step by step, is told by the states behind histories.
* `openings_eq_some_iff`: the histories in which no context is left where none is open.
* `State.contexts_after`: every open context holds what was there when it was entered.
* `State.output_after`: where the output stream leads.
* `State.leave_after`: behind a context the others are as they were where it was entered.
-/

namespace SyntaxReport.Console

/-- The steps that have been carried out, the latest first. -/
abbrev History := List Step

/-- The state behind some steps. -/
def State.after (state : State) : History → State
  | [] => state
  | step :: past => ((state.after past).step step).1

theorem State.after_append (state : State) (recent past : History) :
    state.after (recent ++ past) = (state.after past).after recent := by
  induction recent with
  | nil => rfl
  | cons step recent ih => rw [List.cons_append, after, ih, after]

theorem State.run_append (state : State) (steps more : List Step) :
    state.run (steps ++ more) = state.run steps ++ (state.after steps.reverse).run more := by
  induction steps generalizing state with
  | nil => rfl
  | cons step steps ih => simp [run, ih, after_append, after]

/-- The last thing in a run is what its last step does in the state behind the others. -/
theorem State.run_concat (state : State) (past : History) (step : Step) :
    state.run (step :: past).reverse =
      state.run past.reverse ++ [((state.after past).step step).swap] := by
  rw [List.reverse_cons, run_append, List.reverse_reverse]
  rfl

/-! ## What a history tells -/

/-- That a context of some kind was entered, and the steps before that. -/
structure Opening where
  kind : ContextKind
  before : History
  deriving DecidableEq, Repr

/-- The contexts that are open, the innermost first; none at all if a context has been left where
none was open. -/
def openings : History → Option (List Opening)
  | [] => some []
  | step :: past =>
    match step with
    | .enter kind => (openings past).map (⟨kind, past⟩ :: ·)
    | .leave _ => (openings past).bind List.tail?
    | _ => openings past

/-- The step neither enters nor leaves a context. -/
def Step.Stays : Step → Prop
  | .enter _ | .leave _ => False
  | _ => True

/-- A history in which contexts are left innermost first, with those that are open. -/
inductive Nested : History → List Opening → Prop
  | start : Nested [] []
  | enter {past : History} {opened : List Opening} (kind : ContextKind) :
    Nested past opened → Nested (.enter kind :: past) (⟨kind, past⟩ :: opened)
  /-- A context is left; where it was entered, those around it were open. -/
  | leave {past : History} {opening : Opening} {opened : List Opening} (raising : Bool) :
    Nested past (opening :: opened) → Nested opening.before opened →
      Nested (.leave raising :: past) opened
  | stay {past : History} {opened : List Opening} {step : Step} :
    step.Stays → Nested past opened → Nested (step :: past) opened

variable {past : History} {opening : Opening} {opened : List Opening} {step : Step}

theorem openings_of_stays (h : step.Stays) (past : History) :
    openings (step :: past) = openings past := by
  cases step with
  | enter | leave => cases h
  | setNoColor | paint | print | createLogger | log => rfl

theorem Nested.openings_eq (h : Nested past opened) : openings past = some opened := by
  induction h with
  | start => rfl
  | enter kind _ ih => simp [openings, ih]
  | leave raising _ _ ih _ => simp [openings, ih]
  | stay hstays _ ih => rw [openings_of_stays hstays, ih]

/-- Where an open context was entered, those around it were open. This is shown of all open contexts
at once, for when the innermost one is left the next one takes its place. -/
theorem nested_of_openings (h : openings past = some opened) :
    Nested past opened ∧
      ∀ {opening : Opening} {outer}, opening :: outer <:+ opened → Nested opening.before outer := by
  induction past generalizing opened with
  | nil =>
    obtain rfl := Option.some.inj h
    exact ⟨.start, fun houter => absurd (List.suffix_nil.mp houter) (List.cons_ne_nil _ _)⟩
  | cons step past ih =>
    cases step with
    | enter kind =>
      obtain ⟨opened, hpast, rfl⟩ := Option.map_eq_some_iff.mp h
      obtain ⟨hnested, hbefore⟩ := ih hpast
      refine ⟨.enter kind hnested, fun houter => ?_⟩
      rcases List.suffix_cons_iff.mp houter with heq | houter
      · obtain ⟨rfl, rfl⟩ := List.cons.inj heq
        exact hnested
      · exact hbefore houter
    | leave raising =>
      obtain ⟨all, hpast, htail⟩ := Option.bind_eq_some_iff.mp h
      cases all with
      | nil => cases htail
      | cons opening outer =>
        obtain rfl := Option.some.inj htail
        obtain ⟨hnested, hbefore⟩ := ih hpast
        refine ⟨.leave raising hnested (hbefore List.suffix_rfl), fun houter => ?_⟩
        exact hbefore (List.suffix_cons_iff.mpr (.inr houter))
    | setNoColor | paint | print | createLogger | log =>
      exact (ih h).imp_left (.stay trivial)

theorem openings_eq_some_iff : openings past = some opened ↔ Nested past opened :=
  ⟨fun h => (nested_of_openings h).1, Nested.openings_eq⟩

/-- Around the innermost context that is open are those that were open where it was entered. -/
theorem Nested.outer (h : Nested past (opening :: opened)) : Nested opening.before opened :=
  (nested_of_openings h.openings_eq).2 List.suffix_rfl

/-- An open context was entered behind the steps that its opening tells. -/
theorem Nested.suffix (h : Nested past opened) (hmem : opening ∈ opened) :
    .enter opening.kind :: opening.before <:+ past := by
  induction h with
  | start => cases hmem
  | enter kind _ ih =>
    rcases List.mem_cons.mp hmem with rfl | hmem
    · exact List.suffix_rfl
    · exact (ih hmem).trans (List.suffix_cons ..)
  | leave raising _ _ ih _ => exact (ih (List.mem_cons_of_mem _ hmem)).trans (List.suffix_cons ..)
  | stay _ _ ih => exact (ih hmem).trans (List.suffix_cons ..)

/-! ## What the console holds -/

namespace State

variable (state : State)

/-- What a context remembers that is entered. -/
def remembered : ContextKind → Context
  | .silent => .silent state.output
  | .noColor => .noColor state.noColor

theorem contexts_enter (kind : ContextKind) :
    (state.enter kind).contexts = state.remembered kind :: state.contexts := by
  cases kind <;> rfl

theorem contexts_leave : state.leave.1.contexts = state.contexts.tail := by
  unfold leave
  split <;> simp [*]

/-- A log line changes nothing but a logger. -/
theorem log_fst (name text : Text) (stream : Stream) :
    ∃ loggers, (state.log name text stream).1 = { state with loggers } := by
  unfold log
  split
  · exact ⟨_, rfl⟩
  · exact ⟨_, rfl⟩

/-- A step that stays in its context changes nothing but NO_COLOR and the loggers. -/
theorem step_of_stays (h : step.Stays) :
    ∃ noColor loggers, (state.step step).1 = { state with noColor, loggers } := by
  cases step with
  | enter | leave => cases h
  | log name text stream => exact ⟨_, state.log_fst name text stream⟩
  | setNoColor | paint | print | createLogger => exact ⟨_, _, rfl⟩

/-- Every open context holds what was there when it was entered. -/
theorem contexts_after (h : Nested past opened) :
    (state.after past).contexts =
      opened.map (fun opening => (state.after opening.before).remembered opening.kind) ++
        state.contexts := by
  induction h with
  | start => rfl
  | enter kind _ ih => simp [after, step, contexts_enter, ih]
  | leave raising _ _ ih _ => simp [after, step, contexts_leave, ih]
  | @stay past _ step hstays _ ih =>
    obtain ⟨noColor, loggers, hstep⟩ := (state.after past).step_of_stays hstays
    rw [after, hstep, ih]

theorem leave_of_silent {saved : Sink} {outer : List Context}
    (h : state.contexts = .silent saved :: outer) :
    state.leave = ({ state with output := saved, contexts := outer }, .ok ()) := by
  simp only [leave, h]

theorem leave_of_noColor {saved : Option Text} {outer : List Context}
    (h : state.contexts = .noColor saved :: outer) :
    state.leave = ({ state with noColor := saved, contexts := outer },
      if saved = none ∧ state.noColor = none then .error (.missingVariable noColorVariable)
      else .ok ()) := by
  cases saved <;> simp [leave, h]

/-- The output stream leads nowhere if a silent context is open, and else where it led at first. -/
theorem output_after (h : Nested past opened) :
    (state.after past).output =
      if .silent ∈ opened.map Opening.kind then .discard else state.output := by
  induction h with
  | start => rfl
  | enter kind _ ih => cases kind <;> simp [after, step, enter, ih]
  | @leave past opening opened raising hpast _ ih ihBefore =>
    have hcontexts := state.contexts_after hpast
    obtain ⟨kind, before⟩ := opening
    cases kind with
    | silent => simp only [after, step, leave_of_silent _ hcontexts, ihBefore]
    | noColor => simpa [after, step, leave_of_noColor _ hcontexts] using ih
  | @stay past _ step hstays _ ih =>
    obtain ⟨noColor, loggers, hstep⟩ := (state.after past).step_of_stays hstays
    rw [after, hstep, ih]

/-- Behind a context the others that are open, and the output stream, are what they were where it
was entered. -/
theorem leave_after (h : Nested past (opening :: opened)) :
    let left := (state.after past).leave.1
    let found := state.after opening.before
    left.contexts = found.contexts ∧ left.output = found.output := by
  have hleft : Nested (.leave false :: past) opened := .leave false h h.outer
  exact ⟨(state.contexts_after hleft).trans (state.contexts_after h.outer).symm,
    (state.output_after hleft).trans (state.output_after h.outer).symm⟩

end State

end SyntaxReport.Console
