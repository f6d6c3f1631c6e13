import SyntaxReport.Proofs.Console.History

/-!
# Contexts without colours

A context without colours gives NO_COLOR a value, and takes it back when it is left: whatever has
been done to NO_COLOR in the meantime, it has then the value that it had before the context was
entered, or none if it had none. What may fail is taking the value away where it is gone already;
but nothing is left behind by that.

Results:
* `State.noColor_leave_after`: NO_COLOR behind a context without colours, and when leaving it fails.
* `State.noColor_within`: NO_COLOR within a context without colours, as long as no step sets it.
* `noColor_scoped`: both together, for a console that started with any value of NO_COLOR.
-/

namespace SyntaxReport.Console

variable {past before : History} {opened : List Opening} {step : Step}

/-- No step gives NO_COLOR another value than the one that it has in a context without colours. -/
def Keeps (steps : History) : Prop :=
  ∀ value, .setNoColor value ∈ steps → value = some noColorValue

theorem Keeps.mono {steps more : History} (h : Keeps more) (hsubset : steps ⊆ more) : Keeps steps :=
  fun value hmem => h value (hsubset hmem)

namespace State

variable (state : State)

/-- Behind a context without colours NO_COLOR is what it was before. Leaving it fails if NO_COLOR
was not set then, and is not set any more. -/
theorem noColor_leave_after (h : Nested past (⟨.noColor, before⟩ :: opened)) :
    let found := state.after before
    let inside := state.after past
    inside.leave.1.noColor = found.noColor ∧
      inside.leave.2 =
        if found.noColor = none ∧ inside.noColor = none then
          .error (.missingVariable noColorVariable)
        else .ok () := by
  intro found inside
  rw [leave_of_noColor inside (state.contexts_after h)]
  exact ⟨rfl, rfl⟩

/-- A step that stays in its context keeps the value of NO_COLOR unless it sets another one. -/
theorem noColor_of_stays (hstays : step.Stays) (hkeeps : Keeps [step])
    (h : state.noColor = some noColorValue) : (state.step step).1.noColor = some noColorValue := by
  cases step with
  | enter | leave => cases hstays
  | setNoColor value => exact hkeeps value List.mem_cons_self
  | log name text stream =>
    obtain ⟨loggers, hlog⟩ := state.log_fst name text stream
    rw [State.step, hlog]
    exact h
  | paint | print | createLogger => exact h

theorem noColor_enter (kind : ContextKind) (h : state.noColor = some noColorValue) :
    (state.enter kind).noColor = some noColorValue := by
  cases kind with
  | silent => exact h
  | noColor => rfl

/-- A context without colours was entered behind the steps that its opening tells; and if none of
those within has set another value, NO_COLOR has the value that it got there. -/
theorem noColor_within (h : Nested past opened) (hmem : ⟨.noColor, before⟩ ∈ opened) :
    ∃ inside, past = inside ++ .enter .noColor :: before ∧
      (Keeps inside → (state.after past).noColor = some noColorValue) := by
  induction h with
  | start => cases hmem
  | @enter past _ kind _ ih =>
    rcases List.mem_cons.mp hmem with heq | hmem
    · obtain ⟨rfl, rfl⟩ := Opening.mk.inj heq
      exact ⟨[], rfl, fun _ => rfl⟩
    · obtain ⟨inside, rfl, hkept⟩ := ih hmem
      refine ⟨.enter kind :: inside, rfl, fun hkeeps => ?_⟩
      exact noColor_enter _ kind (hkept (hkeeps.mono (List.subset_cons_self ..)))
  | @leave past opening outer raising hpast _ ih ihBefore =>
    obtain ⟨inside, hinside, hkept⟩ := ih (List.mem_cons_of_mem _ hmem)
    obtain ⟨deeper, hdeeper, hkeptBefore⟩ := ihBefore hmem
    refine ⟨.leave raising :: inside, by rw [hinside, List.cons_append], fun hkeeps => ?_⟩
    have hkeepsInside : Keeps inside := hkeeps.mono (List.subset_cons_self ..)
    have hcontexts := state.contexts_after hpast
    obtain ⟨kind, entered⟩ := opening
    cases kind with
    | silent =>
      simp only [after, State.step, leave_of_silent _ hcontexts]
      exact hkept hkeepsInside
    | noColor =>
      -- The value that comes back is that from where the inner context was entered.
      obtain ⟨recent, hrecent⟩ := (List.suffix_cons ..).trans (hpast.suffix List.mem_cons_self)
      rw [hinside, show entered = deeper ++ _ from hdeeper, ← List.append_assoc] at hrecent
      have hsubset : deeper ⊆ inside :=
        List.append_cancel_right hrecent ▸ List.subset_append_right ..
      simp only [after, State.step, leave_of_noColor _ hcontexts]
      exact hkeptBefore (hkeepsInside.mono hsubset)
  | @stay past _ step hstays _ ih =>
    obtain ⟨inside, rfl, hkept⟩ := ih hmem
    refine ⟨step :: inside, rfl, fun hkeeps => ?_⟩
    have hstep : Keeps [step] := hkeeps.mono (by simp)
    exact noColor_of_stays _ hstays hstep (hkept (hkeeps.mono (List.subset_cons_self ..)))

end State

/-- On a console that started with any value of NO_COLOR, or none, and on which contexts have been
left innermost first:

* once the innermost context is left, and that is one without colours, NO_COLOR is what it was just
  before that context was entered, and so are the output stream and the contexts around it; leaving
  it fails if and only if NO_COLOR was not set then and is not set now;
* within any open context without colours NO_COLOR has the value that the context gave it, unless a
  step within has set another one. -/
theorem noColor_scoped (value : Option Text) (h : openings past = some opened) :
    let state := (State.initial value).after past
    (∀ before outer raising, opened = ⟨.noColor, before⟩ :: outer →
      let found := (State.initial value).after before
      let left := state.step (.leave raising)
      left.1.noColor = found.noColor ∧ left.1.output = found.output ∧
        left.1.contexts = found.contexts ∧
        left.2.result =
          if found.noColor = none ∧ state.noColor = none then
            .error (.missingVariable noColorVariable)
          else .ok none) ∧
    ∀ before, ⟨.noColor, before⟩ ∈ opened →
      ∃ inside, past = inside ++ .enter .noColor :: before ∧
        ((∀ given, .setNoColor given ∈ inside → given = some noColorValue) →
          state.noColor = some noColorValue) := by
  intro state
  have hnested := openings_eq_some_iff.mp h
  constructor
  · rintro before outer raising rfl found left
    obtain ⟨hnoColor, hresult⟩ := (State.initial value).noColor_leave_after hnested
    obtain ⟨hcontexts, houtput⟩ := (State.initial value).leave_after hnested
    refine ⟨hnoColor, houtput, hcontexts, ?_⟩
    have hanswer : left.2.result = state.leave.2.map fun _ => none := rfl
    rw [hanswer, hresult]
    split <;> rfl
  · intro before hmem
    exact (State.initial value).noColor_within hnested hmem

/-- NO_COLOR is taken away before a context without colours is entered, and again within it. Around
it there is a silent context, and another one without colours. -/
def takenAway : History :=
  [.setNoColor none, .enter .noColor, .setNoColor none, .enter .silent, .enter .noColor,
    .setNoColor (some [])]

/-- That context is left with a failure on its way out: it fails by itself, and the silent context
around it is as it was. -/
theorem noColor_scoped_takenAway :
    let state := (State.initial none).after takenAway
    let left := state.step (.leave true)
    openings takenAway = some [⟨.noColor, takenAway.drop 2⟩, ⟨.silent, takenAway.drop 4⟩,
        ⟨.noColor, takenAway.drop 5⟩] ∧
      left.1.noColor = none ∧ left.1.output = .discard ∧
      left.2.result = .error (.missingVariable noColorVariable) := by
  intro state left
  have hopen : openings takenAway = some [⟨.noColor, takenAway.drop 2⟩, ⟨.silent, takenAway.drop 4⟩,
      ⟨.noColor, takenAway.drop 5⟩] := by decide
  obtain ⟨hleave, -⟩ := noColor_scoped none hopen
  obtain ⟨hnoColor, houtput, -, hresult⟩ := hleave _ _ true rfl
  exact ⟨hopen, hnoColor, houtput, hresult⟩

end SyntaxReport.Console
