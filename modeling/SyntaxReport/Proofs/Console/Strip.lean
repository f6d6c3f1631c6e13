import SyntaxReport.Console.Paint

/-!
# Stripping undoes painting

`stripSequences` reads a text character by character and holds back what may be the beginning of a
control sequence. In an inert text no sequence can begin: an escape character is held back until the
character behind it, and the character 01 until the next one. A sequence of digits is held back
until its last letter, and then dropped.

Results:
* `Held.run`: reading an inert text loses nothing.
* `stripSequences_eq_self`: such a text stays as it is.
* `stripSequences_paint_append`, `stripSequences_paint`: it is what remains of it once it has been
  painted, if neither of its ends is taken for a part of the sequences around it.
* `stripSequences_paint_mark`: a character 01 at its end is.
-/

namespace SyntaxReport.Console

/-- A text in which no control sequence begins, nor the mark that may stand before one. -/
structure Unmarked (t : Text) : Prop where
  escape_not_mem : escape ∉ t
  mark_not_mem : '\x01' ∉ t

theorem Unmarked.append {s t : Text} (hs : Unmarked s) (ht : Unmarked t) : Unmarked (s ++ t) :=
  ⟨by simp [hs.escape_not_mem, ht.escape_not_mem], by simp [hs.mark_not_mem, ht.mark_not_mem]⟩

/-- A text in which no control sequence begins, and which does not end with the mark that may stand
before one. -/
structure Sealed (t : Text) : Prop where
  inert : Inert t
  getLast?_ne : t.getLast? ≠ some '\x01'

theorem Unmarked.sealed {t : Text} (h : Unmarked t) : Sealed t :=
  ⟨escapesAllow_of_not_mem h.escape_not_mem, fun hlast => h.mark_not_mem (List.mem_of_getLast? hlast)⟩

/-! ## What is held back -/

/-- What can be held back where no sequence is open and the text goes on in the given way. -/
inductive Held : Stage → Text → Text → Prop
  | nothing {t : Text} : Held .outside [] t
  | mark {t : Text} : Held .marked ['\x01'] t
  /-- An escape character has been read, and what is behind it does not open a sequence. -/
  | started {held t : Text} {c : Char} : c ≠ '[' → Held .started held (c :: t)

variable {c : Char} {t rest : Text}

/-- A character of an inert text is given out with what has been held back, or held back itself. -/
theorem Held.step {stage : Stage} {held : Text} (h : Held stage held (c :: t))
    (hinert : Inert (c :: t)) :
    ∃ out next kept, Held next kept t ∧ out ++ kept = held ++ [c] ∧
      ∀ rest, stripFrom stage held (c :: rest) = out ++ stripFrom next kept rest := by
  by_cases hescape : c = escape
  · obtain ⟨d, hd, hopens, -⟩ := hinert.1 hescape
    obtain ⟨more, rfl⟩ := List.head?_eq_some_iff.mp hd
    have hmark : c ≠ '\x01' := hescape ▸ by decide
    -- a mark stays with the escape character behind it, and an escape character goes out
    cases h with
    | nothing =>
      exact ⟨[], .started, [c], .started hopens, rfl, fun rest => by
        simp [stripFrom, hescape, escape]⟩
    | mark =>
      exact ⟨[], .started, ['\x01', c], .started hopens, rfl, fun rest => by
        simp [stripFrom, hescape]⟩
    | started _ =>
      exact ⟨held, .started, [c], .started hopens, rfl, fun rest => by
        simp [stripFrom, hescape, escape]⟩
  by_cases hmark : c = '\x01'
  · refine ⟨held, .marked, [c], hmark ▸ .mark, rfl, fun rest => ?_⟩
    cases h <;> simp [stripFrom, hmark, escape]
  · refine ⟨held ++ [c], .outside, [], .nothing, List.append_nil _, fun rest => ?_⟩
    cases h with
    | nothing | mark => simp [stripFrom, hescape, hmark]
    | started hc => simp [stripFrom, hescape, hmark, hc]

/-- Reading an inert text gives out the text, except for what is held back. -/
theorem Held.run {stage : Stage} {held : Text} (h : Held stage held t) (hinert : Inert t) :
    ∃ out next kept, Held next kept [] ∧ out ++ kept = held ++ t ∧
      ∀ rest, stripFrom stage held (t ++ rest) = out ++ stripFrom next kept rest := by
  -- What is held back changes from character to character, but stays of the three kinds.
  induction t generalizing stage held with
  | nil => exact ⟨[], stage, held, h, (List.append_nil held).symm, fun rest => rfl⟩
  | cons c t ih =>
    obtain ⟨first, next, kept, hnext, hfirst, hstep⟩ := h.step hinert
    obtain ⟨more, last, left, hlast, hmore, hrun⟩ := ih hnext hinert.2
    refine ⟨first ++ more, last, left, hlast, ?_, fun rest => ?_⟩
    · rw [List.append_assoc, hmore, ← List.append_assoc, hfirst, List.append_assoc,
        List.singleton_append]
    · rw [List.cons_append, hstep, hrun, List.append_assoc]

/-- Of a sealed text nothing is held back. -/
theorem stripFrom_outside_append (h : Sealed t) (rest : Text) :
    stripFrom .outside [] (t ++ rest) = t ++ stripFrom .outside [] rest := by
  obtain ⟨out, next, kept, hkept, htext, hrun⟩ := Held.nothing.run h.inert
  rw [List.nil_append] at htext
  cases hkept with
  | nothing =>
    rw [List.append_nil] at htext
    rw [hrun, htext]
  | mark =>
    refine absurd ?_ h.getLast?_ne
    rw [← htext, List.getLast?_concat]

/-! ## Sequences -/

/-- Behind a sequence nothing else can be dropped than the character 02. -/
theorem stripFrom_ended (h : rest.head? ≠ some '\x02') :
    stripFrom .ended [] rest = stripFrom .outside [] rest := by
  cases rest with
  | nil => rfl
  | cons c rest =>
    have hc : c ≠ '\x02' := fun hc => h (congrArg some hc)
    simp [stripFrom, hc]

/-- An open sequence goes on as long as there are parameters, and ends with the letter behind. -/
theorem stripFrom_opened {parameter : Text} (h : ∀ c ∈ parameter, isParameter c)
    (held rest : Text) :
    stripFrom .opened held (parameter ++ 'm' :: rest) = stripFrom .ended [] rest := by
  induction parameter generalizing held with
  | nil =>
    have hletter : isParameter 'm' = false := by decide
    simp [stripFrom, hletter]
  | cons c parameter ih =>
    have hc : isParameter c := h c List.mem_cons_self
    simp only [List.cons_append, stripFrom, reduceCtorEq, false_and, true_and, if_false, hc,
      if_true]
    exact ih (fun c hmem => h c (List.mem_cons_of_mem _ hmem)) _

/-- A sequence is dropped, at first and behind another one. -/
theorem stripFrom_sequence {stage : Stage} (hstage : stage = .outside ∨ stage = .ended)
    {parameter : Text} (h : ∀ c ∈ parameter, isParameter c) (rest : Text) :
    stripFrom stage [] (sequence parameter ++ rest) = stripFrom .ended [] rest := by
  have hopened := stripFrom_opened h [escape, '['] rest
  rcases hstage with rfl | rfl <;> simpa [sequence, stripFrom, escape] using hopened

/-! ## Whole texts -/

/-- A text in which no sequence begins stays as it is. -/
theorem stripSequences_eq_self (h : Inert t) : stripSequences t = t := by
  obtain ⟨out, next, kept, hkept, htext, hrun⟩ := Held.nothing.run h
  have hall := hrun []
  rw [List.append_nil] at hall
  rw [stripSequences, hall, stripFrom, htext, List.nil_append]

theorem isParameter_of_mem_parameter {tint : Tint} (h : c ∈ tint.parameter) : isParameter c := by
  cases tint with
  | red | green =>
    simp only [Tint.parameter, List.mem_cons, List.not_mem_nil, or_false] at h
    rcases h with rfl | rfl <;> decide

/-- The two sequences in front of a painted text are dropped. -/
theorem stripSequences_front (tint : Tint) (hrest : rest.head? ≠ some '\x02') :
    stripSequences (sequence ['1'] ++ (sequence tint.parameter ++ rest)) = stripSequences rest := by
  have hbold : ∀ c ∈ ['1'], isParameter c := List.forall_mem_singleton.mpr (by decide)
  rw [stripSequences, stripFrom_sequence (.inl rfl) hbold,
    stripFrom_sequence (.inr rfl) fun c => isParameter_of_mem_parameter, stripFrom_ended hrest,
    stripSequences]

/-- Stripping a painted text gives back the text, and leaves what follows as it would be, unless one
of them begins with the character 02. -/
theorem stripSequences_paint_append (noColor : Option Text) (tint : Tint) (h : Sealed t)
    (hhead : t.head? ≠ some '\x02') (hrest : rest.head? ≠ some '\x02') :
    stripSequences (tint.paint noColor t ++ rest) = t ++ stripSequences rest := by
  cases noColor with
  | some value => exact stripFrom_outside_append h rest
  | none =>
    have hreset : ∀ c ∈ ['0'], isParameter c := List.forall_mem_singleton.mpr (by decide)
    have hbehind : (t ++ (sequence ['0'] ++ rest)).head? ≠ some '\x02' := by
      cases t with
      | nil =>
        show some escape ≠ some '\x02'
        decide
      | cons c t => exact hhead
    calc stripSequences (tint.paint none t ++ rest)
      _ = stripSequences (sequence ['1'] ++ (sequence tint.parameter ++
            (t ++ (sequence ['0'] ++ rest)))) := by
        simp only [Tint.paint, List.append_assoc]
      _ = t ++ stripFrom .ended [] rest := by
        rw [stripSequences_front tint hbehind, stripSequences, stripFrom_outside_append h,
          stripFrom_sequence (.inl rfl) hreset]
      _ = t ++ stripSequences rest := by rw [stripFrom_ended hrest, stripSequences]

/-- A mark at the end of a painted text goes with the sequence behind it. -/
theorem stripSequences_paint_mark (tint : Tint) (h : Sealed t) (hhead : t.head? ≠ some '\x02') :
    stripSequences (tint.paint none (t ++ ['\x01'])) = t := by
  have hbehind : (t ++ '\x01' :: sequence ['0']).head? ≠ some '\x02' := by
    cases t with
    | nil =>
      show some '\x01' ≠ some '\x02'
      decide
    | cons c t => exact hhead
  have hmark : stripFrom .outside [] ('\x01' :: sequence ['0']) = [] := rfl
  calc stripSequences (tint.paint none (t ++ ['\x01']))
    _ = stripSequences (sequence ['1'] ++ (sequence tint.parameter ++
          (t ++ '\x01' :: sequence ['0']))) := by
      simp only [Tint.paint, List.append_assoc, List.singleton_append]
    _ = t := by
      rw [stripSequences_front tint hbehind, stripSequences, stripFrom_outside_append h, hmark,
        List.append_nil]

/-- Stripping a painted text gives back the text. -/
theorem stripSequences_paint (noColor : Option Text) (tint : Tint) (h : Sealed t)
    (hhead : t.head? ≠ some '\x02') : stripSequences (tint.paint noColor t) = t := by
  have hnil : ([] : Text).head? ≠ some '\x02' := by decide
  have happend := stripSequences_paint_append noColor tint h hhead hnil
  rw [List.append_nil] at happend
  exact happend.trans (List.append_nil t)

end SyntaxReport.Console
