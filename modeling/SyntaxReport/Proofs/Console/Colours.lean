import SyntaxReport.Console.Log
import SyntaxReport.Proofs.Console.Strip
import SyntaxReport.Proofs.Text.Visible

/-!
# Colours can be taken out again

Reading a text without its colours means to skip what stands from an escape character with an
opening bracket behind it to the next letter m. An inert text is not changed by that, and painting
puts only such sequences around it.

Results:
* `Shows.append`: a text is read piece by piece.
* `shows_paint`, `shows_logLine`: without colours, a painted text is the text.
* `stripSequences_logLine`: on a stream that is no terminal, log lines lose their colours.
-/

namespace SyntaxReport.Console

open Text (Visible)

/-- The rest of a text without colours; `inside` tells that a colour sequence has started. -/
def dropColours (inside : Bool) : Text → Text
  | [] => []
  | c :: rest =>
    if inside then dropColours (c != 'm') rest
    else if c = escape ∧ rest.head? = some '[' then dropColours true rest
    else c :: dropColours false rest

/-- The text without colours. A colour sequence is what stands from an escape character with an
opening bracket behind it to the next letter m. -/
def withoutColours (t : Text) : Text := dropColours false t

variable {c : Char} {s t coloured plain : Text}

/-! ## Reading without colours -/

/-- Without colours the first text is the second, whatever follows. -/
def Shows (coloured plain : Text) : Prop :=
  ∀ rest, withoutColours (coloured ++ rest) = plain ++ withoutColours rest

theorem Shows.eq (h : Shows coloured plain) : withoutColours coloured = plain := by
  have hall := h []
  rwa [List.append_nil, withoutColours, withoutColours, dropColours, List.append_nil] at hall

theorem Shows.append {coloured' plain' : Text} (h : Shows coloured plain)
    (h' : Shows coloured' plain') : Shows (coloured ++ coloured') (plain ++ plain') := by
  intro rest
  rw [List.append_assoc, h, h', List.append_assoc]

/-- An inert text has no colours. -/
theorem shows_self (h : Inert t) : Shows t t := by
  intro rest
  induction t with
  | nil => rfl
  | cons c t ih =>
    have hplain : ¬(c = escape ∧ (t ++ rest).head? = some '[') := by
      rintro ⟨hescape, hopens⟩
      obtain ⟨d, hd, hne, -⟩ := h.1 hescape
      rw [List.head?_append, Option.mem_def.mp hd, Option.some_or, Option.some_inj] at hopens
      exact hne hopens
    have hstep : withoutColours (c :: (t ++ rest)) = c :: withoutColours (t ++ rest) := by
      rw [withoutColours, dropColours, if_neg Bool.false_ne_true, if_neg hplain, withoutColours]
    rw [List.cons_append, hstep, ih h.2, List.cons_append]

/-- What is skipped ends with the first letter m. -/
theorem dropColours_inside {parameter : Text} (h : 'm' ∉ parameter) (rest : Text) :
    dropColours true (parameter ++ 'm' :: rest) = withoutColours rest := by
  induction parameter with
  | nil => rfl
  | cons c parameter ih =>
    rw [List.mem_cons, not_or] at h
    have hc : (c != 'm') = true := bne_iff_ne.mpr (Ne.symm h.1)
    rw [List.cons_append, dropColours, if_pos rfl, hc, ih h.2]

theorem shows_sequence {parameter : Text} (h : 'm' ∉ parameter) :
    Shows (sequence parameter) [] := by
  intro rest
  have hbracket : 'm' ∉ '[' :: parameter := by
    rw [List.mem_cons, not_or]
    exact ⟨by decide, h⟩
  have hinside := dropColours_inside hbracket rest
  rw [List.nil_append, sequence, withoutColours, ← hinside]
  simp only [List.cons_append, List.append_assoc, List.nil_append, dropColours,
    Bool.false_eq_true, List.head?_cons, and_self, if_false, if_true]

/-! ## What is painted -/

/-- Without colours, a painted text is the text. -/
theorem shows_paint (noColor : Option Text) (tint : Tint) (h : Inert t) :
    Shows (tint.paint noColor t) t := by
  cases noColor with
  | some value => exact shows_self h
  | none =>
    have hcolour : 'm' ∉ tint.parameter := by cases tint <;> decide
    have hbefore : Shows (sequence ['1'] ++ sequence tint.parameter) [] :=
      (shows_sequence (by decide)).append (shows_sequence hcolour)
    have hafter : Shows (t ++ sequence ['0']) (t ++ []) :=
      (shows_self h).append (shows_sequence (by decide))
    rw [List.append_nil] at hafter
    have hall := hbefore.append hafter
    rwa [← List.append_assoc] at hall

/-- A text in which no control sequence begins, and which does not begin with the character that may
stand behind one. -/
structure Tame (t : Text) : Prop where
  inert : Inert t
  head?_ne : t.head? ≠ some '\x02'

theorem tame_of_visible (h : t.Visible) : Tame t :=
  ⟨escapesAllow_of_visible h, fun hhead => h.not_mem (by decide) (List.mem_of_mem_head? hhead)⟩

/-- Behind some words, only the start of a control sequence could do harm. -/
theorem tame_append (h : s.Visible) (hne : s ≠ []) (ht : Inert t) : Tame (s ++ t) := by
  refine ⟨(escapesAllow_of_visible h).append ht, ?_⟩
  cases s with
  | nil => exact absurd rfl hne
  | cons c s => exact (tame_of_visible h).head?_ne

theorem sealed_of_visible (h : t.Visible) : Sealed t :=
  ⟨escapesAllow_of_visible h, fun hlast => h.not_mem (by decide) (List.mem_of_getLast? hlast)⟩

/-! ## Log lines -/

theorem visible_number (number : Nat) : Visible (Text.decimal number ++ ['.', ' ']) := by
  rw [Text.visible_append]
  exact ⟨Text.visible_decimal number, by decide⟩

/-- Without colours, a log line is what it is where NO_COLOR is set. -/
theorem shows_logLine (noColor : Option Text) (value : Text) (number : Nat) {entry : Text}
    (h : Inert entry) :
    Shows (logLine noColor number entry) (logLine (some value) number entry) :=
  (shows_paint noColor .green (tame_of_visible (visible_number number)).inert).append
    (shows_self h)

/-- Stripping a log line takes only its colours. -/
theorem stripSequences_logLine (noColor : Option Text) (value : Text) (number : Nat) {entry : Text}
    (h : Tame entry) :
    stripSequences (logLine noColor number entry) = logLine (some value) number entry := by
  have hnumber := visible_number number
  rw [logLine, stripSequences_paint_append noColor .green (sealed_of_visible hnumber)
    (tame_of_visible hnumber).head?_ne h.head?_ne, stripSequences_eq_self h.inert]
  rfl

end SyntaxReport.Console
