import SyntaxReport.Console.Log
import SyntaxReport.Console.Title
import SyntaxReport.Proofs.Text.Visible

/-!
# Texts without commands

A text in which no command to a terminal starts is not refused, and nothing but control sequences is
taken out of it. Painting a text, or logging it, adds no command.

Results:
* `commands_eq_nil`: a text has no commands if behind no escape character stands a closing bracket.
* `asksForTitle_eq_false`, `converted_eq`: what a stream makes of such a text.
* `Untitled.paint`, `Untitled.logLine`: the texts that are printed are such texts, if their parts
  are.
-/

namespace SyntaxReport.Console

open Text (Visible)

/-- A text in which no command to a terminal starts, and at the end of which none can go on. -/
abbrev Untitled : Text → Prop := EscapesAllow (· ≠ ']')

variable {s t : Text}

theorem Inert.untitled (h : Inert t) : Untitled t :=
  h.mono fun _ hd => hd.2

/-- Where no command starts, none is read. -/
theorem commandsFrom_eq_nil (h : Untitled t) (position : Nat) (marked : Bool) :
    commandsFrom position (.outside marked) t = [] := by
  induction t generalizing position marked with
  | nil => rfl
  | cons c t ih =>
    have hplain : ¬(c = escape ∧ t.head? = some ']') := by
      rintro ⟨hescape, hopens⟩
      obtain ⟨d, hd, hne⟩ := h.1 hescape
      exact hne (Option.some.inj ((Option.mem_def.mp hd).symm.trans hopens))
    rw [commandsFrom, if_neg hplain, ih h.2]

theorem commands_eq_nil (h : Untitled t) : commands t = [] :=
  commandsFrom_eq_nil h 0 false

/-- A text without commands is not refused. -/
theorem asksForTitle_eq_false (h : Untitled t) : asksForTitle t = false := by
  rw [asksForTitle, commands_eq_nil h, List.any_nil]

/-- Of a text without commands, only the control sequences are taken out. -/
theorem converted_eq (h : Untitled t) : converted t = stripSequences t := by
  rw [converted, dropCommands, commands_eq_nil h, List.foldl_nil]

/-! ## What is printed -/

theorem untitled_sequence {parameter : Text} (h : escape ∉ parameter) :
    Untitled (sequence parameter) := by
  have hrest : escape ∉ '[' :: parameter ++ ['m'] := by
    simp only [List.cons_append, List.mem_cons, List.mem_append, List.not_mem_nil, or_false, not_or]
    exact ⟨by decide, h, by decide⟩
  exact ⟨fun _ => ⟨'[', rfl, by decide⟩, escapesAllow_of_not_mem hrest⟩

/-- Painting adds no command. -/
theorem Untitled.paint (noColor : Option Text) (tint : Tint) (h : Untitled t) :
    Untitled (tint.paint noColor t) := by
  cases noColor with
  | some value => exact h
  | none =>
    have hcolour : escape ∉ tint.parameter := by cases tint <;> decide
    exact (((untitled_sequence (by decide)).append (untitled_sequence hcolour)).append h).append
      (untitled_sequence (by decide))

/-- Numbering adds no command. -/
theorem Untitled.logLine (noColor : Option Text) (number : Nat) (h : Untitled t) :
    Untitled (logLine noColor number t) := by
  have hnumber : Visible (Text.decimal number ++ ['.', ' ']) :=
    Text.visible_append.mpr ⟨Text.visible_decimal number, by decide⟩
  exact (Untitled.paint noColor .green (escapesAllow_of_visible hnumber)).append h

theorem Untitled.logLinesFrom (noColor : Option Text) {entries : List Text}
    (h : ∀ entry ∈ entries, Untitled entry) (number : Nat) :
    ∀ line ∈ logLinesFrom noColor number entries, Untitled line := by
  induction entries generalizing number with
  | nil => exact List.forall_mem_nil _
  | cons entry more ih =>
    obtain ⟨hentry, hmore⟩ := List.forall_mem_cons.mp h
    exact List.forall_mem_cons.mpr ⟨Untitled.logLine noColor number hentry, ih hmore (number + 1)⟩

end SyntaxReport.Console
