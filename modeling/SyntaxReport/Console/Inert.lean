import SyntaxReport.Text.Visible

/-!
# Texts without control sequences

Control sequences start with an escape character and an opening bracket, commands to a terminal with
an escape character and a closing one. A text is inert if neither starts in it, whatever it is put
in front of: behind each escape character stands another character, and that is no bracket.

Results:
* `escapesAllow_of_not_mem`: a text without escape characters is inert.
* `EscapesAllow.append`: so is one of inert parts.
-/

namespace SyntaxReport.Console

/-- The character that starts a control sequence. -/
def escape : Char := '\x1b'

/-- Behind each escape character of the text stands another one, which is allowed there. -/
def EscapesAllow (allowed : Char → Prop) : Text → Prop
  | [] => True
  | c :: rest => (c = escape → ∃ d ∈ rest.head?, allowed d) ∧ EscapesAllow allowed rest

/-- A text in which no control sequence or command starts, and at the end of which none can go on.
-/
abbrev Inert : Text → Prop := EscapesAllow fun d => d ≠ '[' ∧ d ≠ ']'

variable {allowed other : Char → Prop} {s t : Text}

theorem escapesAllow_of_not_mem (h : escape ∉ t) : EscapesAllow allowed t := by
  induction t with
  | nil => trivial
  | cons c t ih =>
    rw [List.mem_cons, not_or] at h
    exact ⟨fun hc => absurd hc.symm h.1, ih h.2⟩

theorem escapesAllow_of_visible (h : t.Visible) : EscapesAllow allowed t :=
  escapesAllow_of_not_mem (h.not_mem (by decide))

namespace EscapesAllow

theorem append (hs : EscapesAllow allowed s) (ht : EscapesAllow allowed t) :
    EscapesAllow allowed (s ++ t) := by
  induction s with
  | nil => exact ht
  | cons c s ih =>
    refine ⟨fun hc => ?_, ih hs.2⟩
    obtain ⟨d, hd, hallowed⟩ := hs.1 hc
    refine ⟨d, ?_, hallowed⟩
    show (s ++ t).head? = some d
    rw [List.head?_append, Option.mem_def.mp hd]
    rfl

theorem mono (h : EscapesAllow allowed t) (hother : ∀ d, allowed d → other d) :
    EscapesAllow other t := by
  induction t with
  | nil => trivial
  | cons c t ih =>
    refine ⟨fun hc => ?_, ih h.2⟩
    obtain ⟨d, hd, hallowed⟩ := h.1 hc
    exact ⟨d, hd, hother d hallowed⟩

end EscapesAllow

end SyntaxReport.Console
