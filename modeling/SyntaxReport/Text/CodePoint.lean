import SyntaxReport.Text.Basic

/-!
# Code points

A code point is a character or a surrogate. A surrogate is half of a character in UTF-16 and none by
itself: no text has surrogates, and the encodings of Unicode cannot write them. But strings of code
points may have them, if they come from somewhere else.

* `CodePoint.ofNat?` is the code point of a number.
* `Text.points` is a text as a string of code points; `Points.text?` is the text that a string is.

Results:
* `Points.text?_points`, `Points.characters_points`: a text is found again.
* `Points.text?_eq_some_iff`: a string is a text in one way only.
-/

namespace SyntaxReport

/-- A character, or one of the surrogates, which are numbered from 0. -/
inductive CodePoint where
  | char (c : Char)
  | surrogate (number : Fin 0x800)
  deriving DecidableEq, Repr

/-- A string of code points. -/
abbrev Points := List CodePoint

namespace CodePoint

/-- The first surrogate. -/
def firstSurrogate : Nat := 0xD800

/-- The number of a code point. -/
def toNat : CodePoint → Nat
  | char c => c.toNat
  | surrogate number => firstSurrogate + number

/-- The code point of a number, unless that is too large. -/
def ofNat? (n : Nat) : Option CodePoint :=
  if h : firstSurrogate ≤ n ∧ n < firstSurrogate + 0x800 then
    some (.surrogate ⟨n - firstSurrogate, by omega⟩)
  else if n < 0x110000 then some (.char (Char.ofNat n))
  else none

/-- The character that a code point is, if it is one. -/
def char? : CodePoint → Option Char
  | char c => some c
  | surrogate _ => none

end CodePoint

/-- A text as a string of code points. -/
def Text.points (t : Text) : Points :=
  t.map .char

namespace Points

/-- The text that a string is, if it has no surrogates. -/
def text? : Points → Option Text
  | [] => some []
  | .char c :: rest => (text? rest).map (c :: ·)
  | .surrogate _ :: _ => none

@[simp] theorem text?_points (t : Text) : text? t.points = some t := by
  induction t with
  | nil => rfl
  | cons c rest ih => exact congrArg (Option.map (c :: ·)) ih

/-- The characters of a string, without the surrogates. -/
def characters (points : Points) : Text :=
  points.filterMap CodePoint.char?

@[simp] theorem characters_points (t : Text) : characters t.points = t := by
  induction t with
  | nil => rfl
  | cons c rest ih => exact congrArg (c :: ·) ih

/-- A string is a text in one way only. -/
theorem text?_eq_some_iff {points : Points} {t : Text} :
    points.text? = some t ↔ points = t.points := by
  constructor
  · intro h
    induction points generalizing t with
    | nil =>
      obtain rfl := Option.some.inj h
      rfl
    | cons point rest ih =>
      cases point with
      | surrogate number => cases h
      | char c =>
        obtain ⟨u, hu, rfl⟩ := Option.map_eq_some_iff.mp h
        rw [ih hu]
        rfl
  · rintro rfl
    exact text?_points t

/-- The points of a text are its characters. -/
theorem points_inj {s t : Text} : s.points = t.points ↔ s = t := by
  rw [← text?_eq_some_iff, text?_points, Option.some_inj]

end Points

end SyntaxReport
