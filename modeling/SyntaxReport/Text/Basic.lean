/-!
# Texts and bytes

A text is a list of Unicode characters and a byte string a list of bytes, both plain lists, so
that every operation on them is a recursion on the data.

* `Text.copies` repeats a text, `Text.pieces` cuts one at every occurrence of a character.
* `Text.fixedDigits` writes a number with a fixed count of digits, `Text.decimal` and
  `Text.decimalInt` with as many as it needs.

Results:
* `joinWith_pieces`: joining undoes cutting, and `not_mem_of_mem_pieces`: cutting is complete.
* `length_fixedDigits`: the count of digits is as asked for.
-/

namespace SyntaxReport

/-- A text is a finite sequence of Unicode characters. -/
abbrev Text := List Char

/-- A byte string, in the order in which it is stored. -/
abbrev Bytes := List UInt8

namespace Text

/-- The text `t` repeated `n` times. -/
def copies (n : Nat) (t : Text) : Text :=
  (List.replicate n t).flatten

/-- `n` plain spaces. -/
def spaces (n : Nat) : Text :=
  List.replicate n ' '

/-- The pieces of a text between the occurrences of `separator`; a text without it is one piece. -/
def pieces (separator : Char) : Text → List Text
  | [] => [[]]
  | c :: rest =>
    if c = separator then [] :: pieces separator rest
    else
      match pieces separator rest with
      | [] => [[c]]
      | piece :: more => (c :: piece) :: more

/-- The pieces joined with `separator` between neighbours. -/
def joinWith (separator : Text) : List Text → Text
  | [] => []
  | [piece] => piece
  | piece :: more => piece ++ separator ++ joinWith separator more

/-- Every text has a piece. -/
theorem pieces_ne_nil (separator : Char) (t : Text) : pieces separator t ≠ [] := by
  cases t with
  | nil => simp [pieces]
  | cons c rest =>
    simp only [pieces]
    split
    · simp
    · split <;> simp

/-- The separator is in none of the pieces. -/
theorem not_mem_of_mem_pieces {separator : Char} {t piece : Text}
    (h : piece ∈ pieces separator t) : separator ∉ piece := by
  induction t generalizing piece with
  | nil => simp_all [pieces]
  | cons c rest ih =>
    simp only [pieces] at h
    split at h
    · rcases List.mem_cons.mp h with rfl | h
      · simp
      · exact ih h
    · rename_i hc
      cases hp : pieces separator rest with
      | nil => exact absurd hp (pieces_ne_nil separator rest)
      | cons first more =>
        simp only [hp, List.mem_cons] at h ih
        rcases h with rfl | h
        · simp [Ne.symm hc, ih (Or.inl rfl)]
        · exact ih (Or.inr h)

/-- Joined with the separator, the pieces are the text again. -/
theorem joinWith_pieces (separator : Char) (t : Text) :
    joinWith [separator] (pieces separator t) = t := by
  induction t with
  | nil => rfl
  | cons c rest ih =>
    cases hp : pieces separator rest with
    | nil => exact absurd hp (pieces_ne_nil separator rest)
    | cons first more =>
      rw [hp] at ih
      by_cases hc : c = separator
      · simp [pieces, hc, hp, joinWith, ih]
      · cases more with
        | nil => simp_all [pieces, joinWith]
        | cons second others => simp_all [pieces, joinWith]

/-- The last `width` digits of `n` in the given base, leading zeros included. -/
def fixedDigits (base : Nat) : Nat → Nat → Text
  | 0, _ => []
  | width + 1, n => fixedDigits base width (n / base) ++ [Nat.digitChar (n % base)]

/-- A number with a fixed count of digits has that many. -/
theorem length_fixedDigits (base width n : Nat) : (fixedDigits base width n).length = width := by
  induction width generalizing n with
  | zero => rfl
  | succ width ih => simp [fixedDigits, ih]

/-- The decimal digits of `n`, without leading zeros. -/
def decimal (n : Nat) : Text :=
  Nat.toDigits 10 n

/-- The decimal digits of `i`, after a minus sign if it is negative. -/
def decimalInt (i : Int) : Text :=
  if i < 0 then '-' :: decimal i.natAbs else decimal i.natAbs

/-- The two hexadecimal digits of a byte, as they stand in messages. -/
def hexByte (b : UInt8) : Text :=
  fixedDigits 16 2 b.toNat

end Text

end SyntaxReport
