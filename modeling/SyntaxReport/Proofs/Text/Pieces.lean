import SyntaxReport.Text.Basic

/-!
# Pieces and what joins them

A text is cut at a separator, and pieces are joined with one. Joining undoes cutting for every text;
cutting undoes joining as long as the separator is in none of the pieces.

Results:
* `pieces_append`: the first separator ends the first piece.
* `pieces_append_cons`: a text can be cut at any one separator first.
* `append_cons_eq_iff`: what stands in front of the first separator can be told from what follows.
* `pieces_joinWith`: cutting undoes joining.
* `mem_joinWith`, `mem_of_mem_pieces`: no characters come in or are lost.
-/

namespace SyntaxReport.Text

variable {separator : Char} {t : Text}

/-- A text without the separator is one piece. -/
theorem pieces_of_not_mem (h : separator ∉ t) : pieces separator t = [t] := by
  induction t with
  | nil => rfl
  | cons c rest ih =>
    rw [List.mem_cons, not_or] at h
    rw [pieces, if_neg (Ne.symm h.1), ih h.2]

/-- The first separator ends the first piece. -/
theorem pieces_append (h : separator ∉ t) (rest : Text) :
    pieces separator (t ++ separator :: rest) = t :: pieces separator rest := by
  induction t with
  | nil => simp [pieces]
  | cons c t ih =>
    rw [List.mem_cons, not_or] at h
    rw [List.cons_append, pieces, if_neg (Ne.symm h.1), ih h.2]

/-- Texts are equal if they agree in front of the first separator and behind it. -/
theorem append_cons_eq_iff {s rest rest' : Text} (hs : separator ∉ s) (ht : separator ∉ t) :
    s ++ separator :: rest = t ++ separator :: rest' ↔ s = t ∧ rest = rest' := by
  constructor
  · intro h
    have hpieces := congrArg (pieces separator) h
    rw [pieces_append hs, pieces_append ht] at hpieces
    obtain rfl := (List.cons.inj hpieces).1
    exact ⟨rfl, (List.cons.inj (List.append_cancel_left h)).2⟩
  · rintro ⟨rfl, rfl⟩
    rfl

/-- Around a separator the two sides are cut on their own. -/
theorem pieces_append_cons (t rest : Text) :
    pieces separator (t ++ separator :: rest) = pieces separator t ++ pieces separator rest := by
  induction t with
  | nil => simp [pieces]
  | cons c t ih =>
    rw [List.cons_append, pieces, pieces, ih]
    by_cases hc : c = separator
    · rw [if_pos hc, if_pos hc]
      rfl
    · rw [if_neg hc, if_neg hc]
      obtain ⟨piece, more, hcut⟩ := List.exists_cons_of_ne_nil (pieces_ne_nil separator t)
      rw [hcut]
      rfl

/-- Cutting undoes joining, if the separator is in none of the pieces. -/
theorem pieces_joinWith {all : List Text} (hne : all ≠ []) (h : ∀ piece ∈ all, separator ∉ piece) :
    pieces separator (joinWith [separator] all) = all := by
  induction all with
  | nil => exact absurd rfl hne
  | cons piece more ih =>
    obtain ⟨hpiece, hmore⟩ := List.forall_mem_cons.mp h
    cases more with
    | nil => exact pieces_of_not_mem hpiece
    | cons next others =>
      show pieces separator (piece ++ [separator] ++ joinWith [separator] (next :: others)) = _
      rw [List.append_assoc, List.singleton_append, pieces_append hpiece,
        ih (by simp) hmore]

/-- What stands in front of the first piece stands in front of the whole. -/
theorem joinWith_append_cons (separator s first : Text) (more : List Text) :
    joinWith separator ((s ++ first) :: more) = s ++ joinWith separator (first :: more) := by
  cases more <;> simp [joinWith]

theorem joinWith_concat {separator : Text} {all : List Text} (h : all ≠ []) (piece : Text) :
    joinWith separator (all ++ [piece]) = joinWith separator all ++ separator ++ piece := by
  induction all with
  | nil => exact absurd rfl h
  | cons first more ih =>
    cases more with
    | nil => rfl
    | cons second others => simpa [joinWith] using ih (by simp)

/-- The characters of joined pieces are those of the pieces and of what joins them. -/
theorem mem_joinWith {separator : Text} {all : List Text} {c : Char}
    (h : c ∈ joinWith separator all) : c ∈ separator ∨ ∃ piece ∈ all, c ∈ piece := by
  induction all with
  | nil => cases h
  | cons first more ih =>
    cases more with
    | nil => exact .inr ⟨first, List.mem_cons_self, h⟩
    | cons second others =>
      rcases List.mem_append.mp h with hfirst | hmore
      · rcases List.mem_append.mp hfirst with hpiece | hseparator
        · exact .inr ⟨first, List.mem_cons_self, hpiece⟩
        · exact .inl hseparator
      · exact (ih hmore).imp_right fun ⟨piece, hpiece, hc⟩ =>
          ⟨piece, List.mem_cons_of_mem _ hpiece, hc⟩

/-- No character of a piece is lost by joining. -/
theorem mem_joinWith_of_mem {separator : Text} {all : List Text} {piece : Text}
    (hpiece : piece ∈ all) {c : Char} (hc : c ∈ piece) : c ∈ joinWith separator all := by
  induction all with
  | nil => cases hpiece
  | cons first more ih =>
    cases more with
    | nil =>
      obtain rfl := List.mem_singleton.mp hpiece
      exact hc
    | cons second others =>
      show c ∈ first ++ separator ++ joinWith separator (second :: others)
      rcases List.mem_cons.mp hpiece with rfl | hmore
      · exact List.mem_append_left _ (List.mem_append_left _ hc)
      · exact List.mem_append_right _ (ih hmore)

/-- The characters of a piece are characters of the text. -/
theorem mem_of_mem_pieces {piece : Text} (hpiece : piece ∈ pieces separator t) {c : Char}
    (hc : c ∈ piece) : c ∈ t := by
  rw [← joinWith_pieces separator t]
  exact mem_joinWith_of_mem hpiece hc

end SyntaxReport.Text
