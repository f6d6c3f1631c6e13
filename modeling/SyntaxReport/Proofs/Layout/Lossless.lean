import SyntaxReport.Proofs.Layout.Scan

/-!
# Nothing is lost in a layout

A layout adds and drops only spaces, newlines and characters of the indentation. What else a text
holds stays, in its order; with it stay the parentheses, and so laying out a result once more cannot
fail.

Results:
* `filter_laidOut`: characters other than those are the same before and behind a layout.
* `layoutEach_lossless`: in a chain of layouts all succeed or all fail alike, and no result has lost
  or gained any of these characters.
-/

namespace SyntaxReport.Tree

section Kept

variable {keep : Char → Bool} {indent : Text} (hspace : keep ' ' = false)
  (hnewline : keep '\n' = false) (hindent : ∀ c ∈ indent, keep c = false)

theorem mem_lineBreak {indent : Text} {depth : Nat} {c : Char} (h : c ∈ lineBreak indent depth) :
    c = '\n' ∨ c ∈ indent := by
  rw [lineBreak, Text.copies] at h
  rcases List.mem_cons.mp h with rfl | h
  · exact .inl rfl
  · obtain ⟨piece, hpiece, hc⟩ := List.mem_flatten.mp h
    rw [List.eq_of_mem_replicate hpiece] at hc
    exact .inr hc

include hnewline hindent in
theorem filter_lineBreak (depth : Nat) : (lineBreak indent depth).filter keep = [] := by
  rw [List.filter_eq_nil_iff]
  intro c hc
  rcases mem_lineBreak hc with rfl | hc
  · simp [hnewline]
  · simp [hindent c hc]

include hspace hnewline hindent

theorem filter_contribution (place : Place) (depth : Nat) (c : Char) :
    (contribution indent place depth c).filter keep = [c].filter keep := by
  have hbreak := filter_lineBreak hnewline hindent
  unfold contribution
  split_ifs with ho hc hs
  · rw [List.filter_cons, hbreak, ho, List.filter_cons, List.filter_nil]
  · rw [List.filter_append, hbreak, List.nil_append]
  · subst hs
    cases place <;> simp [spaceContribution, hspace, hbreak]
  · rfl

/-- Apart from spaces, newlines and the indentation, a text and its layout hold the same. -/
theorem filter_laidOut (place : Place) (depth : Nat) (t : Text) :
    (laidOut indent place depth t).filter keep = t.filter keep := by
  induction t generalizing place depth with
  | nil => rfl
  | cons c rest ih =>
    rw [laidOut, List.filter_append, filter_contribution hspace hnewline hindent, ih,
      ← List.filter_append, List.singleton_append]

end Kept

/-- A character that is in a layout is in the text or in the indentation, or is a space or a
newline. -/
theorem not_mem_of_layout_eq_ok {indent t result : Text} (h : layout indent t = .ok result)
    {c : Char} (ht : c ∉ t) (hindent : c ∉ indent) (hspace : c ≠ ' ') (hnewline : c ≠ '\n') :
    c ∉ result := by
  have hnone : t.filter (c == ·) = [] :=
    List.filter_eq_nil_iff.mpr fun d hd heq => ht (beq_iff_eq.mp heq ▸ hd)
  have hkept : result.filter (c == ·) = t.filter (c == ·) := by
    rw [← laidOut_of_layout_eq_ok h]
    apply filter_laidOut (beq_false_of_ne hspace) (beq_false_of_ne hnewline)
    exact fun d hd => beq_false_of_ne fun heq => hindent (heq ▸ hd)
  rw [hnone, List.filter_eq_nil_iff] at hkept
  exact fun hmem => hkept c hmem (beq_self_eq_true c)

/-- The parentheses of a text are those of its layout. -/
theorem filter_isParen_laidOut {indent : Text} (h : '(' ∉ indent ∧ ')' ∉ indent) (place : Place)
    (depth : Nat) (t : Text) :
    (laidOut indent place depth t).filter isParen = t.filter isParen := by
  apply filter_laidOut (by decide) (by decide)
  intro c hc
  have ho : c ≠ '(' := fun heq => h.1 (heq ▸ hc)
  have hcl : c ≠ ')' := fun heq => h.2 (heq ▸ hc)
  simp [isParen, ho, hcl]

/-- A result can be laid out again. -/
theorem unmatched?_laidOut {indent : Text} (h : '(' ∉ indent ∧ ')' ∉ indent) {t : Text}
    (ht : unmatched? 0 t = none) : unmatched? 0 (laidOut indent .within 0 t) = none := by
  rw [← Option.isNone_iff_eq_none, ← unmatched?_filter_isParen, filter_isParen_laidOut h,
    unmatched?_filter_isParen, ht]
  rfl

/-! ## Chains of layouts -/

/-- A failure repeats itself, whatever the indentation. -/
theorem layoutEach_of_unmatched {t : Text} {k : Nat} (h : unmatched? 0 t = some k)
    (indents : List Text) : ∀ answer ∈ layoutEach t indents, answer = .error ⟨k⟩ := by
  induction indents with
  | nil => simp [layoutEach]
  | cons indent more ih =>
    rw [layoutEach, layout_of_unmatched h]
    intro answer hanswer
    rcases List.mem_cons.mp hanswer with rfl | hanswer
    · rfl
    · exact ih answer hanswer

theorem layoutEach_of_matched {t : Text} (h : unmatched? 0 t = none) (indent : Text)
    (more : List Text) :
    layoutEach t (indent :: more) =
      .ok (laidOut indent .within 0 t) :: layoutEach (laidOut indent .within 0 t) more := by
  rw [layoutEach, layout_of_matched h]
  rfl

/-- One success makes a chain of successes. -/
theorem layoutEach_isOk {t : Text} (h : unmatched? 0 t = none) {indents : List Text}
    (hindents : ∀ indent ∈ indents, '(' ∉ indent ∧ ')' ∉ indent) :
    ∀ answer ∈ layoutEach t indents, ∃ result, answer = .ok result := by
  induction indents generalizing t with
  | nil => simp [layoutEach]
  | cons indent more ih =>
    rw [layoutEach_of_matched h]
    intro answer hanswer
    rcases List.mem_cons.mp hanswer with rfl | hanswer
    · exact ⟨_, rfl⟩
    · have hagain := unmatched?_laidOut (hindents indent (List.mem_cons_self ..)) h
      exact ih hagain (fun i hi => hindents i (List.mem_cons_of_mem _ hi)) answer hanswer

/-- What all indentations leave alone is in every result as it was in the text. -/
theorem filter_layoutEach {keep : Char → Bool} (hspace : keep ' ' = false)
    (hnewline : keep '\n' = false) {t : Text} {indents : List Text}
    (hkeep : ∀ indent ∈ indents, ∀ c ∈ indent, keep c = false) :
    ∀ result, .ok result ∈ layoutEach t indents → result.filter keep = t.filter keep := by
  induction indents generalizing t with
  | nil => simp [layoutEach]
  | cons indent more ih =>
    intro result hresult
    cases h : unmatched? 0 t with
    | some k => exact absurd (layoutEach_of_unmatched h _ _ hresult) (by simp)
    | none =>
      have hfilter := filter_laidOut hspace hnewline (hkeep indent (List.mem_cons_self ..))
        .within 0 t
      rw [layoutEach_of_matched h] at hresult
      rcases List.mem_cons.mp hresult with heq | hresult
      · rw [Except.ok.inj heq, hfilter]
      · rw [ih (fun i hi => hkeep i (List.mem_cons_of_mem _ hi)) result hresult, hfilter]

/-- A text is laid out with one indentation after the other, each result being the next text. If no
indentation holds a parenthesis, all layouts succeed or all fail at the same offset; and if a set of
characters has in it the space, the newline and all indentations, then each result is, without that
set, the text without it. -/
theorem layoutEach_lossless (t : Text) (indents : List Text)
    (hparen : ∀ indent ∈ indents, '(' ∉ indent ∧ ')' ∉ indent) :
    ((∀ answer ∈ layoutEach t indents, ∃ result, answer = .ok result) ∨
      ∃ unmatched, ∀ answer ∈ layoutEach t indents, answer = .error unmatched) ∧
    ∀ blank : Char → Bool, blank ' ' → blank '\n' →
      (∀ indent ∈ indents, ∀ c ∈ indent, blank c) →
      ∀ result, .ok result ∈ layoutEach t indents →
        result.filter (!blank ·) = t.filter (!blank ·) := by
  constructor
  · cases h : unmatched? 0 t with
    | none => exact .inl (layoutEach_isOk h hparen)
    | some k => exact .inr ⟨_, layoutEach_of_unmatched h indents⟩
  · intro blank hspace hnewline hblank
    exact filter_layoutEach (by simp [hspace]) (by simp [hnewline])
      fun indent hi c hc => by simp [hblank indent hi c hc]

/-- Two layouts of a text with a newline, a space behind it and a run of spaces. -/
theorem layoutEach_lossless_twice :
    (∀ indent ∈ [['\t'], ['-', '-']], '(' ∉ indent ∧ ')' ∉ indent) ∧
      ∀ result, .ok result ∈ layoutEach "(a\n (b  c))".toList [['\t'], ['-', '-']] →
        result.filter (fun c => !"\t-\n ".toList.contains c) = "(a(bc))".toList := by
  have hparen : ∀ indent ∈ [['\t'], ['-', '-']], '(' ∉ indent ∧ ')' ∉ indent := by decide
  have hblank : ∀ indent ∈ [['\t'], ['-', '-']], ∀ c ∈ indent, "\t-\n ".toList.contains c := by
    simp
  refine ⟨hparen, fun result hresult => ?_⟩
  rw [(layoutEach_lossless _ _ hparen).2 ("\t-\n ".toList.contains ·) (by decide) (by decide)
    hblank result hresult]
  rfl

end SyntaxReport.Tree
