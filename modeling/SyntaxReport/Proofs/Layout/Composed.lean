import SyntaxReport.Proofs.Layout.Unmatched

/-!
# Layouts of texts in pieces

What a text is laid out as is settled as far as it has been read: a beginning is laid out as a
beginning of the whole, or fails as the whole does. What follows is laid out from the place and the
depth that the beginning leaves. So texts that leave no parenthesis open are laid out one by one,
unless blanks are cut apart between them; and a text inside parentheses is laid out as it is outside
of them, with more indentation behind its line breaks.

Results:
* `layoutTree_causal`: the layout of a beginning.
* `layoutTree_append_eq_ok_iff`: which texts, put together, have their layouts put together.
* `laidOut_add`: a text that stands deeper is indented more, and is otherwise laid out the same.
* `layoutTree_compositional`: texts in a row, in parentheses, and anywhere in another text.
-/

namespace SyntaxReport.Tree

variable {indent s t part before result : Text} {place : Place} {depth : Nat} {c : Char}

/-! ## Beginnings -/

/-- Layouts are causal. Where a text has a layout, each beginning has one too, and it is a beginning
of the text's. Where a beginning fails, the text fails in the same way. If the text fails and the
beginning does not, then the failure lies behind the beginning. -/
theorem layoutTree_causal (indent p s : Text) (h : p <+: s) :
    (∀ result, layoutTree indent s = .ok result →
      ∃ part, layoutTree indent p = .ok part ∧ part <+: result) ∧
    (∀ error, layoutTree indent p = .error error → layoutTree indent s = .error error) ∧
    ∀ part error, layoutTree indent p = .ok part → layoutTree indent s = .error error →
      ∃ k, error = .unmatchedClose k ∧ p.length ≤ k := by
  obtain ⟨rest, rfl⟩ := h
  refine ⟨?_, ?_, ?_⟩
  · intro result hresult
    obtain ⟨hmatched, rfl⟩ := layoutTree_eq_ok_iff.mp hresult
    have hbegins := unmatched?_of_begins hmatched (List.prefix_append p rest)
    refine ⟨_, layoutTree_eq_ok_iff.mpr ⟨hbegins, rfl⟩, ?_⟩
    rw [laidOut_append]
    exact List.prefix_append _ _
  · intro error herror
    obtain ⟨k, hk, rfl⟩ := layoutTree_eq_error_iff.mp herror
    apply layoutTree_eq_error_iff.mpr
    exact ⟨k, by rw [unmatched?_append, hk], rfl⟩
  · intro part error hpart herror
    obtain ⟨hmatched, -⟩ := layoutTree_eq_ok_iff.mp hpart
    obtain ⟨k, hk, rfl⟩ := layoutTree_eq_error_iff.mp herror
    rw [unmatched?_append, hmatched] at hk
    obtain ⟨j, -, rfl⟩ := Option.map_eq_some_iff.mp hk
    exact ⟨_, rfl, Nat.le_add_right _ _⟩

/-- A cut inside a run of spaces behind a newline, with a node left open, and one behind a failure.
-/
theorem layoutTree_causal_spaces :
    "(a\n  ".toList <+: "(a\n   b)".toList ∧ "a) ".toList <+: "a)  (".toList ∧
      (∃ part, layoutTree ['-'] "(a\n  ".toList = .ok part ∧ part <+: "(\n-a\n \n-b\n)".toList) ∧
      layoutTree ['-'] "a)  (".toList = .error (.unmatchedClose 1) := by
  have hspaces : "(a\n  ".toList <+: "(a\n   b)".toList := ⟨" b)".toList, rfl⟩
  have hclose : "a) ".toList <+: "a)  (".toList := ⟨" (".toList, rfl⟩
  exact ⟨hspaces, hclose, (layoutTree_causal ['-'] _ _ hspaces).1 _ rfl,
    (layoutTree_causal ['-'] _ _ hclose).2.1 _ rfl⟩

/-! ## Texts in a row -/

/-- Between the texts, blanks are cut apart that belong together: the second starts with a space,
and the first ends in a newline, or in a space that is not kept behind one. -/
def CutsBlanks (s t : Text) : Prop :=
  t.head? = some ' ' ∧
    (s.getLast? = some '\n' ∨ s.getLast? = some ' ' ∧ s.dropLast.getLast? ≠ some '\n')

theorem after_concat (place : Place) (s : Text) (c : Char) :
    place.after (s ++ [c]) = (place.after s).next c :=
  List.foldl_append

/-- A text ends at the start of a line if it ends in a newline. -/
theorem after_eq_lineStart_iff (s : Text) :
    Place.after .within s = .lineStart ↔ s.getLast? = some '\n' := by
  rcases List.eq_nil_or_concat s with rfl | ⟨u, c, rfl⟩
  · simp [Place.after]
  · rw [List.concat_eq_append, after_concat, List.getLast?_concat, Option.some.injEq, Place.next]
    split_ifs with hspace hstart hnewline
    · simp [hspace]
    · simp [hspace]
    · simp [hnewline]
    · simp [hnewline]

/-- The place behind a text is seen from its last two characters. -/
theorem after_eq_within_iff (s : Text) :
    Place.after .within s = .within ↔
      ¬(s.getLast? = some '\n' ∨ s.getLast? = some ' ' ∧ s.dropLast.getLast? ≠ some '\n') := by
  rcases List.eq_nil_or_concat s with rfl | ⟨u, c, rfl⟩
  · simp [Place.after]
  · rw [List.concat_eq_append, after_concat, List.getLast?_concat, List.dropLast_concat,
      Option.some.injEq, Option.some.injEq, ne_eq, ← after_eq_lineStart_iff, Place.next]
    split_ifs with hspace hstart hnewline
    · simp [hspace, hstart]
    · simp [hspace, hstart]
    · simp [hnewline]
    · simp [hspace, hnewline]

theorem not_cutsBlanks_iff :
    ¬CutsBlanks s t ↔ Place.after .within s = .within ∨ t.head? ≠ some ' ' := by
  rw [CutsBlanks, Decidable.not_and_iff_not_or_not, ← after_eq_within_iff, or_comm]

/-- From another place a text is laid out differently only if it starts with a space. -/
theorem laidOut_eq_within_iff :
    laidOut indent place depth t = laidOut indent .within depth t ↔
      place = .within ∨ t.head? ≠ some ' ' := by
  cases t with
  | nil => simp [laidOut]
  | cons c rest =>
    by_cases hspace : c = ' '
    · subst hspace
      rw [laidOut_space]
      cases place with
      | within => simp [laidOut_space]
      | lineStart =>
        -- the space is kept in one place, and is a newline in the other
        simp [laidOut, contribution, spaceContribution, lineBreak]
      | inBreak =>
        -- the space is dropped in one place, so that the other text is longer
        refine iff_of_false ?_ (by simp)
        intro heq
        have hlength := congrArg List.length heq
        simp [laidOut, contribution, spaceContribution, lineBreak, Place.next, depthNext]
          at hlength
        omega
    · simp [hspace, laidOut_cons_of_ne_space hspace indent place .within]

/-- A text that closes all that it opens leaves nothing open. -/
theorem depthAfter_eq_self (h : unmatched? depth t = none) (hcount : t.count '(' = t.count ')') :
    depthAfter depth t = depth := by
  have hadd := depthAfter_add_count h
  omega

/-- The layouts of two texts, put together, are the layout of the texts put together if and only if
no blanks are cut apart between them. -/
theorem layoutTree_append_eq_ok_iff (hs : layoutTree indent s = .ok before)
    (ht : layoutTree indent t = .ok part) (hcount : s.count '(' = s.count ')') :
    layoutTree indent (s ++ t) = .ok (before ++ part) ↔ ¬CutsBlanks s t := by
  obtain ⟨hmatched, rfl⟩ := layoutTree_eq_ok_iff.mp hs
  obtain ⟨hmatched', rfl⟩ := layoutTree_eq_ok_iff.mp ht
  have hdepth := depthAfter_eq_self hmatched hcount
  have hboth : unmatched? 0 (s ++ t) = none := by
    rw [unmatched?_append, hmatched, hdepth, hmatched']
    rfl
  rw [layoutTree_eq_ok_iff, laidOut_append, hdepth, List.append_cancel_left_eq,
    laidOut_eq_within_iff, not_cutsBlanks_iff]
  exact and_iff_right hboth

/-- If the second text fails, then both together fail at the same character. -/
theorem layoutTree_append_of_error (hs : layoutTree indent s = .ok before)
    (hcount : s.count '(' = s.count ')') {error : DumpError}
    (ht : layoutTree indent t = .error error) :
    ∃ k, error = .unmatchedClose k ∧
      layoutTree indent (s ++ t) = .error (.unmatchedClose (s.length + k)) := by
  obtain ⟨hmatched, -⟩ := layoutTree_eq_ok_iff.mp hs
  obtain ⟨k, hk, rfl⟩ := layoutTree_eq_error_iff.mp ht
  refine ⟨k, rfl, layoutTree_eq_error_iff.mpr ⟨s.length + k, ?_, rfl⟩⟩
  rw [unmatched?_append, hmatched, depthAfter_eq_self hmatched hcount, hk]
  rfl

/-! ## Texts in parentheses -/

/-- The text with `more` behind each of its newlines. -/
def shifted (more t : Text) : Text :=
  t.flatMap fun c => if c = '\n' then c :: more else [c]

theorem shifted_cons (more : Text) (c : Char) (t : Text) :
    shifted more (c :: t) = (if c = '\n' then c :: more else [c]) ++ shifted more t :=
  List.flatMap_cons

theorem shifted_append (more s t : Text) :
    shifted more (s ++ t) = shifted more s ++ shifted more t :=
  List.flatMap_append

/-- A text without newlines stays as it is. -/
theorem shifted_of_not_mem (more : Text) (h : '\n' ∉ t) : shifted more t = t := by
  induction t with
  | nil => rfl
  | cons c rest ih =>
    rw [List.mem_cons, not_or] at h
    rw [shifted_cons, if_neg (Ne.symm h.1), ih h.2]
    rfl

/-- A line break at a greater depth is the line break with more indentation behind its newline. -/
theorem lineBreak_add (hindent : '\n' ∉ indent) (deeper depth : Nat) :
    lineBreak indent (deeper + depth) =
      shifted (Text.copies deeper indent) (lineBreak indent depth) := by
  have hcopies : '\n' ∉ Text.copies depth indent := newline_not_mem_copies hindent depth
  rw [lineBreak, lineBreak, shifted_cons, if_pos rfl, shifted_of_not_mem _ hcopies, Text.copies,
    ← List.replicate_append_replicate, List.flatten_append]
  rfl

/-- One character contributes the same at a greater depth, with more indentation. -/
theorem contribution_add (hindent : '\n' ∉ indent) (deeper : Nat) (hc : ¬(c = ')' ∧ depth = 0))
    (hnewline : c ≠ '\n') :
    contribution indent place (deeper + depth) c =
      shifted (Text.copies deeper indent) (contribution indent place depth c) := by
  have hsame {u : Char} (hu : u ≠ '\n') : shifted (Text.copies deeper indent) [u] = [u] :=
    shifted_of_not_mem _ (by simpa using Ne.symm hu)
  unfold contribution
  split_ifs with hopen hclose hspace
  · rw [shifted_cons, if_neg hnewline, Nat.add_assoc, lineBreak_add hindent]
    rfl
  · have hdepth : depth ≠ 0 := fun hzero => hc ⟨hclose, hzero⟩
    rw [shifted_append, hsame hnewline, ← lineBreak_add hindent]
    congr 2
    omega
  · cases place with
    | lineStart => exact (hsame (by decide)).symm
    | inBreak => rfl
    | within => exact lineBreak_add hindent deeper depth
  · exact (hsame hnewline).symm

/-- The depths behind a character differ as those in front of it. -/
theorem depthNext_add (deeper : Nat) (hc : ¬(c = ')' ∧ depth = 0)) :
    depthNext (deeper + depth) c = deeper + depthNext depth c := by
  unfold depthNext
  split_ifs with hopen hclose
  · rfl
  · have hdepth : depth ≠ 0 := fun hzero => hc ⟨hclose, hzero⟩
    omega
  · rfl

/-- A text that stands deeper is laid out the same, with more indentation behind each newline. -/
theorem laidOut_add (hindent : '\n' ∉ indent) (deeper : Nat) (hline : '\n' ∉ t)
    (hmatched : unmatched? depth t = none) :
    laidOut indent place (deeper + depth) t =
      shifted (Text.copies deeper indent) (laidOut indent place depth t) := by
  induction t generalizing place depth with
  | nil => rfl
  | cons c rest ih =>
    rw [List.mem_cons, not_or] at hline
    rw [unmatched?] at hmatched
    split_ifs at hmatched with hc
    rw [laidOut, laidOut, shifted_append, contribution_add hindent deeper hc (Ne.symm hline.1),
      depthNext_add deeper hc, ih hline.2 (Option.map_eq_none_iff.mp hmatched)]

theorem unmatched?_add (deeper : Nat) (hmatched : unmatched? depth t = none) :
    unmatched? (deeper + depth) t = none := by
  rw [unmatched?_eq_none_iff] at hmatched ⊢
  intro p hp hover
  apply hmatched p hp
  unfold Overcloses at hover ⊢
  omega

/-- Parentheses around a text shift its layout by one indentation. -/
theorem layoutTree_paren (hindent : '\n' ∉ indent) (hline : '\n' ∉ t)
    (ht : layoutTree indent t = .ok part) (hcount : t.count '(' = t.count ')') :
    layoutTree indent ('(' :: t ++ [')']) =
      .ok ('(' :: '\n' :: indent ++ shifted indent part ++ ['\n', ')']) := by
  obtain ⟨hmatched, rfl⟩ := layoutTree_eq_ok_iff.mp ht
  have hinside : unmatched? (1 + 0) t = none := unmatched?_add 1 hmatched
  have hdepth : depthAfter (1 + 0) t = 1 := depthAfter_eq_self hinside hcount
  have hlaid : laidOut indent .within (1 + 0) t = shifted indent (laidOut indent .within 0 t) := by
    have hone : Text.copies 1 indent = indent := by simp [Text.copies]
    rw [laidOut_add hindent 1 hline hmatched, hone]
  apply layoutTree_eq_ok_iff.mpr
  constructor
  · rw [List.cons_append, unmatched?, if_neg (by simp), show depthNext 0 '(' = 1 + 0 by rfl,
      unmatched?_append, hinside, hdepth]
    rfl
  · rw [List.cons_append, laidOut_open, laidOut_append, show 0 + 1 = 1 + 0 by rfl, hdepth, hlaid,
      laidOut_close]
    simp [lineBreak, laidOut, Text.copies]

/-- Wherever a text stands, it is laid out as it is alone, with the indentation of the depth that it
stands at behind each newline. -/
theorem layoutTree_within (hindent : '\n' ∉ indent) (hline : '\n' ∉ t)
    (ht : layoutTree indent t = .ok part) {rest : Text} (hseam : ¬CutsBlanks s t)
    (h : layoutTree indent (s ++ t ++ rest) = .ok result) :
    ∃ before behind, layoutTree indent s = .ok before ∧
      result = before ++ shifted (Text.copies (s.count '(' - s.count ')') indent) part ++ behind := by
  obtain ⟨hmatched, rfl⟩ := layoutTree_eq_ok_iff.mp h
  obtain ⟨hmatched', rfl⟩ := layoutTree_eq_ok_iff.mp ht
  have hbefore : unmatched? 0 s = none :=
    unmatched?_of_begins hmatched ⟨t ++ rest, by rw [List.append_assoc]⟩
  have hdepth : depthAfter 0 s = s.count '(' - s.count ')' + 0 := by
    have hadd := depthAfter_add_count hbefore
    omega
  rw [laidOut_append, laidOut_append, hdepth,
    laidOut_eq_within_iff.mpr (not_cutsBlanks_iff.mp hseam), laidOut_add hindent _ hline hmatched']
  exact ⟨_, _, layoutTree_eq_ok_iff.mpr ⟨hbefore, rfl⟩, rfl⟩

/-- Layouts are compositional. If a text has a layout and closes all that it opens, then a text
behind it is laid out as it is alone, provided that no space at its front follows a blank; and it
fails as it does alone, at an offset that counts both texts. Away from newlines, a text in
parentheses is laid out as it is alone, with the indentation behind each newline; and so it is
anywhere in a text, with the indentation of the depth there. -/
theorem layoutTree_compositional (indent : Text) :
    (∀ s t before, layoutTree indent s = .ok before → s.count '(' = s.count ')' →
      ¬((s.getLast? = some ' ' ∨ s.getLast? = some '\n') ∧ t.head? = some ' ') →
      (∀ part, layoutTree indent t = .ok part →
        layoutTree indent (s ++ t) = .ok (before ++ part)) ∧
      ∀ error, layoutTree indent t = .error error →
        ∃ k, error = .unmatchedClose k ∧
          layoutTree indent (s ++ t) = .error (.unmatchedClose (s.length + k))) ∧
    ('\n' ∉ indent → ∀ t part, '\n' ∉ t → layoutTree indent t = .ok part →
      (t.count '(' = t.count ')' →
        layoutTree indent ('(' :: t ++ [')']) =
          .ok ('(' :: '\n' :: indent ++ shifted indent part ++ ['\n', ')'])) ∧
      ∀ s rest result,
        ¬((s.getLast? = some ' ' ∨ s.getLast? = some '\n') ∧ t.head? = some ' ') →
        layoutTree indent (s ++ t ++ rest) = .ok result →
        ∃ before behind, layoutTree indent s = .ok before ∧
          result = before ++
            shifted (Text.copies (s.count '(' - s.count ')') indent) part ++ behind) := by
  have hseam {s t : Text}
      (h : ¬((s.getLast? = some ' ' ∨ s.getLast? = some '\n') ∧ t.head? = some ' ')) :
      ¬CutsBlanks s t :=
    fun hcuts => h ⟨hcuts.2.elim .inr fun hspace => .inl hspace.1, hcuts.1⟩
  refine ⟨?_, ?_⟩
  · intro s t before hs hcount hblank
    refine ⟨?_, ?_⟩
    · intro part ht
      exact (layoutTree_append_eq_ok_iff hs ht hcount).mpr (hseam hblank)
    · intro error ht
      exact layoutTree_append_of_error hs hcount ht
  · intro hindent t part hline ht
    refine ⟨layoutTree_paren hindent hline ht, ?_⟩
    intro s rest result hblank h
    exact layoutTree_within hindent hline ht (hseam hblank) h

/-- A text behind a newline and a space, a failure there, a text in parentheses that starts and ends
with spaces, and a text two levels deep. -/
theorem layoutTree_compositional_seams :
    layoutTree ['-'] "(a)\n b (c)".toList = .ok "(\n-a\n)\n b\n(\n-c\n)".toList ∧
      layoutTree ['-'] "(a)\n b)".toList = .error (.unmatchedClose 6) ∧
      layoutTree ['-'] "(  a (b) )".toList = .ok "(\n-\n-a\n-(\n--b\n-)\n-\n)".toList ∧
      ∃ before behind, layoutTree ['-'] "(x (".toList = .ok before ∧
        "(\n-x\n-(\n--(\n---b\n---c\n--)\n--z".toList =
          before ++ "(\n---b\n---c\n--)".toList ++ behind := by
  obtain ⟨hrow, hdeeper⟩ := layoutTree_compositional ['-']
  have hfirst := hrow "(a)\n ".toList
  obtain ⟨k, hk, hfails⟩ := (hfirst "b)".toList _ rfl rfl (by decide)).2 (.unmatchedClose 1) rfl
  obtain rfl : 1 = k := DumpError.unmatchedClose.inj hk
  refine ⟨(hfirst "b (c)".toList _ rfl rfl (by decide)).1 _ rfl, hfails, ?_, ?_⟩
  · exact (hdeeper (by decide) "  a (b) ".toList _ (by decide) rfl).1 rfl
  · exact (hdeeper (by decide) "(b  c)".toList _ (by decide) rfl).2 "(x (".toList " z".toList _
      (by decide) rfl

end SyntaxReport.Tree
