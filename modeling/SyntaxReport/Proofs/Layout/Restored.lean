import SyntaxReport.Proofs.Layout.Serialized

/-!
# Reading a layout back

A layout forgets how wide the gaps of a line are, and nothing else. `restore` reads a laid out text
back: it keeps count of the depth, passes over each indentation by its length, and looks behind a
newline for the indentation and the closing parenthesis that tell the end of a node from a gap. So
the indentation may be empty, and may hold newlines, spaces or opening parentheses itself.

Results:
* `restore_laidOut`: the layout of a line is read back as the line with single spaces.
* `layout_eq_iff_collapseSpaces_eq`: two lines have the same layout exactly if they differ only in
  the widths of their gaps, and the serialization of a tree is read back from its layout.
-/

namespace SyntaxReport.Tree

/-! ## Single spaces -/

/-- The text with one space for each run of spaces. -/
def collapseSpaces : Text → Text
  | [] => []
  | c :: rest =>
    if c = ' ' ∧ rest.head? = some ' ' then collapseSpaces rest else c :: collapseSpaces rest

/-- No two spaces stand side by side. -/
def SingleSpaced (t : Text) : Prop := ¬[' ', ' '] <:+: t

instance (t : Text) : Decidable (SingleSpaced t) :=
  inferInstanceAs (Decidable ¬[' ', ' '] <:+: t)

theorem collapseSpaces_cons_of_ne {c : Char} (h : c ≠ ' ') (rest : Text) :
    collapseSpaces (c :: rest) = c :: collapseSpaces rest := by
  rw [collapseSpaces, if_neg fun hspace => h hspace.1]

/-- A space stays if no other space follows. -/
theorem collapseSpaces_space {rest : Text} (h : rest.head? ≠ some ' ') :
    collapseSpaces (' ' :: rest) = ' ' :: collapseSpaces rest := by
  rw [collapseSpaces, if_neg fun hspace => h hspace.2]

theorem singleSpaced_cons_iff {c : Char} {rest : Text} :
    SingleSpaced (c :: rest) ↔ ¬(c = ' ' ∧ rest.head? = some ' ') ∧ SingleSpaced rest := by
  have hprefix : [' ', ' '] <+: c :: rest ↔ c = ' ' ∧ rest.head? = some ' ' := by
    cases rest with
    | nil => simp
    | cons next more => simp [List.cons_prefix_cons, eq_comm]
  rw [SingleSpaced, List.infix_cons_iff, hprefix, not_or, SingleSpaced]

theorem collapseSpaces_eq_self {t : Text} (h : SingleSpaced t) : collapseSpaces t = t := by
  induction t with
  | nil => rfl
  | cons c rest ih =>
    obtain ⟨hc, hrest⟩ := singleSpaced_cons_iff.mp h
    rw [collapseSpaces, if_neg hc, ih hrest]

theorem head?_collapseSpaces (t : Text) : (collapseSpaces t).head? = t.head? := by
  induction t with
  | nil => rfl
  | cons c rest ih =>
    rw [collapseSpaces]
    split_ifs with hc
    · rw [ih, hc.2, hc.1, List.head?_cons]
    · rfl

theorem singleSpaced_collapseSpaces (t : Text) : SingleSpaced (collapseSpaces t) := by
  induction t with
  | nil => simp [SingleSpaced, collapseSpaces]
  | cons c rest ih =>
    rw [collapseSpaces]
    split_ifs with hc
    · exact ih
    · rw [singleSpaced_cons_iff, head?_collapseSpaces]
      exact ⟨hc, ih⟩

theorem collapseSpaces_sublist (t : Text) : (collapseSpaces t).Sublist t := by
  induction t with
  | nil => exact .slnil
  | cons c rest ih =>
    rw [collapseSpaces]
    split_ifs
    · exact ih.cons c
    · exact ih.cons_cons c

/-- A run of spaces can be one space longer. -/
theorem Widened.stretch {t u : Text} (h : Widened t (' ' :: u)) :
    Widened t (' ' :: ' ' :: u) := by
  generalize hu : ' ' :: u = v at h
  cases h with
  | nil => cases hu
  | @space n _ _ hmore => exact .space (n + 1) hmore
  | other hc _ =>
    obtain ⟨rfl, -⟩ := List.cons.inj hu
    exact absurd rfl hc

/-- Every text is the one with single spaces, widened. -/
theorem widened_collapseSpaces (t : Text) : Widened (collapseSpaces t) t := by
  induction t with
  | nil => exact .nil
  | cons c rest ih =>
    by_cases hc : c = ' '
    · subst hc
      cases rest with
      | nil => exact .space 0 .nil
      | cons next more =>
        by_cases hnext : next = ' '
        · subst hnext
          rw [collapseSpaces, if_pos ⟨rfl, rfl⟩]
          exact ih.stretch
        · rw [collapseSpaces_space (by simpa using hnext)]
          exact .space 0 ih
    · rw [collapseSpaces_cons_of_ne hc]
      exact .other hc ih

/-- A single space is a line break; the place behind it does not matter. -/
theorem laidOut_gap {rest : Text} (h : rest.head? ≠ some ' ') (indent : Text) (depth : Nat) :
    laidOut indent .within depth (' ' :: rest) =
      lineBreak indent depth ++ laidOut indent .within depth rest := by
  rw [laidOut_space]
  cases rest with
  | nil => rfl
  | cons next more =>
    have hne : next ≠ ' ' := by simpa using h
    rw [laidOut_cons_of_ne_space hne indent .inBreak .within]

/-! ## Reading back -/

/-- Read the rest of a laid out text, with `depth` parentheses open and `skip` characters of
indentation still to be passed over. A newline is the end of a node if it is followed by the
indentation of the depth below and a closing parenthesis, and a gap otherwise. -/
def restoreFrom (indent : Text) : Nat → Nat → Text → Text
  | _, _, [] => []
  | depth, skip + 1, _ :: rest => restoreFrom indent depth skip rest
  | depth, 0, c :: rest =>
    if c = '(' then
      c :: restoreFrom indent (depth + 1) (lineBreak indent (depth + 1)).length rest
    else if c = '\n' then
      if Text.copies (depth - 1) indent ++ [')'] <+: rest then
        ')' :: restoreFrom indent (depth - 1) (Text.copies (depth - 1) indent ++ [')']).length rest
      else ' ' :: restoreFrom indent depth (Text.copies depth indent).length rest
    else c :: restoreFrom indent depth 0 rest

/-- The line, with single spaces, that a text is the layout of. -/
def restore (indent text : Text) : Text := restoreFrom indent 0 0 text

variable {indent : Text}

theorem restoreFrom_skip (indent : Text) (depth : Nat) (passed rest : Text) :
    restoreFrom indent depth passed.length (passed ++ rest) =
      restoreFrom indent depth 0 rest := by
  induction passed with
  | nil => rfl
  | cons c passed ih => rw [List.length_cons, List.cons_append, restoreFrom, ih]

theorem restoreFrom_open (indent : Text) (depth : Nat) (rest : Text) :
    restoreFrom indent depth 0 ('(' :: lineBreak indent (depth + 1) ++ rest) =
      '(' :: restoreFrom indent (depth + 1) 0 rest := by
  rw [List.cons_append, restoreFrom, if_pos rfl, restoreFrom_skip]

theorem restoreFrom_close (indent : Text) (depth : Nat) (rest : Text) :
    restoreFrom indent depth 0 (lineBreak indent (depth - 1) ++ ')' :: rest) =
      ')' :: restoreFrom indent (depth - 1) 0 rest := by
  have hsplit : Text.copies (depth - 1) indent ++ ')' :: rest =
      (Text.copies (depth - 1) indent ++ [')']) ++ rest := by simp
  rw [lineBreak, List.cons_append, restoreFrom, if_neg (by decide), if_pos rfl, hsplit,
    if_pos (List.prefix_append _ _), restoreFrom_skip]

theorem restoreFrom_other {c : Char} (hopen : c ≠ '(') (hnewline : c ≠ '\n') (indent : Text)
    (depth : Nat) (rest : Text) :
    restoreFrom indent depth 0 (c :: rest) = c :: restoreFrom indent depth 0 rest := by
  rw [restoreFrom, if_neg hopen, if_neg hnewline]

/-- Behind the newline of a gap there is no end of a node: the indentation of the depth below is
followed by one more indentation, or by what comes next. -/
theorem not_close_of_gap (hclose : ')' ∉ indent) {rest : Text} (hrest : rest.head? ≠ some ')')
    (depth : Nat) :
    ¬Text.copies (depth - 1) indent ++ [')'] <+: Text.copies depth indent ++ rest := by
  cases depth with
  | zero =>
    intro hprefix
    obtain ⟨more, hmore⟩ := hprefix
    simp [Text.copies] at hmore
    simp [← hmore] at hrest
  | succ depth =>
    have hcopies : Text.copies (depth + 1) indent = Text.copies depth indent ++ indent := by
      simp [Text.copies, List.replicate_succ']
    rw [Nat.add_sub_cancel, hcopies, List.append_assoc, List.prefix_append_right_inj]
    rintro ⟨more, hmore⟩
    cases indent with
    | nil =>
      rw [List.nil_append] at hmore
      simp [← hmore] at hrest
    | cons c indent => simp_all

theorem restoreFrom_gap (hclose : ')' ∉ indent) {rest : Text} (hrest : rest.head? ≠ some ')')
    (depth : Nat) :
    restoreFrom indent depth 0 (lineBreak indent depth ++ rest) =
      ' ' :: restoreFrom indent depth 0 rest := by
  rw [lineBreak, List.cons_append, restoreFrom, if_neg (by decide), if_pos rfl,
    if_neg (not_close_of_gap hclose hrest depth), restoreFrom_skip]

/-! ## Layouts are read back -/

/-- A closing parenthesis stands behind a newline, never first. -/
theorem head?_laidOut_ne_close (indent : Text) (place : Place) (depth : Nat) (t : Text) :
    (laidOut indent place depth t).head? ≠ some ')' := by
  induction t generalizing place depth with
  | nil => simp [laidOut]
  | cons c rest ih =>
    rw [laidOut]
    unfold contribution
    split_ifs with ho hc hs
    · simp [ho]
    · simp [lineBreak]
    · cases place with
      | lineStart => simp [spaceContribution]
      | within => simp [spaceContribution, lineBreak]
      | inBreak =>
        rw [spaceContribution, List.nil_append]
        exact ih _ _
    · simp [hc]

/-- A line with single spaces is read back from its layout. -/
theorem restoreFrom_laidOut (hclose : ')' ∉ indent) {t : Text} (hsingle : SingleSpaced t)
    (hline : '\n' ∉ t) (depth : Nat) :
    restoreFrom indent depth 0 (laidOut indent .within depth t) = t := by
  induction t generalizing depth with
  | nil => rfl
  | cons c rest ih =>
    obtain ⟨hspaces, hrest⟩ := singleSpaced_cons_iff.mp hsingle
    rw [List.mem_cons, not_or] at hline
    have ih := ih hrest hline.2
    by_cases ho : c = '('
    · rw [ho, laidOut_open, restoreFrom_open, ih]
    by_cases hc : c = ')'
    · subst hc
      have hlaid : laidOut indent .within depth (')' :: rest) =
          lineBreak indent (depth - 1) ++ ')' :: laidOut indent .within (depth - 1) rest := by
        simp [laidOut, contribution, Place.next, depthNext]
      rw [hlaid, restoreFrom_close, ih]
    by_cases hs : c = ' '
    · subst hs
      rw [laidOut_gap (fun hhead => hspaces ⟨rfl, hhead⟩),
        restoreFrom_gap hclose (head?_laidOut_ne_close indent _ _ _), ih]
    · have hlaid : laidOut indent .within depth (c :: rest) =
          c :: laidOut indent .within depth rest := by
        simp [laidOut, contribution, Place.next, depthNext, ho, hc, hs, Ne.symm hline.1]
      rw [hlaid, restoreFrom_other ho (Ne.symm hline.1), ih]

theorem newline_not_mem_collapseSpaces {t : Text} (h : '\n' ∉ t) : '\n' ∉ collapseSpaces t :=
  fun hmem => h ((collapseSpaces_sublist t).subset hmem)

/-- The widths of the gaps of a line are not in its layout. -/
theorem laidOut_collapseSpaces {t : Text} (h : '\n' ∉ t) (indent : Text) (depth : Nat) :
    laidOut indent .within depth (collapseSpaces t) = laidOut indent .within depth t :=
  (laidOut_widened (widened_collapseSpaces t) (newline_not_mem_collapseSpaces h) indent
    (by simp) depth).symm

/-- The layout of a line is read back as the line with single spaces. -/
theorem restore_laidOut (hclose : ')' ∉ indent) {t : Text} (h : '\n' ∉ t) :
    restore indent (laidOut indent .within 0 t) = collapseSpaces t := by
  rw [← laidOut_collapseSpaces h, restore]
  exact restoreFrom_laidOut hclose (singleSpaced_collapseSpaces t)
    (newline_not_mem_collapseSpaces h) 0

/-! ## Serialized trees -/

theorem collapseSpaces_append_of_isPlain {s : Text} (h : ∀ c ∈ s, IsPlain c) (rest : Text) :
    collapseSpaces (s ++ rest) = s ++ collapseSpaces rest := by
  induction s with
  | nil => rfl
  | cons c s ih =>
    obtain ⟨hc, hs⟩ := List.forall_mem_cons.mp h
    rw [List.cons_append, collapseSpaces_cons_of_ne hc.2.2.1, ih hs, List.cons_append]

theorem head?_serialize_append (node : Node) (rest : Text) :
    (node.serializeWith [' '] ++ rest).head? ≠ some ' ' := by
  obtain ⟨label, children⟩ := node
  simp [Node.serializeWith]

theorem head?_fieldMark_append {field : Text} (h : ∀ c ∈ field, IsPlain c) (rest : Text) :
    (fieldMark field ++ rest).head? ≠ some ' ' := by
  have hplain := isPlain_fieldMark h
  cases hm : fieldMark field with
  | nil => simp [fieldMark] at hm
  | cons c more =>
    rw [hm] at hplain
    simpa using (hplain c (List.mem_cons_self ..)).2.2.1

mutual

/-- The gaps of a serialization are single spaces. -/
theorem collapseSpaces_serialize (rest : Text) : ∀ node : Node, node.Plain →
    collapseSpaces (node.serializeWith [' '] ++ rest) =
      node.serializeWith [' '] ++ collapseSpaces rest
  | .mk label children, h => by
    obtain ⟨hlabel, hchildren⟩ := allPlain_cons.mp h
    rw [Node.serializeWith]
    simp only [List.cons_append, List.append_assoc, List.nil_append]
    rw [collapseSpaces_cons_of_ne (by decide), collapseSpaces_append_of_isPlain hlabel,
      collapseSpaces_serializeChildren _ children hchildren,
      collapseSpaces_cons_of_ne (by decide)]

theorem collapseSpaces_serializeChildren (rest : Text) :
    ∀ children : List (Option Text × Node), AllPlain (childNames children) →
      collapseSpaces (serializeChildren [' '] children ++ rest) =
        serializeChildren [' '] children ++ collapseSpaces rest
  | [], _ => rfl
  | (none, child) :: more, h => by
    obtain ⟨-, hchild, hmore⟩ := allPlain_childNames h
    rw [serializeChildren]
    simp only [List.cons_append, List.append_assoc, List.nil_append]
    rw [collapseSpaces_space (head?_serialize_append _ _),
      collapseSpaces_serialize _ child hchild, collapseSpaces_serializeChildren _ more hmore]
  | (some field, child) :: more, h => by
    obtain ⟨hfield, hchild, hmore⟩ := allPlain_childNames h
    have hname := (allPlain_cons.mp hfield).1
    rw [serializeChildren]
    simp only [List.cons_append, List.append_assoc, List.nil_append]
    rw [collapseSpaces_space (head?_fieldMark_append hname _),
      collapseSpaces_append_of_isPlain (isPlain_fieldMark hname),
      collapseSpaces_space (head?_serialize_append _ _),
      collapseSpaces_serialize _ child hchild, collapseSpaces_serializeChildren _ more hmore]

end

/-- The serialization of a tree is read back from the tree printed by recursion. -/
theorem restore_pretty (hclose : ')' ∉ indent) {node : Node} (h : node.Plain) :
    restore indent (node.pretty indent 0) = node.serialize := by
  have hline : '\n' ∉ node.serialize := newline_not_mem_serialize node h
  have hsingle := collapseSpaces_serialize [] node h
  rw [collapseSpaces, List.append_nil] at hsingle
  rw [← laidOut_serialize_eq_pretty h, restore_laidOut hclose hline]
  exact hsingle

/-! ## Equal layouts -/

theorem isNone_unmatched?_collapseSpaces (t : Text) :
    (unmatched? 0 (collapseSpaces t)).isNone = (unmatched? 0 t).isNone :=
  ((widened_collapseSpaces t).isNone_unmatched? 0).symm

/-- Lines that are the same with single spaces have the same layout, or none of them has one. -/
theorem layout_congr_of_collapseSpaces_eq (indent : Text) {s t : Text} (hs : '\n' ∉ s)
    (ht : '\n' ∉ t) (h : collapseSpaces s = collapseSpaces t) :
    (∃ result, layout indent s = .ok result ∧ layout indent t = .ok result) ∨
      ∃ k l, layout indent s = .error ⟨k⟩ ∧ layout indent t = .error ⟨l⟩ := by
  have hnone : (unmatched? 0 s).isNone = (unmatched? 0 t).isNone := by
    rw [← isNone_unmatched?_collapseSpaces, h, isNone_unmatched?_collapseSpaces]
  cases hu : unmatched? 0 s with
  | none =>
    rw [hu, Option.isNone_none, eq_comm, Option.isNone_iff_eq_none] at hnone
    have hlaid : laidOut indent .within 0 t = laidOut indent .within 0 s := by
      rw [← laidOut_collapseSpaces ht, ← h, laidOut_collapseSpaces hs]
    exact .inl ⟨_, layout_of_matched hu indent, by rw [layout_of_matched hnone, hlaid]⟩
  | some k =>
    cases hv : unmatched? 0 t with
    | none => simp [hu, hv] at hnone
    | some l => exact .inr ⟨k, l, layout_of_unmatched hu indent, layout_of_unmatched hv indent⟩

/-- The layout forgets the widths of the gaps of a line, and nothing else: lines that are the same
with single spaces have the same layout or all fail, lines with the same layout are the same with
single spaces, and a line with single spaces, in particular the serialization of a tree, is read
back from its layout. -/
theorem layout_eq_iff_collapseSpaces_eq (indent : Text) (hclose : ')' ∉ indent) (s t : Text)
    (hs : '\n' ∉ s) (ht : '\n' ∉ t) :
    (collapseSpaces s = collapseSpaces t →
      (∃ result, layout indent s = .ok result ∧ layout indent t = .ok result) ∨
        ∃ k l, layout indent s = .error ⟨k⟩ ∧ layout indent t = .error ⟨l⟩) ∧
    (∀ result, layout indent s = .ok result → layout indent t = .ok result →
      collapseSpaces s = collapseSpaces t ∧ (SingleSpaced s → SingleSpaced t → s = t)) ∧
    (∀ result, layout indent s = .ok result → SingleSpaced s → restore indent result = s) ∧
    ∀ node : Node, node.Plain → ∃ result,
      layout indent node.serialize = .ok result ∧ restore indent result = node.serialize := by
  have hrestore (t result : Text) (ht : '\n' ∉ t) (h : layout indent t = .ok result) :
      restore indent result = collapseSpaces t := by
    rw [← laidOut_of_layout_eq_ok h, restore_laidOut hclose ht]
  refine ⟨layout_congr_of_collapseSpaces_eq indent hs ht, fun result hresult hother => ?_,
    fun result hresult hsingle => ?_, fun node hnode => ?_⟩
  · have heq : collapseSpaces s = collapseSpaces t :=
      (hrestore s result hs hresult).symm.trans (hrestore t result ht hother)
    refine ⟨heq, fun hsingle hsingle' => ?_⟩
    rwa [collapseSpaces_eq_self hsingle, collapseSpaces_eq_self hsingle'] at heq
  · rw [hrestore s result hs hresult, collapseSpaces_eq_self hsingle]
  · have hmatched : unmatched? 0 node.serialize = none := (balanced_serialize node hnode 0).1
    refine ⟨node.pretty indent 0, ?_, restore_pretty hclose hnode⟩
    rw [layout_of_matched hmatched, laidOut_serialize_eq_pretty hnode]

/-- A gap of three spaces and one of a single space, with a newline for the indentation. -/
theorem layout_eq_iff_collapseSpaces_eq_newline :
    ')' ∉ ['\n'] ∧ '\n' ∉ "(a   (b))".toList ∧ '\n' ∉ "(a (b))".toList ∧
      ∃ result, layout ['\n'] "(a   (b))".toList = .ok result ∧
        layout ['\n'] "(a (b))".toList = .ok result ∧
        restore ['\n'] result = "(a (b))".toList := by
  have hclose : ')' ∉ ['\n'] := by decide
  have hwide : '\n' ∉ "(a   (b))".toList := by decide
  have hsingle : '\n' ∉ "(a (b))".toList := by decide
  have hcollapsed : collapseSpaces "(a (b))".toList = "(a (b))".toList := by rfl
  have hwidened : collapseSpaces "(a   (b))".toList = "(a (b))".toList := by rfl
  have hspaced := singleSpaced_collapseSpaces "(a (b))".toList
  rw [hcollapsed] at hspaced
  have hok : (layout ['\n'] "(a (b))".toList).isOk := rfl
  have hboth := layout_eq_iff_collapseSpaces_eq ['\n'] hclose _ _ hsingle hwide
  refine ⟨hclose, hwide, hsingle, ?_⟩
  have hsame := hboth.1 (hcollapsed.trans hwidened.symm)
  rcases hsame with ⟨result, hresult, hother⟩ | ⟨k, -, hfailed, -⟩
  · exact ⟨result, hother, hresult, hboth.2.2.1 result hresult hspaced⟩
  · rw [hfailed] at hok
    cases hok

end SyntaxReport.Tree
