import SyntaxReport.Proofs.Layout.Restored
import SyntaxReport.Proofs.Layout.Unmatched
import SyntaxReport.Proofs.Text.Pieces

/-!
# The lines of a layout

The layout of a text without newlines is cut into lines by the parentheses and the runs of spaces of
the text. A line is indented by the depth that it stands at, and holds at most one closing
parenthesis, as its first character, and at most one opening parenthesis, as its last.

Results:
* `laidOut_eq_joinWith`: a layout is its lines, joined.
* `flatMap_linesOf`, `length_linesOf`: what the lines hold together, and how many there are.
* `getElem?_indented`: how far a line is indented.
* `lines_of_layout`: the three together, for every layout.
-/

namespace SyntaxReport.Tree

/-! ## Lines -/

/-- The number of runs of spaces: each is counted at its last space. -/
def spaceRuns : Text → Nat
  | [] => 0
  | c :: rest => spaceRuns rest + if c = ' ' ∧ rest.head? ≠ some ' ' then 1 else 0

/-- What a line holds behind its indentation: a closing parenthesis or none, a word, and an opening
parenthesis or none. -/
structure Line where
  closes : Bool
  word : Text
  opens : Bool
  plain : ∀ c ∈ word, IsPlain c

namespace Line

/-- A line without content. -/
def empty : Line := ⟨false, [], false, List.forall_mem_nil _⟩

/-- A line that holds an opening parenthesis only. -/
def opening : Line := { empty with opens := true }

/-- A line with a closing parenthesis in front. -/
def behindClose (line : Line) : Line := { line with closes := true }

/-- A line with one more character in front of its word. -/
def cons (c : Char) (h : IsPlain c) (line : Line) : Line :=
  { line with
    word := c :: line.word
    plain := List.forall_mem_cons.mpr ⟨h, line.plain⟩ }

/-- The content of a line. -/
def text (line : Line) : Text :=
  (if line.closes then [')'] else []) ++ line.word ++ if line.opens then ['('] else []

theorem text_empty : empty.text = [] := rfl

theorem text_opening : opening.text = ['('] := rfl

theorem text_behindClose {line : Line} (h : line.closes = false) :
    line.behindClose.text = ')' :: line.text := by
  rw [text, text, h]
  rfl

theorem text_cons {line : Line} (h : line.closes = false) {c : Char} (hc : IsPlain c) :
    (line.cons c hc).text = c :: line.text := by
  simp [text, cons, h]

theorem newline_not_mem_text (line : Line) : '\n' ∉ line.text := by
  have hword := newline_not_mem_of_isPlain line.plain
  unfold text
  split_ifs <;> simp [hword]

/-- A line leaves the depth outside, or the one inside of what it opens there. -/
theorem depthAfter_text (depth : Nat) (line : Line) :
    depthAfter depth line.text = depth - line.closes.toNat + line.opens.toNat := by
  have hword (n : Nat) : depthAfter n line.word = n := (balanced_of_isPlain line.plain n).2
  rw [text, depthAfter_append, depthAfter_append]
  cases line.closes <;> cases line.opens <;> simp [depthAfter, depthNext] at hword ⊢ <;>
    simp [hword]

end Line

/-- The lines as they are written, with `depth` parentheses open in front of the first. A closing
parenthesis stands at the depth outside. -/
def indented (indent : Text) (depth : Nat) : List Line → List Text
  | [] => []
  | line :: more =>
    let outside := depth - line.closes.toNat
    (Text.copies outside indent ++ line.text) :: indented indent (outside + line.opens.toNat) more

/-- Cut a text into its first line and those below it. An opening parenthesis ends a line, a closing
one starts a line, and a gap stands between two lines. -/
def cutLines : Text → Line × List Line
  | [] => (.empty, [])
  | c :: rest =>
    let (line, more) := cutLines rest
    if c = '(' then (.opening, line :: more)
    else if c = ')' then (.empty, line.behindClose :: more)
    else if h : IsPlain c then (line.cons c h, more)
    else (.empty, line :: more)

/-- The lines of a text. -/
def linesOf (t : Text) : List Line := (cutLines t).1 :: (cutLines t).2

variable {indent t : Text} {depth : Nat} {c : Char}

theorem cutLines_open (rest : Text) : cutLines ('(' :: rest) = (.opening, linesOf rest) := rfl

theorem cutLines_close (rest : Text) :
    cutLines (')' :: rest) = (.empty, (cutLines rest).1.behindClose :: (cutLines rest).2) := rfl

theorem cutLines_gap (rest : Text) : cutLines (' ' :: rest) = (.empty, linesOf rest) := rfl

theorem cutLines_plain (h : IsPlain c) (rest : Text) :
    cutLines (c :: rest) = ((cutLines rest).1.cons c h, (cutLines rest).2) := by
  rw [cutLines]
  simp only [if_neg h.1, if_neg h.2.1, dif_pos h]

/-- The first line has no closing parenthesis: one would start the next line. -/
theorem closes_cutLines (t : Text) : (cutLines t).1.closes = false := by
  induction t with
  | nil => rfl
  | cons c rest ih =>
    rw [cutLines]
    dsimp only
    split_ifs
    · rfl
    · rfl
    · exact ih
    · rfl

/-- Without newlines there are four kinds of characters. -/
theorem cases_of_ne_newline (h : c ≠ '\n') : c = '(' ∨ c = ')' ∨ c = ' ' ∨ IsPlain c := by
  by_cases ho : c = '('
  · exact .inl ho
  by_cases hc : c = ')'
  · exact .inr (.inl hc)
  by_cases hs : c = ' '
  · exact .inr (.inr (.inl hs))
  · exact .inr (.inr (.inr ⟨ho, hc, hs, h⟩))

/-! ## A layout is its lines -/

/-- The lines of a text that goes on at a depth, without indentation in front of the first. -/
def linesAt (indent : Text) (depth : Nat) (t : Text) : List Text :=
  (cutLines t).1.text :: indented indent (depth + (cutLines t).1.opens.toNat) (cutLines t).2

theorem joinWith_indented (first : Text) (line : Line) (more : List Line) :
    Text.joinWith ['\n'] (first :: indented indent depth (line :: more)) =
      first ++ '\n' :: Text.joinWith ['\n'] (indented indent depth (line :: more)) := by
  rw [indented]
  simp [Text.joinWith]

/-- The first line of a text, on a line of its own. -/
theorem joinWith_linesOf (indent : Text) (depth : Nat) (t : Text) :
    Text.joinWith ['\n'] (indented indent depth (linesOf t)) =
      Text.copies depth indent ++ Text.joinWith ['\n'] (linesAt indent depth t) := by
  rw [linesOf, indented, closes_cutLines]
  exact Text.joinWith_append_cons ..

theorem joinWith_linesAt_open (indent : Text) (depth : Nat) (rest : Text) :
    Text.joinWith ['\n'] (linesAt indent depth ('(' :: rest)) =
      '(' :: lineBreak indent (depth + 1) ++
        Text.joinWith ['\n'] (linesAt indent (depth + 1) rest) := by
  rw [linesAt, cutLines_open, linesOf, joinWith_indented, Line.text_opening]
  show ['('] ++ '\n' :: Text.joinWith ['\n'] (indented indent (depth + 1) (linesOf rest)) = _
  rw [joinWith_linesOf]
  rfl

theorem joinWith_linesAt_close (indent : Text) (depth : Nat) (rest : Text) :
    Text.joinWith ['\n'] (linesAt indent (depth + 1) (')' :: rest)) =
      lineBreak indent depth ++ ')' :: Text.joinWith ['\n'] (linesAt indent depth rest) := by
  rw [linesAt, cutLines_close, joinWith_indented, Line.text_empty, indented,
    Line.text_behindClose (closes_cutLines rest), Text.joinWith_append_cons]
  show '\n' :: (Text.copies depth indent ++ Text.joinWith ['\n'] (([')'] ++ _) :: _)) = _
  rw [Text.joinWith_append_cons]
  rfl

theorem joinWith_linesAt_gap (indent : Text) (depth : Nat) (rest : Text) :
    Text.joinWith ['\n'] (linesAt indent depth (' ' :: rest)) =
      lineBreak indent depth ++ Text.joinWith ['\n'] (linesAt indent depth rest) := by
  rw [linesAt, cutLines_gap, linesOf, joinWith_indented, Line.text_empty]
  show '\n' :: Text.joinWith ['\n'] (indented indent depth (linesOf rest)) = _
  rw [joinWith_linesOf]
  rfl

theorem joinWith_linesAt_plain (h : IsPlain c) (indent : Text) (depth : Nat) (rest : Text) :
    Text.joinWith ['\n'] (linesAt indent depth (c :: rest)) =
      c :: Text.joinWith ['\n'] (linesAt indent depth rest) := by
  rw [linesAt, cutLines_plain h, Line.text_cons (closes_cutLines rest)]
  exact Text.joinWith_append_cons ['\n'] [c] ..

/-- A layout is its lines, joined. -/
theorem laidOut_eq_joinWith (hsingle : SingleSpaced t) (hline : '\n' ∉ t)
    (hmatched : unmatched? depth t = none) :
    laidOut indent .within depth t = Text.joinWith ['\n'] (linesAt indent depth t) := by
  induction t generalizing depth with
  | nil => rfl
  | cons c rest ih =>
    obtain ⟨hspaces, hrest⟩ := singleSpaced_cons_iff.mp hsingle
    rw [List.mem_cons, not_or] at hline
    rw [unmatched?] at hmatched
    split_ifs at hmatched with hclose
    have ih := ih hrest hline.2 (Option.map_eq_none_iff.mp hmatched)
    rcases cases_of_ne_newline (Ne.symm hline.1) with rfl | rfl | rfl | hplain
    · have hnext : depthNext depth '(' = depth + 1 := rfl
      rw [hnext] at ih
      rw [laidOut_open, ih, joinWith_linesAt_open]
    · -- the parenthesis has its partner, so there is a depth outside
      obtain ⟨outside, rfl⟩ : ∃ outside, depth = outside + 1 :=
        Nat.exists_eq_succ_of_ne_zero fun hzero => hclose ⟨rfl, hzero⟩
      have hnext : depthNext (outside + 1) ')' = outside := rfl
      rw [hnext] at ih
      rw [laidOut_close, ih, joinWith_linesAt_close]
    · have hnext : depthNext depth ' ' = depth := rfl
      rw [hnext] at ih
      rw [laidOut_gap fun hhead => hspaces ⟨rfl, hhead⟩, ih, joinWith_linesAt_gap]
    · have hnext : depthNext depth c = depth :=
        depthNext_of_not_isParen hplain.isParen_eq_false depth
      have hlaid := laidOut_plain (List.forall_mem_singleton.mpr hplain) indent depth rest
      rw [hnext] at ih
      rw [joinWith_linesAt_plain hplain, ← ih]
      exact hlaid

/-! ## What the lines hold -/

/-- Together the lines hold the text without its gaps. -/
theorem flatMap_linesOf (hline : '\n' ∉ t) :
    (linesOf t).flatMap Line.text = t.filter (· != ' ') := by
  induction t with
  | nil => rfl
  | cons c rest ih =>
    rw [List.mem_cons, not_or] at hline
    have ih := ih hline.2
    have hfirst := closes_cutLines rest
    rw [linesOf, List.flatMap_cons] at ih ⊢
    rcases cases_of_ne_newline (Ne.symm hline.1) with rfl | rfl | rfl | hplain
    · rw [cutLines_open, linesOf, List.flatMap_cons, ih, Line.text_opening,
        List.filter_cons_of_pos rfl]
      rfl
    · -- the parenthesis stands in front of what was the first line
      rw [cutLines_close, List.flatMap_cons, Line.text_empty, Line.text_behindClose hfirst,
        List.filter_cons_of_pos rfl, ← ih]
      rfl
    · rw [cutLines_gap, linesOf, List.flatMap_cons, ih, Line.text_empty]
      rfl
    · have hkeep : (c != ' ') = true := bne_iff_ne.mpr hplain.2.2.1
      rw [cutLines_plain hplain, Line.text_cons hfirst,
        List.filter_cons_of_pos (p := (· != ' ')) hkeep, ← ih]
      rfl

/-- There is a first line, and each parenthesis and each gap makes one more. -/
theorem length_linesOf (hline : '\n' ∉ t) :
    (linesOf t).length = 1 + t.count '(' + t.count ')' + t.count ' ' := by
  induction t with
  | nil => rfl
  | cons c rest ih =>
    rw [List.mem_cons, not_or] at hline
    have ih := ih hline.2
    rw [linesOf, List.length_cons] at ih ⊢
    rcases cases_of_ne_newline (Ne.symm hline.1) with rfl | rfl | rfl | hplain
    · rw [cutLines_open, linesOf, List.length_cons, ih, List.count_cons_self,
        List.count_cons_of_ne (by decide), List.count_cons_of_ne (by decide)]
      omega
    · rw [cutLines_close, List.length_cons, ih, List.count_cons_self,
        List.count_cons_of_ne (by decide), List.count_cons_of_ne (by decide)]
      omega
    · rw [cutLines_gap, linesOf, List.length_cons, ih, List.count_cons_self,
        List.count_cons_of_ne (by decide), List.count_cons_of_ne (by decide)]
      omega
    · rw [cutLines_plain hplain, ih, List.count_cons_of_ne hplain.1,
        List.count_cons_of_ne hplain.2.1, List.count_cons_of_ne hplain.2.2.1]

theorem newline_not_mem_indented (h : '\n' ∉ indent) (depth : Nat) (lines : List Line) :
    ∀ written ∈ indented indent depth lines, '\n' ∉ written := by
  induction lines generalizing depth with
  | nil => exact List.forall_mem_nil _
  | cons line more ih =>
    rw [indented, List.forall_mem_cons]
    refine ⟨?_, ih _⟩
    simp [newline_not_mem_copies h, line.newline_not_mem_text]

/-- How far a line is indented depends on what the lines before it hold. -/
theorem getElem?_indented (indent : Text) (depth : Nat) (lines : List Line) (k : Nat) :
    (indented indent depth lines)[k]? = lines[k]?.map fun line =>
      let outside := depthAfter depth ((lines.take k).flatMap Line.text) - line.closes.toNat
      Text.copies outside indent ++ line.text := by
  induction lines generalizing depth k with
  | nil => rfl
  | cons line more ih =>
    cases k with
    | zero => rfl
    | succ k =>
      rw [indented, List.getElem?_cons_succ, List.getElem?_cons_succ, ih, List.take_succ_cons,
        List.flatMap_cons, depthAfter_append, Line.depthAfter_text]

theorem length_indented (indent : Text) (depth : Nat) (lines : List Line) :
    (indented indent depth lines).length = lines.length := by
  induction lines generalizing depth with
  | nil => rfl
  | cons line more ih => rw [indented, List.length_cons, List.length_cons, ih]

/-! ## The lines of a layout -/

theorem filter_collapseSpaces (t : Text) :
    (collapseSpaces t).filter (· != ' ') = t.filter (· != ' ') := by
  induction t with
  | nil => rfl
  | cons c rest ih =>
    rw [collapseSpaces]
    split_ifs with hc
    · rw [ih, hc.1]
      rfl
    · rw [List.filter_cons, List.filter_cons, ih]

/-- Single spaces leave all characters but the spaces as they are. -/
theorem count_collapseSpaces (hc : c ≠ ' ') (t : Text) :
    (collapseSpaces t).count c = t.count c := by
  have hkeep : (c != ' ') = true := bne_iff_ne.mpr hc
  rw [← List.count_filter (p := (· != ' ')) hkeep, filter_collapseSpaces,
    List.count_filter (p := (· != ' ')) hkeep]

/-- One space is left of each run. -/
theorem count_space_collapseSpaces (t : Text) : (collapseSpaces t).count ' ' = spaceRuns t := by
  induction t with
  | nil => rfl
  | cons c rest ih =>
    rw [collapseSpaces, spaceRuns]
    by_cases hc : c = ' '
    · subst hc
      by_cases hnext : rest.head? = some ' '
      · rw [if_pos ⟨rfl, hnext⟩, if_neg fun h => h.2 hnext, ih, Nat.add_zero]
      · rw [if_neg fun h => hnext h.2, if_pos ⟨rfl, hnext⟩, List.count_cons_self, ih]
    · rw [if_neg fun h => hc h.1, if_neg fun h => hc h.1, List.count_cons_of_ne hc, ih,
        Nat.add_zero]

/-- Cutting a layout at its newlines gives the lines. -/
theorem pieces_laidOut (hline : '\n' ∉ t) (hindent : '\n' ∉ indent)
    (hmatched : unmatched? 0 t = none) :
    Text.pieces '\n' (laidOut indent .within 0 t) =
      indented indent 0 (linesOf (collapseSpaces t)) := by
  have hmatched' : unmatched? 0 (collapseSpaces t) = none := by
    rw [← Option.isNone_iff_eq_none, isNone_unmatched?_collapseSpaces, hmatched,
      Option.isNone_none]
  have hjoined : laidOut indent .within 0 t =
      Text.joinWith ['\n'] (indented indent 0 (linesOf (collapseSpaces t))) := by
    rw [← laidOut_collapseSpaces hline, laidOut_eq_joinWith (singleSpaced_collapseSpaces t)
      (newline_not_mem_collapseSpaces hline) hmatched', joinWith_linesOf]
    rfl
  have hnonempty : indented indent 0 (linesOf (collapseSpaces t)) ≠ [] := List.cons_ne_nil _ _
  rw [hjoined, Text.pieces_joinWith hnonempty (newline_not_mem_indented hindent 0 _)]

theorem unmatched?_filter_ne_space (h : unmatched? 0 t = none) :
    unmatched? 0 (t.filter (· != ' ')) = none := by
  have hfilter : (t.filter (· != ' ')).filter isParen = t.filter isParen := by
    rw [List.filter_filter]
    apply List.filter_congr
    intro c _
    by_cases hc : c = ' '
    · rw [hc]
      rfl
    · simp [hc]
  rw [← Option.isNone_iff_eq_none, ← unmatched?_filter_isParen, hfilter,
    unmatched?_filter_isParen, h, Option.isNone_none]

variable {lines : List Line} {line : Line} {k : Nat}

/-- A line stands behind the lines before it. -/
theorem flatMap_take_append_prefix (hk : lines[k]? = some line) :
    (lines.take k).flatMap Line.text ++ line.text <+: lines.flatMap Line.text := by
  have htake : lines.take (k + 1) = lines.take k ++ [line] := by
    rw [List.take_add_one, hk, Option.toList_some]
  have hsplit : lines.flatMap Line.text =
      (lines.take (k + 1)).flatMap Line.text ++ (lines.drop (k + 1)).flatMap Line.text := by
    rw [← List.flatMap_append, List.take_append_drop]
  rw [hsplit, htake, List.flatMap_append, List.flatMap_singleton]
  exact List.prefix_append _ _

/-- The depth of a line is what the lines before it leave open, less the parenthesis that it closes
itself; there is one to close. -/
theorem depth_of_line (hmatched : unmatched? 0 (lines.flatMap Line.text) = none)
    (hk : lines[k]? = some line) :
    depthAfter 0 ((lines.take k).flatMap Line.text) - line.closes.toNat + line.closes.toNat +
        ((lines.take k).flatMap Line.text).count ')' =
      ((lines.take k).flatMap Line.text).count '(' := by
  have hprefix := flatMap_take_append_prefix hk
  generalize (lines.take k).flatMap Line.text = before at hprefix ⊢
  have hbefore : before <+: lines.flatMap Line.text := (List.prefix_append _ _).trans hprefix
  have hcount := depthAfter_add_count (unmatched?_of_begins hmatched hbefore)
  have hcloses : line.closes.toNat ≤ depthAfter 0 before := by
    cases hclose : line.closes with
    | false => exact Nat.zero_le _
    | true =>
      -- with the parenthesis of the line, what stands before still is a beginning of the text
      have hbegins : before ++ [')'] <+: before ++ line.text := by
        rw [List.prefix_append_right_inj, Line.text, hclose, List.append_assoc]
        exact List.prefix_append _ _
      have hover := unmatched?_eq_none_iff.mp hmatched _ (hbegins.trans hprefix)
      have hclosed : (before ++ [')']).count ')' = before.count ')' + 1 := List.count_append
      have hopened : (before ++ [')']).count '(' = before.count '(' := List.count_append
      rw [Overcloses, hclosed, hopened] at hover
      rw [Bool.toNat_true]
      omega
  omega

theorem count_open_text (line : Line) : line.text.count '(' = line.opens.toNat := by
  have hword : line.word.count '(' = 0 :=
    List.count_eq_zero.mpr fun hmem => (line.plain _ hmem).1 rfl
  rw [Line.text, List.count_append, List.count_append, hword]
  cases line.closes <;> cases line.opens <;> rfl

theorem count_close_text (line : Line) : line.text.count ')' = line.closes.toNat := by
  have hword : line.word.count ')' = 0 :=
    List.count_eq_zero.mpr fun hmem => (line.plain _ hmem).2.1 rfl
  rw [Line.text, List.count_append, List.count_append, hword]
  cases line.closes <;> cases line.opens <;> rfl

/-- If the lines close what they open, then the last one is not indented. -/
theorem depth_of_last_line (hmatched : unmatched? 0 (lines.flatMap Line.text) = none)
    (hbalanced : (lines.flatMap Line.text).count '(' = (lines.flatMap Line.text).count ')')
    (hlast : lines.getLast? = some line) :
    depthAfter 0 ((lines.take (lines.length - 1)).flatMap Line.text) - line.closes.toNat = 0 := by
  have hdepth := depth_of_line hmatched (List.getLast?_eq_getElem? ▸ hlast)
  obtain ⟨before, rfl⟩ := List.getLast?_eq_some_iff.mp hlast
  rw [List.flatMap_append, List.flatMap_singleton, List.count_append, List.count_append,
    count_open_text, count_close_text] at hbalanced
  rw [List.length_append, List.length_singleton, Nat.add_sub_cancel, List.take_left] at hdepth ⊢
  omega

/-- Cut at its newlines, the layout of a text without newlines has one line more than the text has
parentheses and runs of spaces. Together the lines hold the text without its spaces. A line is
indented by the depth that the lines before it leave open, one less if it starts with a closing
parenthesis, which always has its partner before it. If the text closes what it opens, nothing is
left open behind the lines, and the last one is not indented. -/
theorem lines_of_layout (indent t : Text) (hline : '\n' ∉ t) (hindent : '\n' ∉ indent)
    (result : Text) (h : layout indent t = .ok result) :
    (Text.pieces '\n' result).length = 1 + t.count '(' + t.count ')' + spaceRuns t ∧
    ∃ lines : List Line,
      lines.length = (Text.pieces '\n' result).length ∧
      lines.flatMap Line.text = t.filter (· != ' ') ∧
      (∀ k line, lines[k]? = some line → ∃ depth,
        (Text.pieces '\n' result)[k]? = some (Text.copies depth indent ++ line.text) ∧
        depth + line.closes.toNat + ((lines.take k).flatMap Line.text).count ')' =
          ((lines.take k).flatMap Line.text).count '(') ∧
      (t.count '(' = t.count ')' →
        (lines.flatMap Line.text).count '(' = (lines.flatMap Line.text).count ')' ∧
        ∀ line, lines.getLast? = some line →
          (Text.pieces '\n' result).getLast? = some line.text) := by
  have hmatched : unmatched? 0 t = none := matched_of_layout_eq_ok h
  have hu : '\n' ∉ collapseSpaces t := newline_not_mem_collapseSpaces hline
  rw [← laidOut_of_layout_eq_ok h, pieces_laidOut hline hindent hmatched]
  have hlength : (linesOf (collapseSpaces t)).length =
      1 + t.count '(' + t.count ')' + spaceRuns t := by
    rw [length_linesOf hu, count_collapseSpaces (by decide), count_collapseSpaces (by decide),
      count_space_collapseSpaces]
  have htext : (linesOf (collapseSpaces t)).flatMap Line.text = t.filter (· != ' ') := by
    rw [flatMap_linesOf hu, filter_collapseSpaces]
  generalize linesOf (collapseSpaces t) = lines at hlength htext ⊢
  have hmatched' : unmatched? 0 (lines.flatMap Line.text) = none :=
    htext ▸ unmatched?_filter_ne_space hmatched
  refine ⟨(length_indented ..).trans hlength, lines, (length_indented ..).symm, htext,
    fun k line hk => ⟨_, ?_, depth_of_line hmatched' hk⟩, fun hcount => ?_⟩
  · rw [getElem?_indented, hk, Option.map_some]
  · have hbalanced : (lines.flatMap Line.text).count '(' = (lines.flatMap Line.text).count ')' := by
      rw [htext, List.count_filter rfl, List.count_filter rfl, hcount]
    refine ⟨hbalanced, fun line hlast => ?_⟩
    have hindex : lines[lines.length - 1]? = some line :=
      List.getLast?_eq_getElem?.symm.trans hlast
    rw [List.getLast?_eq_getElem?, length_indented, getElem?_indented, hindex, Option.map_some,
      depth_of_last_line hmatched' hbalanced hlast]
    rfl

/-- A gap of two spaces, one in front of a closing parenthesis, and a line with a parenthesis at
each end. -/
theorem lines_of_layout_gaps :
    '\n' ∉ "(a  b)c( )".toList ∧ '\n' ∉ ['-'] ∧
      layout ['-'] "(a  b)c( )".toList = .ok "(\n-a\n-b\n)c(\n-\n-\n)".toList ∧
      (Text.pieces '\n' "(\n-a\n-b\n)c(\n-\n-\n)".toList).length = 7 ∧
      ∃ lines : List Line, lines.length = 7 ∧
        lines.flatMap Line.text = "(ab)c()".toList ∧
        ∀ line, lines.getLast? = some line → line.text = [')'] := by
  have hline : '\n' ∉ "(a  b)c( )".toList := by decide
  have hindent : '\n' ∉ ['-'] := by decide
  have hlayout : layout ['-'] "(a  b)c( )".toList =
      .ok "(\n-a\n-b\n)c(\n-\n-\n)".toList := rfl
  obtain ⟨hlength, lines, hlength', htext, -, hbalanced⟩ :=
    lines_of_layout ['-'] _ hline hindent _ hlayout
  refine ⟨hline, hindent, hlayout, hlength, lines, hlength'.trans hlength, htext,
    fun line hlast => ?_⟩
  have hwritten := (hbalanced rfl).2 line hlast
  exact (Option.some.inj hwritten).symm

end SyntaxReport.Tree
