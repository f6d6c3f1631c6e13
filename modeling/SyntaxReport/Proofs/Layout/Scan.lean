import Mathlib.Tactic.SplitIfs
import SyntaxReport.Tree.Layout

/-!
# The layout as a scan

`layoutFrom` decides two things in one pass: whether a closing parenthesis lacks its partner, and
what the laid out text is. Here the two are taken apart. `unmatched?` looks only at the parentheses,
`laidOut` never fails, and both are built from what a single character does: the place and the depth
behind it (`Place.next`, `depthNext`) and the text it contributes (`contribution`).

Results:
* `layoutFrom_eq`: a layout fails where `unmatched?` says, and is `laidOut` if that says nothing.
* `unmatched?_append`, `laidOut_append`: both go through a text piece by piece.
* `unmatched?_filter_isParen`: whether a layout fails depends on the parentheses alone.
-/

namespace SyntaxReport.Tree

/-! ## What one character does -/

/-- The place behind a character. -/
def Place.next (place : Place) (c : Char) : Place :=
  if c = ' ' then if place = .lineStart then .within else .inBreak
  else if c = '\n' then .lineStart
  else .within

/-- The depth behind a character. -/
def depthNext (depth : Nat) (c : Char) : Nat :=
  if c = '(' then depth + 1
  else if c = ')' then depth - 1
  else depth

/-- What a space contributes: itself at the start of a line, and otherwise a line break that the
spaces behind it share. -/
def spaceContribution (indent : Text) (depth : Nat) : Place → Text
  | .lineStart => [' ']
  | .inBreak => []
  | .within => lineBreak indent depth

/-- An indentation that holds no newline stays on its line, however often it is repeated. -/
theorem newline_not_mem_copies {indent : Text} (h : '\n' ∉ indent) (n : Nat) :
    '\n' ∉ Text.copies n indent := by
  simp [Text.copies, h]

/-- The piece of the laid out text that a character contributes. -/
def contribution (indent : Text) (place : Place) (depth : Nat) (c : Char) : Text :=
  if c = '(' then c :: lineBreak indent (depth + 1)
  else if c = ')' then lineBreak indent (depth - 1) ++ [c]
  else if c = ' ' then spaceContribution indent depth place
  else [c]

theorem ofChar_of_ne {c : Char} (ho : c ≠ '(') (hc : c ≠ ')') (hs : c ≠ ' ') :
    TokenKind.ofChar c = .other := by
  unfold TokenKind.ofChar
  split <;> simp_all

/-- One character of a layout: it fails at a closing parenthesis at depth 0, and otherwise goes on
behind the character. -/
theorem layoutFrom_cons (indent : Text) (place : Place) (depth offset : Nat) (c : Char)
    (rest : Text) :
    layoutFrom indent place depth offset (c :: rest) =
      if c = ')' ∧ depth = 0 then .error ⟨offset⟩
      else
        (layoutFrom indent (place.next c) (depthNext depth c) (offset + 1) rest).map fun more =>
          contribution indent place depth c ++ more := by
  rw [layoutFrom.eq_def]
  dsimp only
  by_cases ho : c = '('
  · subst ho
    simp [TokenKind.ofChar, Place.next, depthNext, contribution]
  by_cases hc : c = ')'
  · subst hc
    cases depth <;> simp [TokenKind.ofChar, Place.next, depthNext, contribution]
  by_cases hs : c = ' '
  · subst hs
    cases place with
    | inBreak =>
      -- the dropped space contributes the empty text
      cases h : layoutFrom indent .inBreak depth (offset + 1) rest <;>
        simp [TokenKind.ofChar, Place.next, depthNext, contribution, spaceContribution, h,
          Except.map]
    | lineStart | within =>
      simp [TokenKind.ofChar, Place.next, depthNext, contribution, spaceContribution]
  · rw [ofChar_of_ne ho hc hs]
    simp [Place.next, depthNext, contribution, ho, hc, hs]

/-! ## The two halves of a layout -/

/-- The offset of the first closing parenthesis without partner, with `depth` parentheses open. -/
def unmatched? : Nat → Text → Option Nat
  | _, [] => none
  | depth, c :: rest =>
    if c = ')' ∧ depth = 0 then some 0
    else (unmatched? (depthNext depth c) rest).map (· + 1)

/-- What a text contributes from the given place and depth on. -/
def laidOut (indent : Text) : Place → Nat → Text → Text
  | _, _, [] => []
  | place, depth, c :: rest =>
    contribution indent place depth c ++ laidOut indent (place.next c) (depthNext depth c) rest

theorem laidOut_open (indent : Text) (place : Place) (depth : Nat) (rest : Text) :
    laidOut indent place depth ('(' :: rest) =
      '(' :: lineBreak indent (depth + 1) ++ laidOut indent .within (depth + 1) rest := by
  simp [laidOut, contribution, Place.next, depthNext]

theorem laidOut_close (indent : Text) (place : Place) (depth : Nat) (rest : Text) :
    laidOut indent place (depth + 1) (')' :: rest) =
      lineBreak indent depth ++ ')' :: laidOut indent .within depth rest := by
  simp [laidOut, contribution, Place.next, depthNext]

theorem laidOut_space (indent : Text) (depth : Nat) (rest : Text) :
    laidOut indent .within depth (' ' :: rest) =
      lineBreak indent depth ++ laidOut indent .inBreak depth rest := by
  simp [laidOut, contribution, spaceContribution, Place.next, depthNext]

/-- The place matters to spaces only. -/
theorem laidOut_cons_of_ne_space {c : Char} (h : c ≠ ' ') (indent : Text) (place other : Place)
    (depth : Nat) (rest : Text) :
    laidOut indent place depth (c :: rest) = laidOut indent other depth (c :: rest) := by
  simp [laidOut, contribution, Place.next, h]

/-- Behind a break, further spaces are dropped. -/
theorem laidOut_inBreak_spaces (indent : Text) (depth n : Nat) (rest : Text) :
    laidOut indent .inBreak depth (Text.spaces n ++ rest) =
      laidOut indent .inBreak depth rest := by
  induction n with
  | zero => rfl
  | succ n ih =>
    rw [← ih, Text.spaces, List.replicate_succ, List.cons_append, laidOut]
    simp [contribution, spaceContribution, Place.next, depthNext, Text.spaces]

/-- The place behind a text. -/
def Place.after (place : Place) (t : Text) : Place := t.foldl Place.next place

/-- The depth behind a text. -/
def depthAfter (depth : Nat) (t : Text) : Nat := t.foldl depthNext depth

/-- A layout fails at the first closing parenthesis without partner; without one, it answers what
the text contributes. -/
theorem layoutFrom_eq (indent : Text) (place : Place) (depth offset : Nat) (t : Text) :
    layoutFrom indent place depth offset t =
      match unmatched? depth t with
      | some k => .error ⟨offset + k⟩
      | none => .ok (laidOut indent place depth t) := by
  induction t generalizing place depth offset with
  | nil => rfl
  | cons c rest ih =>
    rw [layoutFrom_cons, unmatched?, laidOut]
    by_cases hc : c = ')' ∧ depth = 0
    · simp [hc]
    · rw [if_neg hc, if_neg hc, ih]
      cases unmatched? (depthNext depth c) rest with
      | none => rfl
      | some k => simp [Except.map]; omega

theorem layout_eq (indent t : Text) :
    layout indent t =
      match unmatched? 0 t with
      | some k => .error ⟨k⟩
      | none => .ok (laidOut indent .within 0 t) := by
  rw [layout, layoutFrom_eq]
  simp only [Nat.zero_add]

theorem layout_of_unmatched {t : Text} {k : Nat} (h : unmatched? 0 t = some k) (indent : Text) :
    layout indent t = .error ⟨k⟩ := by
  rw [layout_eq, h]

theorem layout_of_matched {t : Text} (h : unmatched? 0 t = none) (indent : Text) :
    layout indent t = .ok (laidOut indent .within 0 t) := by
  rw [layout_eq, h]

theorem matched_of_layout_eq_ok {indent t result : Text} (h : layout indent t = .ok result) :
    unmatched? 0 t = none := by
  rw [layout_eq] at h
  cases hunmatched : unmatched? 0 t with
  | some k => simp [hunmatched] at h
  | none => rfl

theorem laidOut_of_layout_eq_ok {indent t result : Text} (h : layout indent t = .ok result) :
    laidOut indent .within 0 t = result := by
  rw [layout_of_matched (matched_of_layout_eq_ok h)] at h
  exact Except.ok.inj h

/-! ## Texts in pieces -/

theorem unmatched?_append (depth : Nat) (s t : Text) :
    unmatched? depth (s ++ t) =
      match unmatched? depth s with
      | some k => some k
      | none => (unmatched? (depthAfter depth s) t).map (s.length + ·) := by
  induction s generalizing depth with
  | nil => simp [unmatched?, depthAfter]
  | cons c rest ih =>
    rw [List.cons_append, unmatched?, unmatched?]
    by_cases hc : c = ')' ∧ depth = 0
    · simp [hc]
    · rw [if_neg hc, if_neg hc, ih]
      cases unmatched? (depthNext depth c) rest with
      | some k => rfl
      | none =>
        simp only [depthAfter, List.foldl_cons, Option.map_none, Option.map_map, List.length_cons]
        congr 1
        funext k
        simp only [Function.comp_apply]
        omega

theorem laidOut_append (indent : Text) (place : Place) (depth : Nat) (s t : Text) :
    laidOut indent place depth (s ++ t) =
      laidOut indent place depth s ++ laidOut indent (place.after s) (depthAfter depth s) t := by
  induction s generalizing place depth with
  | nil => rfl
  | cons c rest ih =>
    rw [List.cons_append, laidOut, laidOut, ih, List.append_assoc]
    rfl

theorem depthAfter_append (depth : Nat) (s t : Text) :
    depthAfter depth (s ++ t) = depthAfter (depthAfter depth s) t :=
  List.foldl_append

/-! ## Balanced texts -/

/-- A text in which every parenthesis has its partner. -/
def Balanced (t : Text) : Prop :=
  ∀ depth, unmatched? depth t = none ∧ depthAfter depth t = depth

theorem Balanced.append {s t : Text} (hs : Balanced s) (ht : Balanced t) : Balanced (s ++ t) := by
  intro depth
  rw [unmatched?_append, depthAfter_append, (hs depth).1, (hs depth).2, (ht depth).1,
    (ht depth).2]
  exact ⟨rfl, rfl⟩

/-- Parentheses around a balanced text leave it balanced. -/
theorem Balanced.paren {t : Text} (h : Balanced t) : Balanced ('(' :: t ++ [')']) := by
  intro depth
  have hopen (rest : Text) : unmatched? depth ('(' :: rest) =
      (unmatched? (depth + 1) rest).map (· + 1) := by
    simp [unmatched?, depthNext]
  constructor
  · rw [List.cons_append, hopen, unmatched?_append, (h _).1, (h _).2]
    simp [unmatched?]
  · rw [List.cons_append, depthAfter, List.foldl_cons]
    rw [show depthNext depth '(' = depth + 1 by simp [depthNext], ← depthAfter,
      depthAfter_append, (h _).2]
    simp [depthAfter, depthNext]

/-! ## Failure depends on the parentheses -/

/-- A parenthesis, opening or closing. -/
def isParen (c : Char) : Bool := c == '(' || c == ')'

theorem depthNext_of_not_isParen {c : Char} (h : isParen c = false) (depth : Nat) :
    depthNext depth c = depth := by
  simp_all [isParen, depthNext]

/-- A text without parentheses is balanced. -/
theorem Balanced.of_not_isParen {t : Text} (h : ∀ c ∈ t, isParen c = false) : Balanced t := by
  intro depth
  induction t with
  | nil => exact ⟨rfl, rfl⟩
  | cons c rest ih =>
    have hc := depthNext_of_not_isParen (h c (List.mem_cons_self ..)) depth
    have hne : c ≠ ')' := by
      rintro rfl
      exact absurd (h ')' (List.mem_cons_self ..)) (by decide)
    obtain ⟨hn, hd⟩ := ih fun x hx => h x (List.mem_cons_of_mem _ hx)
    refine ⟨?_, ?_⟩
    · rw [unmatched?, if_neg (fun hp => hne hp.1), hc, hn]
      rfl
    · rw [depthAfter, List.foldl_cons, hc]
      exact hd

/-- Whether a layout fails depends on the parentheses alone. -/
theorem unmatched?_filter_isParen (depth : Nat) (t : Text) :
    (unmatched? depth (t.filter isParen)).isNone = (unmatched? depth t).isNone := by
  induction t generalizing depth with
  | nil => rfl
  | cons c rest ih =>
    cases hp : isParen c with
    | true =>
      rw [List.filter_cons_of_pos hp, unmatched?, unmatched?]
      split_ifs with hc
      · rfl
      · simpa using ih (depthNext depth c)
    | false =>
      have hc : ¬(c = ')' ∧ depth = 0) := by
        rintro ⟨rfl, -⟩
        simp [isParen] at hp
      rw [List.filter_cons_of_neg (by simp [hp]), unmatched?, if_neg hc,
        depthNext_of_not_isParen hp, ih]
      simp

end SyntaxReport.Tree
