import Mathlib.Data.List.Basic
import SyntaxReport.Proofs.Layout.Unmatched

/-!
# A layout, position by position

What a character contributes to a layout can be said without the pass: by the parentheses open in
front of it and, for a space, by the run of spaces that it stands in. A run makes one line break, at
its first space, or at its second if a newline stands in front of the run; then the first space is
kept.

Results:
* `isRun_iff`: the run of spaces that a position stands in.
* `place_take`: the place at a position, from the run in front of it.
* `layout_eq_contributions`: a layout is what its positions contribute, one after another.
-/

namespace SyntaxReport.Tree

/-! ## Positions -/

/-- The number of parentheses open in front of a position. -/
def depthAt (t : Text) (i : Nat) : Nat :=
  (t.take i).count '(' - (t.take i).count ')'

/-- The run of spaces up to a position starts at `start` and could not start before. -/
structure IsRun (t : Text) (start i : Nat) : Prop where
  le : start ≤ i
  spaces : ∀ j, start ≤ j → j ≤ i → t[j]? = some ' '
  maximal : start = 0 ∨ t[start - 1]? ≠ some ' '

/-- Where the run of spaces starts that ends right in front of a position; it may be empty. -/
def runStart (t : Text) : Nat → Nat
  | 0 => 0
  | i + 1 => if t[i]? = some ' ' then runStart t i else i + 1

/-- A newline stands right in front of a position. -/
def BehindNewline (t : Text) (i : Nat) : Prop := 0 < i ∧ t[i - 1]? = some '\n'

instance (t : Text) (i : Nat) : Decidable (BehindNewline t i) :=
  inferInstanceAs (Decidable (_ ∧ _))

/-- What a space contributes at position `i`, in a run that starts at `start`. -/
def spaceContributionAt (indent t : Text) (start i : Nat) : Text :=
  if BehindNewline t start then
    if i = start then [' ']
    else if i = start + 1 then lineBreak indent (depthAt t i)
    else []
  else if i = start then lineBreak indent (depthAt t i)
  else []

/-- What the character at a position contributes to the layout of a text. -/
def contributionAt (indent t : Text) (i : Nat) : Text :=
  match t[i]? with
  | none => []
  | some '(' => '(' :: lineBreak indent (depthAt t i + 1)
  | some ')' => lineBreak indent (depthAt t i - 1) ++ [')']
  | some ' ' => spaceContributionAt indent t (runStart t i) i
  | some c => [c]

variable {t : Text} {i : Nat} {c : Char}

/-! ## Runs of spaces -/

theorem runStart_le (t : Text) (i : Nat) : runStart t i ≤ i := by
  induction i with
  | zero => exact Nat.le_refl _
  | succ i ih =>
    rw [runStart]
    split_ifs
    · omega
    · exact Nat.le_refl _

theorem getElem?_of_runStart_le {j : Nat} (hstart : runStart t i ≤ j) (hj : j < i) :
    t[j]? = some ' ' := by
  induction i with
  | zero => omega
  | succ i ih =>
    rw [runStart] at hstart
    split_ifs at hstart with hspace
    · rcases Nat.lt_succ_iff_lt_or_eq.mp hj with hlt | rfl
      · exact ih hstart hlt
      · exact hspace
    · omega

theorem runStart_maximal (t : Text) (i : Nat) :
    runStart t i = 0 ∨ t[runStart t i - 1]? ≠ some ' ' := by
  induction i with
  | zero => exact .inl rfl
  | succ i ih =>
    rw [runStart]
    split_ifs with hspace
    · exact ih
    · exact .inr hspace

/-- The run of spaces that a space stands in. -/
theorem isRun_iff (hspace : t[i]? = some ' ') {start : Nat} :
    IsRun t start i ↔ start = runStart t i := by
  constructor
  · intro h
    rcases Nat.lt_trichotomy start (runStart t i) with hlt | heq | hgt
    · -- the run found would start behind a space
      have hle := runStart_le t i
      have hbefore := h.spaces (runStart t i - 1) (by omega) (by omega)
      rcases runStart_maximal t i with hzero | hmaximal
      · omega
      · exact absurd hbefore hmaximal
    · exact heq
    · have hle := h.le
      have hbefore : t[start - 1]? = some ' ' :=
        getElem?_of_runStart_le (i := i) (by omega) (by omega)
      rcases h.maximal with hzero | hmaximal
      · omega
      · exact absurd hbefore hmaximal
  · rintro rfl
    refine ⟨runStart_le t i, fun j hstart hj => ?_, runStart_maximal t i⟩
    rcases Nat.lt_or_eq_of_le hj with hlt | rfl
    · exact getElem?_of_runStart_le hstart hlt
    · exact hspace

/-! ## Places -/

/-- The place at position `i`, where the run of spaces in front starts at `start`. -/
def placeAt (t : Text) (start i : Nat) : Place :=
  if BehindNewline t start then
    if i = start then .lineStart
    else if i = start + 1 then .within
    else .inBreak
  else if i = start then .within
  else .inBreak

/-- Behind a space, the run goes on. -/
theorem placeAt_next_space {start : Nat} (h : start ≤ i) :
    (placeAt t start i).next ' ' = placeAt t start (i + 1) := by
  unfold placeAt Place.next
  by_cases hnewline : BehindNewline t start
  · by_cases hfirst : i = start
    · simp [hnewline, hfirst]
    · have hsecond : ¬i + 1 = start := by omega
      by_cases hnext : i = start + 1 <;> simp [hnewline, hfirst, hnext, hsecond, Nat.add_assoc]
  · by_cases hfirst : i = start
    · simp [hnewline, hfirst]
    · have hsecond : ¬i + 1 = start := by omega
      simp [hnewline, hfirst, hsecond]

/-- Behind another character, a run starts anew. -/
theorem place_next_of_ne_space (place : Place) (hc : t[i]? = some c) (hspace : c ≠ ' ') :
    place.next c = placeAt t (i + 1) (i + 1) := by
  have hnewline : BehindNewline t (i + 1) ↔ c = '\n' := by
    simp [BehindNewline, hc]
  unfold placeAt Place.next
  by_cases hn : c = '\n' <;> simp [hnewline, hn, hspace]

/-- The place at a position, from the run of spaces in front of it. -/
theorem place_take (hi : i ≤ t.length) :
    Place.after .within (t.take i) = placeAt t (runStart t i) i := by
  induction i with
  | zero => simp [Place.after, placeAt, BehindNewline, runStart]
  | succ i ih =>
    obtain ⟨c, hc⟩ : ∃ c, t[i]? = some c := ⟨t[i], List.getElem?_eq_getElem hi⟩
    have hstep : Place.after .within (t.take (i + 1)) =
        (Place.after .within (t.take i)).next c := by
      rw [List.take_add_one, hc, Place.after, Place.after, Option.toList_some, List.foldl_append]
      rfl
    rw [hstep, ih (by omega), runStart]
    by_cases hspace : c = ' '
    · rw [if_pos (hspace ▸ hc), hspace]
      exact placeAt_next_space (runStart_le t i)
    · have hne : t[i]? ≠ some ' ' := fun h => hspace (Option.some.inj (hc.symm.trans h))
      rw [if_neg hne]
      exact place_next_of_ne_space _ hc hspace

/-! ## Contributions -/

/-- What a text contributes is what its characters do, each from the place and the depth in front of
it. -/
theorem laidOut_eq_flatMap (indent : Text) (place : Place) (depth : Nat) (t : Text) :
    laidOut indent place depth t = (List.range t.length).flatMap fun i =>
      (t[i]?.map (contribution indent (place.after (t.take i)) (depthAfter depth (t.take i)))).getD
        [] := by
  induction t generalizing place depth with
  | nil => rfl
  | cons c rest ih =>
    rw [laidOut, ih, List.length_cons, List.range_succ_eq_map, List.flatMap_cons, List.flatMap_map]
    rfl

/-- The depth at a position is the number of parentheses open in front of it. -/
theorem depthAfter_take (h : unmatched? 0 t = none) (i : Nat) :
    depthAfter 0 (t.take i) = depthAt t i := by
  have hcount := depthAfter_add_count (unmatched?_of_begins h (List.take_prefix i t))
  unfold depthAt
  omega

/-- What a space contributes depends on its place in the run. -/
theorem spaceContribution_placeAt (indent t : Text) (start i : Nat) :
    spaceContribution indent (depthAt t i) (placeAt t start i) =
      spaceContributionAt indent t start i := by
  unfold placeAt spaceContributionAt
  split_ifs <;> rfl

theorem contribution_eq (indent : Text) (h : unmatched? 0 t = none) (hi : i < t.length) :
    (t[i]?.map (contribution indent (Place.after .within (t.take i))
      (depthAfter 0 (t.take i)))).getD [] = contributionAt indent t i := by
  rw [depthAfter_take h, place_take (Nat.le_of_lt hi), contributionAt]
  obtain ⟨c, hc⟩ : ∃ c, t[i]? = some c := ⟨t[i], List.getElem?_eq_getElem hi⟩
  rw [hc, Option.map_some, Option.getD_some, contribution]
  split_ifs with ho hcl hs
  · subst ho
    rfl
  · subst hcl
    rfl
  · subst hs
    exact spaceContribution_placeAt indent t (runStart t i) i
  · split <;> simp_all

/-- If no beginning of a text closes more parentheses than it opens, then its layout is what its
positions contribute, one after another: a parenthesis itself and a line break at the depth inside
or outside, a space what the run says that it stands in, and all else itself. -/
theorem layout_eq_contributions (indent t : Text) (h : ∀ p, p <+: t → ¬Overcloses 0 p) :
    layout indent t = .ok ((List.range t.length).flatMap (contributionAt indent t)) ∧
    ∀ i, t[i]? = some ' ' → ∀ start, IsRun t start i ↔ start = runStart t i := by
  have hmatched : unmatched? 0 t = none := unmatched?_eq_none_iff.mpr h
  refine ⟨?_, fun i hspace start => isRun_iff hspace⟩
  rw [layout_of_matched hmatched, laidOut_eq_flatMap]
  congr 1
  apply List.flatMap_congr
  intro i hi
  exact contribution_eq indent hmatched (List.mem_range.mp hi)

/-- A run of three spaces behind a newline, one at the end and a parenthesis left open. -/
theorem layout_eq_contributions_runs :
    (∀ p, p <+: "(a\n   b  ".toList → ¬Overcloses 0 p) ∧
      (List.range "(a\n   b  ".toList.length).flatMap (contributionAt ['-'] "(a\n   b  ".toList) =
        "(\n-a\n \n-b\n-".toList := by
  have hmatched : ∀ p, p <+: "(a\n   b  ".toList → ¬Overcloses 0 p :=
    unmatched?_eq_none_iff.mp rfl
  have hlayout := (layout_eq_contributions ['-'] _ hmatched).1
  exact ⟨hmatched, (Except.ok.inj hlayout).symm⟩

end SyntaxReport.Tree
