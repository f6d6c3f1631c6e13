import SyntaxReport.Dump.Engine
import SyntaxReport.Proofs.Layout.Scan

/-!
# Where a layout fails

A layout fails at the character behind which, for the first time, more parentheses have been closed
than opened. It has no other way to fail, and the indentation has no part in it.

Results:
* `depthAfter_add_count`: without such a character, the depth is what is open less what is closed.
* `unmatched?_eq_none_iff`, `unmatched?_eq_some_iff`: where the closing parenthesis without partner
  stands, by counting.
* `layoutTree_fails_iff`: a layout fails exactly for the texts with such a beginning, and names the
  last character of the shortest.
-/

namespace SyntaxReport.Tree

/-- With `depth` parentheses open before, the text closes more than there are. -/
def Overcloses (depth : Nat) (t : Text) : Prop := depth + t.count '(' < t.count ')'

instance (depth : Nat) (t : Text) : Decidable (Overcloses depth t) :=
  inferInstanceAs (Decidable (_ < _))

/-- The shortest beginning of a text that closes more parentheses than there are. -/
structure FirstOverclosing (depth : Nat) (t p : Text) : Prop where
  begins : p <+: t
  overcloses : Overcloses depth p
  shortest : ∀ q, q <+: t → Overcloses depth q → p.length ≤ q.length

variable {depth : Nat} {t p : Text} {c : Char} {k : Nat}

/-! ## One character -/

theorem not_overcloses_nil (depth : Nat) : ¬Overcloses depth [] := by simp [Overcloses]

/-- Behind a character, the count goes on from the depth there. -/
theorem overcloses_cons_iff (h : ¬(c = ')' ∧ depth = 0)) :
    Overcloses depth (c :: p) ↔ Overcloses (depthNext depth c) p := by
  unfold Overcloses depthNext
  split_ifs with hopen hclose
  · subst hopen
    rw [List.count_cons_self, List.count_cons_of_ne (by decide)]
    omega
  · subst hclose
    have hdepth : depth ≠ 0 := fun hzero => h ⟨rfl, hzero⟩
    rw [List.count_cons_self, List.count_cons_of_ne (by decide)]
    omega
  · rw [List.count_cons_of_ne hopen, List.count_cons_of_ne hclose]

/-! ## The whole text -/

/-- No closing parenthesis lacks its partner if and only if no beginning closes too many. -/
theorem unmatched?_eq_none_iff :
    unmatched? depth t = none ↔ ∀ p, p <+: t → ¬Overcloses depth p := by
  induction t generalizing depth with
  | nil =>
    refine iff_of_true rfl fun p hp => ?_
    rw [List.prefix_nil.mp hp]
    exact not_overcloses_nil depth
  | cons c rest ih =>
    rw [unmatched?]
    split_ifs with hc
    · obtain ⟨rfl, rfl⟩ := hc
      refine iff_of_false (by simp) fun h => h [')'] ?_ (by decide)
      exact List.prefix_append [')'] rest
    · rw [Option.map_eq_none_iff, ih]
      constructor
      · intro h p hp
        rcases List.prefix_cons_iff.mp hp with rfl | ⟨q, rfl, hq⟩
        · exact not_overcloses_nil depth
        · rw [overcloses_cons_iff hc]
          exact h q hq
      · intro h q hq
        rw [← overcloses_cons_iff hc]
        exact h (c :: q) (List.prefix_cons_inj c |>.mpr hq)

/-- A beginning lacks no partner that the whole text does not lack. -/
theorem unmatched?_of_begins (h : unmatched? depth t = none) (hp : p <+: t) :
    unmatched? depth p = none := by
  rw [unmatched?_eq_none_iff] at h ⊢
  exact fun q hq => h q (hq.trans hp)

/-- The first closing parenthesis without partner ends the shortest beginning that closes too
many. -/
theorem firstOverclosing_of_unmatched (h : unmatched? depth t = some k) :
    ∃ p, FirstOverclosing depth t p ∧ p.length = k + 1 := by
  induction t generalizing depth k with
  | nil => cases h
  | cons c rest ih =>
    rw [unmatched?] at h
    split_ifs at h with hc
    · obtain ⟨rfl, rfl⟩ := hc
      obtain rfl := Option.some.inj h
      refine ⟨[')'], ⟨List.prefix_append [')'] rest, by decide, fun q _ hover => ?_⟩, rfl⟩
      cases q with
      | nil => exact absurd hover (not_overcloses_nil 0)
      | cons _ _ => simp
    · obtain ⟨j, hj, rfl⟩ := Option.map_eq_some_iff.mp h
      obtain ⟨p, hfirst, hlength⟩ := ih hj
      refine ⟨c :: p, ⟨List.prefix_cons_inj c |>.mpr hfirst.begins, ?_, ?_⟩, by simp [hlength]⟩
      · rw [overcloses_cons_iff hc]
        exact hfirst.overcloses
      · intro q hq hover
        rcases List.prefix_cons_iff.mp hq with rfl | ⟨more, rfl, hmore⟩
        · exact absurd hover (not_overcloses_nil depth)
        · rw [overcloses_cons_iff hc] at hover
          simpa using hfirst.shortest more hmore hover

theorem FirstOverclosing.length_eq {q : Text} (hp : FirstOverclosing depth t p)
    (hq : FirstOverclosing depth t q) : p.length = q.length :=
  Nat.le_antisymm (hp.shortest q hq.begins hq.overcloses)
    (hq.shortest p hp.begins hp.overcloses)

theorem unmatched?_eq_some_iff :
    unmatched? depth t = some k ↔ ∃ p, FirstOverclosing depth t p ∧ p.length = k + 1 := by
  refine ⟨firstOverclosing_of_unmatched, ?_⟩
  rintro ⟨p, hfirst, hlength⟩
  cases h : unmatched? depth t with
  | none => exact absurd hfirst.overcloses (unmatched?_eq_none_iff.mp h p hfirst.begins)
  | some j =>
    obtain ⟨q, hq, hlength'⟩ := firstOverclosing_of_unmatched h
    have hsame := hfirst.length_eq hq
    rw [show j = k by omega]

/-- Without a closing parenthesis that lacks its partner, the depth behind a text is what is open
before and in it, less what it closes. -/
theorem depthAfter_add_count (h : unmatched? depth t = none) :
    depthAfter depth t + t.count ')' = depth + t.count '(' := by
  induction t generalizing depth with
  | nil => simp [depthAfter]
  | cons c rest ih =>
    rw [unmatched?] at h
    split_ifs at h with hc
    have hrest := ih (Option.map_eq_none_iff.mp h)
    show depthAfter (depthNext depth c) rest + _ = _
    unfold depthNext at hrest ⊢
    split_ifs at hrest ⊢ with hopen hclose
    · subst hopen
      rw [List.count_cons_self, List.count_cons_of_ne (by decide)]
      omega
    · subst hclose
      have hdepth : depth ≠ 0 := fun hzero => hc ⟨rfl, hzero⟩
      rw [List.count_cons_self, List.count_cons_of_ne (by decide)]
      omega
    · rw [List.count_cons_of_ne hopen, List.count_cons_of_ne hclose]
      exact hrest

/-! ## Failures of a layout -/

theorem layoutTree_eq_error_iff {indent : Text} {error : DumpError} :
    layoutTree indent t = .error error ↔
      ∃ k, unmatched? 0 t = some k ∧ error = .unmatchedClose k := by
  rw [layoutTree, layout_eq]
  cases unmatched? 0 t with
  | none => simp
  | some k => simp [eq_comm]

theorem layoutTree_eq_ok_iff {indent result : Text} :
    layoutTree indent t = .ok result ↔
      unmatched? 0 t = none ∧ laidOut indent .within 0 t = result := by
  rw [layoutTree, layout_eq]
  cases unmatched? 0 t <;> simp

theorem exists_layoutTree_eq_ok_iff {indent : Text} :
    (∃ result, layoutTree indent t = .ok result) ↔ unmatched? 0 t = none := by
  simp [layoutTree_eq_ok_iff]

theorem FirstOverclosing.length_pos (h : FirstOverclosing depth t p) : 0 < p.length := by
  apply List.length_pos_iff.mpr
  rintro rfl
  exact not_overcloses_nil depth h.overcloses

/-- A layout fails if and only if some beginning of the text closes more parentheses than it opens.
The failure says that the tree is unbalanced, and names the offset of the last character of the
shortest such beginning, whatever the indentation is. All other texts have a layout, also those that
leave parentheses open. -/
theorem layoutTree_fails_iff (indent t : Text) :
    ((∃ error, layoutTree indent t = .error error) ↔ ∃ p, p <+: t ∧ Overcloses 0 p) ∧
    ((∃ result, layoutTree indent t = .ok result) ↔ ∀ p, p <+: t → ¬Overcloses 0 p) ∧
    (∀ error, layoutTree indent t = .error error ↔
      ∃ p, FirstOverclosing 0 t p ∧ error = .unmatchedClose (p.length - 1)) ∧
    ∀ offset, (DumpError.unmatchedClose offset).ownKind? = some .unbalancedTree ∧
      (DumpError.unmatchedClose offset).message =
        "Unmatched closing parenthesis at offset ".toList ++ Text.decimal offset := by
  refine ⟨?_, ?_, fun error => ?_, fun offset => ⟨rfl, rfl⟩⟩
  · constructor
    · rintro ⟨error, h⟩
      obtain ⟨k, hk, -⟩ := layoutTree_eq_error_iff.mp h
      obtain ⟨p, hfirst, -⟩ := unmatched?_eq_some_iff.mp hk
      exact ⟨p, hfirst.begins, hfirst.overcloses⟩
    · rintro ⟨p, hp, hover⟩
      cases hunmatched : unmatched? 0 t with
      | none => exact absurd hover (unmatched?_eq_none_iff.mp hunmatched p hp)
      | some k => exact ⟨_, layoutTree_eq_error_iff.mpr ⟨k, hunmatched, rfl⟩⟩
  · rw [exists_layoutTree_eq_ok_iff, unmatched?_eq_none_iff]
  · rw [layoutTree_eq_error_iff]
    constructor
    · rintro ⟨k, hk, rfl⟩
      obtain ⟨p, hfirst, hlength⟩ := unmatched?_eq_some_iff.mp hk
      exact ⟨p, hfirst, by rw [hlength, Nat.add_sub_cancel]⟩
    · rintro ⟨p, hfirst, rfl⟩
      have hlength : p.length = p.length - 1 + 1 := by
        have hpos := hfirst.length_pos
        omega
      exact ⟨_, unmatched?_eq_some_iff.mpr ⟨p, hfirst, hlength⟩, rfl⟩

example : layoutTree ['-'] "(a  )\n)b)".toList = .error (.unmatchedClose 6) := by rfl

end SyntaxReport.Tree
