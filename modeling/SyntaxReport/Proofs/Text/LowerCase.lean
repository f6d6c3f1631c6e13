import SyntaxReport.Text.LowerCase

/-!
# Lower case and ASCII

The lower case of an ASCII character is found within ASCII. Beyond ASCII, the lower case of a
character shows something beyond ASCII as well, with one exception: that of the Kelvin sign is the
letter k. So an ASCII word without that letter is the lower case of nothing but its own spellings
in ASCII, whatever characters there are.

Results:
* `simpleLower_of_beyond`: the lower case of a single character beyond ASCII.
* `lower_eq_iff`: the texts of which an ASCII word is the lower case.
-/

namespace SyntaxReport.Text

variable {c : Char} {t : Text}

/-- The lower cases of a run lie beyond ASCII, and all of them are characters. -/
def CaseRun.StaysBeyond (run : CaseRun) : Prop :=
  0x80 ≤ run.lower ∧
    (run.lower + (run.last - run.first) < 0xD800 ∨
      0xDFFF < run.lower ∧ run.lower + (run.last - run.first) < 0x110000)

instance (run : CaseRun) : Decidable run.StaysBeyond := by
  unfold CaseRun.StaysBeyond
  infer_instance

/-- One run leads into ASCII, and all it holds is the Kelvin sign. -/
theorem staysBeyond_of_mem :
    ∀ run ∈ caseRuns, run.StaysBeyond ∨ run.first = run.last ∧ run.lower = 'k'.toNat := by
  have hall : caseRuns.all fun run =>
      decide (run.StaysBeyond ∨ run.first = run.last ∧ run.lower = 'k'.toNat) := by decide +kernel
  intro run hmem
  exact of_decide_eq_true (List.all_eq_true.mp hall run hmem)

/-- Beyond ASCII, only the letter k is the lower case of a character within. -/
theorem simpleLower_of_beyond (h : 0x80 ≤ c.toNat) :
    0x80 ≤ (simpleLower c).toNat ∨ simpleLower c = 'k' := by
  unfold simpleLower
  rw [if_neg (Nat.not_lt.mpr h)]
  split
  case h_2 => exact .inl h
  case h_1 run hfind =>
    have hlists := List.find?_some hfind
    simp only [CaseRun.lists, Bool.and_eq_true, decide_eq_true_eq] at hlists
    obtain ⟨⟨hfirst, hlast⟩, -⟩ := hlists
    rcases staysBeyond_of_mem run (List.mem_of_find?_eq_some hfind) with ⟨hlower, hvalid⟩ | hkelvin
    · have hchar : (run.lower + (c.toNat - run.first)).isValidChar := by
        unfold Nat.isValidChar
        omega
      rw [Char.ofNat, dif_pos hchar]
      exact .inl (show 0x80 ≤ run.lower + (c.toNat - run.first) by omega)
    · have hzero : c.toNat - run.first = 0 := by omega
      rw [hzero, hkelvin.2]
      exact .inr rfl

/-- ASCII's own lower case leaves other characters alone. -/
theorem toLower_of_beyond (h : 0x80 ≤ c.toNat) : c.toLower = c := by
  unfold Char.toLower
  rw [dif_neg]
  rintro ⟨-, hlast⟩
  have hle : c.toNat ≤ 'Z'.toNat := UInt32.le_iff_toNat_le.mp hlast
  have hZ : 'Z'.toNat = 90 := rfl
  omega

/-! ## Characters of a text -/

theorem lowerBetween_of_ascii (h : c.toNat < 0x80) (before after : Text) :
    lowerBetween before c after = [c.toLower] := by
  have hI : c ≠ 'İ' := by
    rintro rfl
    exact absurd h (by decide)
  have hsigma : c ≠ 'Σ' := by
    rintro rfl
    exact absurd h (by decide)
  rw [lowerBetween, if_neg hI, if_neg (fun hand => hsigma hand.1), simpleLower, if_pos h]

/-- A character beyond ASCII cannot become an ASCII word without the letter k. -/
theorem exists_mem_lowerBetween (h : 0x80 ≤ c.toNat) (before after : Text) :
    ∃ d ∈ lowerBetween before c after, 0x80 ≤ d.toNat ∨ d = 'k' := by
  unfold lowerBetween
  split
  · exact ⟨'\u0307', by decide, .inl (by decide)⟩
  split
  · exact ⟨'ς', by decide, .inl (by decide)⟩
  · exact ⟨simpleLower c, List.mem_singleton_self _, simpleLower_of_beyond h⟩

theorem lowerBehind_of_ascii (h : ∀ c ∈ t, c.toNat < 0x80) (before : Text) :
    lowerBehind before t = t.map Char.toLower := by
  induction t generalizing before with
  | nil => rfl
  | cons c t ih =>
    obtain ⟨hc, ht⟩ := List.forall_mem_cons.mp h
    rw [lowerBehind, lowerBetween_of_ascii hc, ih ht, List.map_cons, List.singleton_append]

theorem ascii_of_lowerBehind {before : Text}
    (h : ∀ d ∈ lowerBehind before t, d.toNat < 0x80 ∧ d ≠ 'k') : ∀ c ∈ t, c.toNat < 0x80 := by
  induction t generalizing before with
  | nil => simp
  | cons c t ih =>
    obtain ⟨hc, ht⟩ := List.forall_mem_append.mp h
    refine List.forall_mem_cons.mpr ⟨Nat.lt_of_not_le fun hbeyond => ?_, ih ht⟩
    obtain ⟨d, hmem, hd⟩ := exists_mem_lowerBetween hbeyond before t
    rcases hd with hd | rfl
    · exact absurd (hc d hmem).1 (Nat.not_lt.mpr hd)
    · exact (hc 'k' hmem).2 rfl

/-- An ASCII word without the letter k is the lower case of the texts of which it is the lower case
within ASCII, and of no others. -/
theorem lower_eq_iff {word : Text} (h : ∀ c ∈ word, c.toNat < 0x80 ∧ c ≠ 'k') :
    lower t = word ↔ t.map Char.toLower = word := by
  constructor
  · rintro rfl
    exact (lowerBehind_of_ascii (ascii_of_lowerBehind h) []).symm
  · rintro rfl
    refine lowerBehind_of_ascii (fun c hc => Nat.lt_of_not_le fun hbeyond => ?_) []
    have hlower := (h _ (List.mem_map_of_mem hc)).1
    rw [toLower_of_beyond hbeyond] at hlower
    exact absurd hlower (Nat.not_lt.mpr hbeyond)

end SyntaxReport.Text
