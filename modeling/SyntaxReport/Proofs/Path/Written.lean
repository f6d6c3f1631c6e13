import SyntaxReport.Proofs.Text.Pieces
import SyntaxReport.Report.Basic

/-!
# Paths as they are written

A path is written with a slash between its names. A name that a path keeps is not empty, is not a
single dot and has no slash in it, so the text is cut at the same places again when it is read.

Results:
* `Path.ofText_toText`: the text of a path is read as that path.
* `Path.plain_outputPath`: this holds of the path of every report.
* `Path.exists_toText_child`: the text of a path starts the texts of the paths below it.
* `Path.not_mem_toText_outputPath`: no characters come in on the way but slashes and the suffix.
-/

namespace SyntaxReport

namespace Path

/-! ## The text of a path -/

theorem toText_eq {path : Path} (h : path ≠ ⟨.relative, []⟩) :
    path.toText = path.root.toText ++ Text.joinWith ['/'] path.names := by
  obtain ⟨root, names⟩ := path
  cases root with
  | relative =>
    cases names with
    | nil => exact absurd rfl h
    | cons first more => rfl
  | single | double => rfl

/-- The text of a path starts the text of the paths below it; only the single dot does not. -/
theorem exists_toText_child {path : Path} (h : path ≠ ⟨.relative, []⟩) (name : Name) :
    ∃ rest, (path.child name).toText = path.toText ++ rest := by
  rw [toText_eq h, toText_eq (by simp [child])]
  by_cases hnames : path.names = []
  · exact ⟨name, by simp [child, hnames, Text.joinWith]⟩
  · exact ⟨['/'] ++ name, by simp [child, Text.joinWith_concat hnames]⟩

/-! ## Reading it back -/

/-- A path whose names can be told apart in its text. -/
def Plain (path : Path) : Prop :=
  ∀ name ∈ path.names, isKept name ∧ '/' ∉ name

/-- A root is read from its slashes, if no other slash follows. -/
theorem rootOfText_append (root : Root) {t : Text} (h : t.head? ≠ some '/') :
    Root.ofText (root.toText ++ t) = root := by
  have hslash (rest : Text) : t ≠ '/' :: rest := by
    rintro rfl
    exact h rfl
  cases root with
  | relative =>
    show Root.ofText t = .relative
    unfold Root.ofText
    split <;> simp_all
  | single =>
    show Root.ofText ('/' :: t) = .single
    unfold Root.ofText
    split <;> simp_all
  | double =>
    show Root.ofText ('/' :: '/' :: t) = .double
    unfold Root.ofText
    split <;> grind

/-- Between the slashes of the root nothing is kept. -/
theorem filter_pieces_root (root : Root) (t : Text) :
    (Text.pieces '/' (root.toText ++ t)).filter isKept = (Text.pieces '/' t).filter isKept := by
  have hslash (rest : Text) :
      (Text.pieces '/' ('/' :: rest)).filter isKept = (Text.pieces '/' rest).filter isKept := by
    rw [Text.pieces, if_pos rfl]
    rfl
  cases root with
  | relative => rfl
  | single => exact hslash t
  | double => exact (hslash ('/' :: t)).trans (hslash t)

theorem filter_pieces_joinWith {names : List Name}
    (h : ∀ name ∈ names, isKept name ∧ '/' ∉ name) :
    (Text.pieces '/' (Text.joinWith ['/'] names)).filter isKept = names := by
  by_cases hne : names = []
  · subst hne
    rfl
  · rw [Text.pieces_joinWith hne fun name hname => (h name hname).2, List.filter_eq_self]
    exact fun name hname => (h name hname).1

/-- Behind the root no slash follows. -/
theorem head?_joinWith_ne {names : List Name} (h : ∀ name ∈ names, isKept name ∧ '/' ∉ name) :
    (Text.joinWith ['/'] names).head? ≠ some '/' := by
  cases names with
  | nil => simp [Text.joinWith]
  | cons name more =>
    obtain ⟨hkept, hslash⟩ := h name List.mem_cons_self
    cases name with
    | nil => cases hkept
    | cons c name =>
      have hc : c ≠ '/' := fun hc => hslash (hc ▸ List.mem_cons_self)
      cases more <;> simpa [Text.joinWith] using hc

/-- The text of a path is read as that path. -/
theorem ofText_toText {path : Path} (h : path.Plain) : ofText path.toText = path := by
  by_cases hdot : path = ⟨.relative, []⟩
  · subst hdot
    rfl
  · rw [toText_eq hdot, ofText, rootOfText_append _ (head?_joinWith_ne h), filter_pieces_root,
      filter_pieces_joinWith h]

/-! ## Paths that are plain -/

theorem plain_ofText (t : Text) : (ofText t).Plain := by
  intro name hname
  obtain ⟨hpiece, hkept⟩ := List.mem_filter.mp hname
  exact ⟨hkept, Text.not_mem_of_mem_pieces hpiece⟩

theorem Plain.child {path : Path} (h : path.Plain) {name : Name} (hkept : isKept name)
    (hslash : '/' ∉ name) : (path.child name).Plain := by
  intro other hother
  rcases List.mem_append.mp hother with hmem | hmem
  · exact h other hmem
  · obtain rfl := List.mem_singleton.mp hmem
    exact ⟨hkept, hslash⟩

/-- The characters of a stem are characters of the name. -/
theorem stem_subset (path : Path) : path.stem ⊆ path.name := by
  unfold stem splitName
  dsimp only
  split
  · exact List.Subset.refl _
  · intro c hc
    exact List.mem_reverse.mp (List.mem_of_mem_drop (List.mem_reverse.mp hc))

/-- A character of the last name is one of a name. -/
theorem exists_mem_names_of_mem_name {path : Path} {c : Char} (h : c ∈ path.name) :
    ∃ name ∈ path.names, c ∈ name := by
  unfold name at h
  cases hlast : path.names.getLast? with
  | none => simp [hlast] at h
  | some last =>
    rw [hlast] at h
    exact ⟨last, List.mem_of_getLast? hlast, h⟩

/-- The path of a report is plain, whatever the source and the output directory. -/
theorem plain_outputPath (source directory : Text) : (outputPath source directory).Plain := by
  refine (plain_ofText directory).child ?_ ?_
  · have hsuffix : (4 : Nat) ≤ ((ofText source).stem ++ reportSuffix).length := by
      rw [List.length_append]
      exact Nat.le_add_left 4 _
    have hne (other : Text) (hother : other.length < 4) :
        (ofText source).stem ++ reportSuffix ≠ other := by
      rintro rfl
      omega
    simp [isKept, hne [] (by decide), hne ['.'] (by decide)]
  · intro hmem
    rcases List.mem_append.mp hmem with hstem | hsuffix
    · obtain ⟨name, hname, hin⟩ := exists_mem_names_of_mem_name (stem_subset _ hstem)
      exact (plain_ofText source name hname).2 hin
    · exact absurd hsuffix (by decide)

/-- The text of a report's path ends with the suffix. -/
theorem exists_toText_outputPath (source directory : Text) :
    ∃ rest, (outputPath source directory).toText = rest ++ reportSuffix := by
  have hnames : outputPath source directory ≠ ⟨.relative, []⟩ := by simp [outputPath, child]
  rw [toText_eq hnames]
  show ∃ rest, _ ++ Text.joinWith ['/'] ((ofText directory).names ++ [_ ++ reportSuffix]) = _
  by_cases htop : (ofText directory).names = []
  · rw [htop, List.nil_append, Text.joinWith, ← List.append_assoc]
    exact ⟨_, rfl⟩
  · rw [Text.joinWith_concat htop, ← List.append_assoc, ← List.append_assoc]
    exact ⟨_, rfl⟩

/-! ## The characters of a path -/

theorem mem_of_mem_ofText {t : Text} {name : Name} (hname : name ∈ (ofText t).names) {c : Char}
    (hc : c ∈ name) : c ∈ t :=
  Text.mem_of_mem_pieces (List.mem_filter.mp hname).1 hc

/-- The characters of a report's path are those of the source and of the output directory, apart
from slashes and the suffix. -/
theorem not_mem_toText_outputPath {source directory : Text} {c : Char} (hsource : c ∉ source)
    (hdirectory : c ∉ directory) (hslash : c ≠ '/') (hsuffix : c ∉ reportSuffix) :
    c ∉ (outputPath source directory).toText := by
  have hroot (root : Root) : c ∉ root.toText := by
    cases root <;> simp [Root.toText, hslash]
  have hnames : outputPath source directory ≠ ⟨.relative, []⟩ := by simp [outputPath, child]
  rw [toText_eq hnames]
  intro hmem
  have hjoined := (List.mem_append.mp hmem).resolve_left (hroot _)
  rcases Text.mem_joinWith hjoined with hseparator | ⟨name, hname, hc⟩
  · exact hslash (List.mem_singleton.mp hseparator)
  rcases List.mem_append.mp hname with hdir | hlast
  · exact hdirectory (mem_of_mem_ofText hdir hc)
  · obtain rfl := List.mem_singleton.mp hlast
    rcases List.mem_append.mp hc with hstem | hend
    · obtain ⟨name, hname, hin⟩ := exists_mem_names_of_mem_name (stem_subset _ hstem)
      exact hsource (mem_of_mem_ofText hname hin)
    · exact hsuffix hend

end Path

end SyntaxReport
