import SyntaxReport.Proofs.Path.Written
import SyntaxReport.Proofs.Report.Writing

/-!
# The file of a report

A report is kept in the output directory, under the stem of the source's name. Slashes and dots can
stand anywhere in both texts; the name that comes out is always a single proper one. What is lost of
the source is its directory and its suffix, and nothing else.

Results:
* `Path.splitName_append`, `Path.exists_eq_append_of_suffix`: a name is cut before its last dot if
  that has something on both sides, and only then.
* `Path.ofText_underText`: adding a name to a directory is putting it behind the directory's text.
* `outputPath_by_stem`: reports stay in the output directory, they share a file exactly if they
  agree in directory and stem, and reporting on a report in its place overwrites it.
-/

namespace SyntaxReport

namespace Path

/-! ## Cutting a name -/

theorem bne_dot_of_mem_reverse {t : Text} (h : '.' ∉ t) : ∀ c ∈ t.reverse, (c != '.') = true := by
  intro c hc
  rw [bne_iff_ne]
  rintro rfl
  exact h (List.mem_reverse.mp hc)

/-- The last dot of a name ends its stem, unless it has nothing on one of its sides. -/
theorem splitName_append_cons (stem : Text) {extension : Text} (hdot : '.' ∉ extension) :
    splitName (stem ++ '.' :: extension) =
      if extension = [] ∨ stem = [] then (stem ++ '.' :: extension, [])
      else (stem, '.' :: extension) := by
  have hreverse : (stem ++ '.' :: extension).reverse =
      extension.reverse ++ '.' :: stem.reverse := by simp
  -- read from its end, the name starts with the extension and then a dot
  have htake : (stem ++ '.' :: extension).reverse.takeWhile (· != '.') = extension.reverse := by
    rw [hreverse, List.takeWhile_append_of_pos (bne_dot_of_mem_reverse hdot)]
    simp
  have hdrop : ((stem ++ '.' :: extension).reverse.drop
      (extension.reverse.length + 1)).reverse = stem := by
    rw [hreverse, List.drop_append]
    simp
  unfold splitName
  simp only [htake, hdrop]
  simp

/-- A name is cut before its last dot, if that has something on both sides. -/
theorem splitName_append {stem extension : Text} (hstem : stem ≠ []) (hne : extension ≠ [])
    (hdot : '.' ∉ extension) :
    splitName (stem ++ '.' :: extension) = (stem, '.' :: extension) := by
  rw [splitName_append_cons stem hdot, if_neg (not_or.mpr ⟨hne, hstem⟩)]

/-- A name without a dot is all stem. -/
theorem splitName_of_not_mem {name : Name} (h : '.' ∉ name) : splitName name = (name, []) := by
  have htake : (name.reverse ++ []).takeWhile (· != '.') = name.reverse := by
    rw [List.takeWhile_append_of_pos (bne_dot_of_mem_reverse h)]
    simp
  rw [List.append_nil] at htake
  unfold splitName
  simp [htake]

/-- If a name has a suffix, then that starts with the last dot, and there is something on both sides
of it. -/
theorem exists_eq_append_of_suffix {name : Name} (h : (splitName name).2 ≠ []) :
    ∃ stem extension, stem ≠ [] ∧ extension ≠ [] ∧ '.' ∉ extension ∧
      name = stem ++ '.' :: extension := by
  by_cases hmem : '.' ∈ name.reverse
  · obtain ⟨behind, before, hname, hdot⟩ := List.eq_append_cons_of_mem hmem
    obtain rfl : name = before.reverse ++ '.' :: behind.reverse := by
      rw [← List.reverse_reverse name, hname]
      simp
    have hbehind : '.' ∉ behind.reverse := fun hmem => hdot (List.mem_reverse.mp hmem)
    rw [splitName_append_cons _ hbehind] at h
    split at h
    case isTrue => exact absurd rfl h
    case isFalse hsides =>
      rw [not_or] at hsides
      exact ⟨_, _, hsides.2, hsides.1, hbehind, rfl⟩
  · rw [splitName_of_not_mem (fun h => hmem (List.mem_reverse.mpr h))] at h
    exact absurd rfl h

/-! ## A name below a directory -/

@[simp]
theorem name_child (path : Path) (name : Name) : (path.child name).name = name := by
  simp [child, Path.name]

@[simp]
theorem parent_child (path : Path) (name : Name) : (path.child name).parent = path := by
  simp [child, parent]

theorem stem_child (path : Path) {stem extension : Text} (hstem : stem ≠ [])
    (hne : extension ≠ []) (hdot : '.' ∉ extension) :
    (path.child (stem ++ '.' :: extension)).stem = stem := by
  rw [Path.stem, name_child, splitName_append hstem hne hdot]

/-- A path tells the directory and the name that it was made of. -/
theorem child_eq_child_iff {path other : Path} {name otherName : Name} :
    path.child name = other.child otherName ↔ path = other ∧ name = otherName := by
  constructor
  · intro h
    have hparent := congrArg parent h
    have hname := congrArg Path.name h
    rw [parent_child, parent_child] at hparent
    rw [name_child, name_child] at hname
    exact ⟨hparent, hname⟩
  · rintro ⟨rfl, rfl⟩
    rfl

/-- The text of a directory and a name behind it, with a slash between them if one is missing. -/
def underText (directory : Text) (name : Name) : Text :=
  if directory = [] ∨ directory.getLast? = some '/' then directory ++ name
  else directory ++ '/' :: name

/-- What stands behind a directory does not change where the directory starts, as long as no two
slashes meet. -/
theorem rootOfText_append_right {directory t : Text} (hne : directory ≠ [])
    (h : directory.getLast? = some '/' → t.head? ≠ some '/') :
    Root.ofText (directory ++ t) = Root.ofText directory := by
  obtain ⟨a, rest, rfl⟩ := List.exists_cons_of_ne_nil hne
  by_cases ha : a ≠ '/'
  · simp [Root.ofText, ha]
  obtain rfl := Decidable.not_not.mp ha
  cases rest with
  | nil => exact rootOfText_append .single (h rfl)
  | cons b rest =>
    by_cases hb : b ≠ '/'
    · simp [Root.ofText, hb]
    obtain rfl := Decidable.not_not.mp hb
    cases rest with
    | nil => exact rootOfText_append .double (h rfl)
    | cons c rest =>
      by_cases hc : c = '/'
      · subst hc
        rfl
      · simp [Root.ofText, hc]

theorem ofText_eq_child {t directory : Text} {name : Name}
    (hroot : Root.ofText t = Root.ofText directory)
    (hnames : (Text.pieces '/' t).filter isKept =
      (Text.pieces '/' directory).filter isKept ++ [name]) :
    ofText t = (ofText directory).child name := by
  rw [ofText, hroot, hnames]
  rfl

/-- Adding a name to a directory is putting it behind the directory's text. -/
theorem ofText_underText (directory : Text) {name : Name} (hkept : isKept name)
    (hslash : '/' ∉ name) : ofText (underText directory name) = (ofText directory).child name := by
  have hhead : name.head? ≠ some '/' := fun h => hslash (List.mem_of_mem_head? h)
  have hname : (Text.pieces '/' name).filter isKept = [name] := by
    rw [Text.pieces_of_not_mem hslash]
    simp [hkept]
  have hbelow (above : Text) : (Text.pieces '/' (above ++ '/' :: name)).filter isKept =
      (Text.pieces '/' above).filter isKept ++ [name] := by
    rw [Text.pieces_append_cons, List.filter_append, hname]
  unfold underText
  split
  case isTrue h =>
    rcases h with rfl | hlast
    · -- the working directory leaves no trace in the text
      exact ofText_eq_child (rootOfText_append .relative hhead) hname
    · obtain ⟨above, rfl⟩ := List.getLast?_eq_some_iff.mp hlast
      have hroot := rootOfText_append_right (by simp : above ++ ['/'] ≠ []) fun _ => hhead
      have htrailing : (Text.pieces '/' (above ++ ['/'])).filter isKept =
          (Text.pieces '/' above).filter isKept := by
        rw [Text.pieces_append_cons, List.filter_append]
        exact List.append_nil _
      refine ofText_eq_child hroot ?_
      rw [List.append_assoc, List.singleton_append, hbelow, htrailing]
  case isFalse h =>
    rw [not_or] at h
    have hroot := rootOfText_append_right (t := '/' :: name) h.1 fun hlast => absurd hlast h.2
    exact ofText_eq_child hroot (hbelow directory)

end Path

/-! ## Reports by directory and stem -/

/-- Reporting on a report finds its own stem again. -/
theorem stem_outputPath {source : Text} (hstem : (Path.ofText source).stem ≠ [])
    (directory : Text) : (outputPath source directory).stem = (Path.ofText source).stem :=
  Path.stem_child _ hstem (by decide : "txt".toList ≠ []) (by decide)

/-- Two sources are reported to one file exactly if the directories and the stems agree. -/
theorem outputPath_eq_outputPath_iff {source directory source' directory' : Text} :
    outputPath source directory = outputPath source' directory' ↔
      Path.ofText directory = Path.ofText directory' ∧
        (Path.ofText source).stem = (Path.ofText source').stem := by
  rw [outputPath, outputPath, Path.child_eq_child_iff, List.append_left_inj]

/-- A report stays in the output directory and collides only by stem. Its path is read again as it
is written, and it is what the directory's text denotes with the name behind it. Its parent is the
directory; its name is the stem with the suffix, a name that stands for nothing but a file there.
Two reports share a path exactly if they agree in directory and stem. The report on a report in the
same directory takes its place, exactly if there is a stem. -/
theorem outputPath_by_stem (source directory : Text) :
    ((outputPath source directory).Plain ∧
      Path.ofText (outputPath source directory).toText = outputPath source directory ∧
      outputPath source directory =
        Path.ofText (Path.underText directory ((Path.ofText source).stem ++ reportSuffix))) ∧
    ((outputPath source directory).parent = Path.ofText directory ∧
      (outputPath source directory).name = (Path.ofText source).stem ++ reportSuffix ∧
      (outputPath source directory).name ∉ [[], ['.'], ['.', '.']] ∧
      '/' ∉ (outputPath source directory).name) ∧
    (∀ source' directory', outputPath source directory = outputPath source' directory' ↔
      Path.ofText directory = Path.ofText directory' ∧
        (Path.ofText source).stem = (Path.ofText source').stem) ∧
    (outputPath (outputPath source directory).toText directory = outputPath source directory ↔
      (Path.ofText source).stem ≠ []) := by
  have hplain := Path.plain_outputPath source directory
  have hname : (outputPath source directory).name = (Path.ofText source).stem ++ reportSuffix :=
    Path.name_child ..
  have hmem : (outputPath source directory).name ∈ (outputPath source directory).names := by
    rw [hname]
    exact List.mem_append_right _ List.mem_cons_self
  obtain ⟨hkept, hslash⟩ := hplain _ hmem
  refine ⟨⟨hplain, Path.ofText_toText hplain, ?_⟩, ⟨parent_outputPath .., hname, ?_, hslash⟩,
    fun _ _ => outputPath_eq_outputPath_iff, ?_⟩
  · rw [hname] at hkept hslash
    exact (Path.ofText_underText directory hkept hslash).symm
  · -- the suffix alone is longer than the components that name no file
    have hlong (other : Text) (hother : other.length < 4) :
        (outputPath source directory).name ≠ other := by
      rintro rfl
      have hlength := congrArg List.length hname
      rw [List.length_append] at hlength
      have hsuffix : reportSuffix.length = 4 := rfl
      omega
    simp [hlong]
  · rw [outputPath_eq_outputPath_iff, Path.ofText_toText hplain]
    constructor
    · rintro ⟨-, hstem⟩ hnone
      have hhidden : (outputPath source directory).stem = reportSuffix := by
        unfold Path.stem
        rw [hname, hnone]
        decide
      rw [hnone, hhidden] at hstem
      exact absurd hstem (by decide)
    · exact fun hstem => ⟨rfl, stem_outputPath hstem directory⟩

/-- Only dots and a suffix: the stem is a single dot, and the name keeps both. -/
example : (outputPath "a/..py".toList "//b/.//".toList).toText = "//b/..txt".toList := by decide

end SyntaxReport
