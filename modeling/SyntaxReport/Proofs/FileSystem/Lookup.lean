import SyntaxReport.Proofs.FileSystem.Persistence

/-!
# Whether a path names a file

A path that leads nowhere is no file, and the question has an answer. It has none only if a name has
too many bytes and the way to it leads through directories, so that it would have to be looked up
there; if the text of the path has too many bytes; or if the way leads to a directory that may not
be searched.

Results:
* `walk_eq_nameTooLong_iff`, `walk_eq_permissionDenied_iff`: a walk fails at the first long name
  that it meets in a directory, and at the first directory that it may not search.
* `isFile_eq_error_iff`: when the question has no answer.
* `isFile_eq_ok_true_iff`, `isFile_eq_ok_false_iff`: a path names a file if and only if it can be
  read.
-/

namespace SyntaxReport.FileSystem

variable {fs : FileSystem} {path : Path} {names : List Name} {here : Location}

/-- What makes a path too long to be looked up: the text as a whole, or a name in a directory to
which the path leads. A text with a NUL in it is no path, however long it is. -/
def TooLong (fs : FileSystem) (path : Path) : Prop :=
  Char.ofNat 0 ∉ path.toText ∧
    (pathLimit ≤ (Encoding.Utf8.encode path.toText).length ∨
      ∃ above name below directory, path.names = above ++ name :: below ∧ isTooLong name ∧
        fs.walk (fs.start path.root) above = .ok directory ∧ fs.enter directory = .ok ())

/-- The path leads to a directory in which its next name, or the single dot that it is, would have
to be looked up, but that may not be searched. -/
def Barred (fs : FileSystem) (path : Path) : Prop :=
  checkPath path = .ok () ∧ ∃ above directory, above <+: path.names ∧
    (above = path.names → path = ⟨.relative, []⟩) ∧
    fs.walk (fs.start path.root) above = .ok directory ∧
    fs.isDirectoryAt directory ∧ fs.allows .search directory = false

theorem checkPath_eq_ok_iff :
    checkPath path = .ok () ↔
      Char.ofNat 0 ∉ path.toText ∧
        (Encoding.Utf8.encode path.toText).length < pathLimit := by
  unfold checkPath
  split_ifs with hnull hlong
  · simp_all
  · simp only [false_iff, not_and, Nat.not_lt]
    exact fun _ => hlong
  · simp only [List.contains_eq_mem, decide_eq_true_eq] at hnull
    simp only [true_iff]
    exact ⟨hnull, Nat.not_le.mp hlong⟩

theorem enter_eq_permissionDenied_iff :
    fs.enter here = .error .permissionDenied ↔
      fs.isDirectoryAt here ∧ fs.allows .search here = false := by
  unfold enter
  split_ifs <;> simp_all

theorem enter_eq_error {fault : SystemFault} (h : fs.enter here = .error fault) :
    fault = .notDirectory ∨ fault = .permissionDenied := by
  unfold enter at h
  split_ifs at h <;> cases h
  · exact .inl rfl
  · exact .inr rfl

/-- A walk fails where it cannot enter a location. -/
theorem walk_of_enter {fault : SystemFault} {name : Name} {more : List Name}
    (h : fs.enter here = .error fault) : fs.walk here (name :: more) = .error fault := by
  rw [walk, h]

/-- Where a walk can enter, it fails at a long name, at a missing one, or further on. -/
theorem walk_cons_eq_error_iff {fault : SystemFault} {name : Name} {more : List Name}
    (henter : fs.enter here = .ok ()) :
    fs.walk here (name :: more) = .error fault ↔
      name = upward ∧ fs.walk here.tail more = .error fault ∨
      name ≠ upward ∧
        (isTooLong name ∧ fault = .nameTooLong ∨
          isTooLong name = false ∧
            (fs.lookup (fs.resolve (name :: here)) = none ∧ fault = .noEntry ∨
              fs.lookup (fs.resolve (name :: here)) ≠ none ∧
                fs.walk (fs.resolve (name :: here)) more = .error fault)) := by
  rw [walk, henter]
  dsimp only
  by_cases hup : name = upward
  · simp [hup]
  · cases hlong : isTooLong name with
    | true => simp [hup, eq_comm]
    | false =>
      cases hlookup : fs.lookup (fs.resolve (name :: here)) with
      | none => simp [hup, eq_comm]
      | some entry => simp [hup]

/-- A walk meets a long name if and only if it gets to a directory in front of one. -/
theorem walk_eq_nameTooLong_iff :
    fs.walk here names = .error .nameTooLong ↔
      ∃ above name below directory, names = above ++ name :: below ∧ isTooLong name ∧
        fs.walk here above = .ok directory ∧ fs.enter directory = .ok () := by
  constructor
  · intro h
    induction names generalizing here with
    | nil => cases h
    | cons first more ih =>
      cases henter : fs.enter here with
      | error fault =>
        obtain rfl := Except.error.inj ((walk_of_enter henter).symm.trans h)
        rcases enter_eq_error henter with hfault | hfault <;> cases hfault
      | ok _ =>
        obtain ⟨hup, hmore⟩ | ⟨hup, ⟨hlong, -⟩ | ⟨hshort, ⟨-, hfault⟩ | ⟨hsome, hmore⟩⟩⟩ :=
          (walk_cons_eq_error_iff henter).mp h
        · obtain ⟨above, name, below, directory, rfl, hname, hwalk, hend⟩ := ih hmore
          exact ⟨first :: above, name, below, directory, rfl, hname,
            walk_cons_eq_ok_iff.mpr ⟨henter, .inl ⟨hup, hwalk⟩⟩, hend⟩
        · exact ⟨[], first, more, here, rfl, hlong, rfl, henter⟩
        · cases hfault
        · obtain ⟨above, name, below, directory, rfl, hname, hwalk, hend⟩ := ih hmore
          exact ⟨first :: above, name, below, directory, rfl, hname,
            walk_cons_eq_ok_iff.mpr ⟨henter, .inr ⟨hup, hshort, hsome, hwalk⟩⟩, hend⟩
  · rintro ⟨above, name, below, directory, rfl, hlong, hwalk, henter⟩
    have hup : name ≠ upward := by
      rintro rfl
      exact absurd hlong (by decide)
    rw [walk_append, hwalk]
    exact (walk_cons_eq_error_iff henter).mpr (.inr ⟨hup, .inl ⟨hlong, rfl⟩⟩)

/-- A walk is barred if and only if it gets to a directory that it may not search. -/
theorem walk_eq_permissionDenied_iff :
    fs.walk here names = .error .permissionDenied ↔
      ∃ above directory, above <+: names ∧ above ≠ names ∧ fs.walk here above = .ok directory ∧
        fs.isDirectoryAt directory ∧ fs.allows .search directory = false := by
  constructor
  · intro h
    induction names generalizing here with
    | nil => cases h
    | cons first more ih =>
      cases henter : fs.enter here with
      | error fault =>
        obtain rfl := Except.error.inj ((walk_of_enter henter).symm.trans h)
        exact ⟨[], here, List.nil_prefix, (List.cons_ne_nil first more).symm, rfl,
          enter_eq_permissionDenied_iff.mp henter⟩
      | ok _ =>
        obtain ⟨hup, hmore⟩ | ⟨hup, ⟨-, hfault⟩ | ⟨hshort, ⟨-, hfault⟩ | ⟨hsome, hmore⟩⟩⟩ :=
          (walk_cons_eq_error_iff henter).mp h
        · obtain ⟨above, directory, habove, hne, hwalk, hend⟩ := ih hmore
          exact ⟨first :: above, directory, (List.prefix_cons_inj first).mpr habove,
            fun heq => hne (List.cons.inj heq).2,
            walk_cons_eq_ok_iff.mpr ⟨henter, .inl ⟨hup, hwalk⟩⟩, hend⟩
        · cases hfault
        · cases hfault
        · obtain ⟨above, directory, habove, hne, hwalk, hend⟩ := ih hmore
          exact ⟨first :: above, directory, (List.prefix_cons_inj first).mpr habove,
            fun heq => hne (List.cons.inj heq).2,
            walk_cons_eq_ok_iff.mpr ⟨henter, .inr ⟨hup, hshort, hsome, hwalk⟩⟩, hend⟩
  · rintro ⟨above, directory, ⟨below, rfl⟩, hne, hwalk, hdenied⟩
    rw [walk_append, hwalk]
    cases below with
    | nil => exact absurd (List.append_nil above).symm hne
    | cons name more => exact walk_of_enter (enter_eq_permissionDenied_iff.mpr hdenied)

/-- What the single dot is refused for. -/
theorem checkDot_eq_error {fault : SystemFault} (h : fs.checkDot path = .error fault) :
    path = ⟨.relative, []⟩ ∧ fs.enter fs.workingDirectory = .error fault := by
  unfold checkDot at h
  split at h
  · exact ⟨rfl, h⟩
  · cases h

/-- A path is refused for its length if and only if it is too long to be looked up. -/
theorem locate_eq_nameTooLong_iff : fs.locate path = .error .nameTooLong ↔ fs.TooLong path := by
  cases hcheck : checkPath path with
  | error fault =>
    rw [locate, hcheck, TooLong]
    unfold checkPath at hcheck
    split_ifs at hcheck with hnull hlong <;> cases hcheck
    · have hmem : Char.ofNat 0 ∈ path.toText := by simpa using hnull
      simp [hmem]
    · have hmem : Char.ofNat 0 ∉ path.toText := by simpa using hnull
      exact iff_of_true rfl ⟨hmem, .inl hlong⟩
  | ok _ =>
    obtain ⟨hnull, hshort⟩ := checkPath_eq_ok_iff.mp hcheck
    rw [TooLong, ← walk_eq_nameTooLong_iff, locate, hcheck]
    cases hdot : fs.checkDot path with
    | error fault =>
      obtain ⟨rfl, henter⟩ := checkDot_eq_error hdot
      refine iff_of_false (fun h => ?_) ?_
      · obtain rfl := Except.error.inj h
        rcases enter_eq_error henter with hfault | hfault <;> cases hfault
      · rintro ⟨-, hlong | hwalk⟩
        · exact absurd hlong (Nat.not_le.mpr hshort)
        · cases hwalk
    | ok _ =>
      constructor
      · exact fun hwalk => ⟨hnull, .inr hwalk⟩
      · rintro ⟨-, hlong | hwalk⟩
        · exact absurd hlong (Nat.not_le.mpr hshort)
        · exact hwalk

/-- A path is refused for a missing right if and only if it is barred. -/
theorem locate_eq_permissionDenied_iff :
    fs.locate path = .error .permissionDenied ↔ fs.Barred path := by
  rw [Barred]
  cases hcheck : checkPath path with
  | error fault =>
    refine iff_of_false (fun h => ?_) (fun h => by cases h.1)
    rw [locate, hcheck] at h
    obtain rfl := Except.error.inj h
    unfold checkPath at hcheck
    split_ifs at hcheck <;> cases hcheck
  | ok _ =>
    simp only [true_and]
    constructor
    · intro h
      rw [locate, hcheck] at h
      cases hdot : fs.checkDot path with
      | error fault =>
        rw [hdot] at h
        obtain rfl := Except.error.inj h
        obtain ⟨rfl, henter⟩ := checkDot_eq_error hdot
        exact ⟨[], _, List.nil_prefix, fun _ => rfl, rfl, enter_eq_permissionDenied_iff.mp henter⟩
      | ok _ =>
        rw [hdot] at h
        obtain ⟨above, directory, habove, hne, hdenied⟩ := walk_eq_permissionDenied_iff.mp h
        exact ⟨above, directory, habove, fun heq => absurd heq hne, hdenied⟩
    · rintro ⟨above, directory, habove, hend, hwalk, hdenied⟩
      by_cases hall : above = path.names
      · obtain rfl := hend hall
        obtain rfl := List.prefix_nil.mp habove
        obtain rfl := Except.ok.inj hwalk
        have henter : fs.enter fs.workingDirectory = .error .permissionDenied :=
          enter_eq_permissionDenied_iff.mpr hdenied
        simp only [locate, hcheck, checkDot, henter]
      · have hdot : fs.checkDot path = .ok () := checkDot_eq_ok_iff.mpr fun hpath => by
          subst hpath
          exact absurd (List.prefix_nil.mp habove) hall
        rw [locate, hcheck, hdot]
        exact walk_eq_permissionDenied_iff.mpr ⟨above, directory, habove, hall, hwalk, hdenied⟩

/-! ## A single name -/

/-- A text without a slash, unless it is empty or a single dot, is a path of one name. -/
theorem ofText_of_not_mem {t : Text} (hslash : '/' ∉ t) (hkept : Path.isKept t) :
    Path.ofText t = ⟨.relative, [t]⟩ := by
  have hplain : Path.Plain ⟨.relative, [t]⟩ := List.forall_mem_singleton.mpr ⟨hkept, hslash⟩
  exact Path.ofText_toText hplain

/-- A long name is too long to be looked up in the working directory. -/
theorem tooLong_of_isTooLong {t : Text} (henter : fs.enter fs.workingDirectory = .ok ())
    (hslash : '/' ∉ t) (hnull : Char.ofNat 0 ∉ t) (hlong : isTooLong t) :
    fs.TooLong (Path.ofText t) := by
  have hempty : t ≠ [] := by
    rintro rfl
    exact absurd hlong (by decide)
  have hdot : t ≠ ['.'] := by
    rintro rfl
    exact absurd hlong (by decide)
  have hkept : Path.isKept t := by simp [Path.isKept, hempty, hdot]
  rw [ofText_of_not_mem hslash hkept]
  exact ⟨by simpa [Path.toText, Root.toText, Text.joinWith] using hnull,
    .inr ⟨[], t, [], _, rfl, hlong, rfl, henter⟩⟩

/-! ## The answers -/

/-- Whether a path names a file has no answer if and only if the path is too long, or barred. -/
theorem isFile_eq_error_iff {fault : SystemFault} :
    fs.isFile path = .error fault ↔
      fault = .nameTooLong ∧ fs.TooLong path ∨ fault = .permissionDenied ∧ fs.Barred path := by
  rw [← locate_eq_nameTooLong_iff, ← locate_eq_permissionDenied_iff]
  unfold isFile stat
  cases hlocate : fs.locate path with
  | error other => cases other <;> simp [Except.map, SystemFault.leavesOpen, eq_comm]
  | ok location =>
    cases hlookup : fs.lookup location with
    | none => simp [Except.map, hlookup]
    | some entry => cases entry <;> simp [Except.map, hlookup]

/-- A path names a file if and only if it can be read. -/
theorem isFile_eq_ok_true_iff :
    fs.isFile path = .ok true ↔ ∃ content, fs.readFile path = .ok content := by
  unfold isFile readFile
  cases fs.stat path with
  | error fault => cases hopen : fault.leavesOpen <;> simp [hopen]
  | ok entry =>
    cases entry with
    | none => simp
    | some entry => cases entry <;> simp

/-- A path is known to be no file if and only if it is none, and neither too long nor barred. -/
theorem isFile_eq_ok_false_iff :
    fs.isFile path = .ok false ↔
      (∀ content, fs.readFile path ≠ .ok content) ∧ ¬fs.TooLong path ∧ ¬fs.Barred path := by
  have htrue : fs.isFile path = .ok true ↔ ∃ content, fs.readFile path = .ok content :=
    isFile_eq_ok_true_iff
  cases hanswer : fs.isFile path with
  | error fault =>
    rcases isFile_eq_error_iff.mp hanswer with ⟨-, hlong⟩ | ⟨-, hbarred⟩
    · simp [hlong]
    · simp [hbarred]
  | ok answer =>
    have hshort : ¬fs.TooLong path := by
      intro hlong
      rw [isFile_eq_error_iff.mpr (.inl ⟨rfl, hlong⟩)] at hanswer
      cases hanswer
    have hopen : ¬fs.Barred path := by
      intro hbarred
      rw [isFile_eq_error_iff.mpr (.inr ⟨rfl, hbarred⟩)] at hanswer
      cases hanswer
    rw [hanswer] at htrue
    cases answer <;> simp_all

end SyntaxReport.FileSystem
