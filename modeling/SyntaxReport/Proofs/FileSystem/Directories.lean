import SyntaxReport.Proofs.FileSystem.Persistence

/-!
# Making directories

Whether it succeeds or not, making a directory and those above it leaves every entry as it is; all
that it adds are directories, where nothing stood and where its path leads through. `MakeEnd` lists
the ways in which it ends.

Results:
* `makeDirectoriesUp_ends`: there are no other ways.
* `makeDirectories_adds`: only directories are new.
* `AddsDirectories.sameFiles`: so no file is changed, made or removed.
* `sameFiles_put_iff`: when writing a file changes nothing.
* `locate_of_makeDirectories`: what is new stands on the path.
* `isDirectory_of_makeDirectories`: in the end the path leads through directories.
* `makeDirectories_of_isDirectory`: where a directory is there already, nothing changes.
-/

namespace SyntaxReport.FileSystem

variable {fs made after : FileSystem}

/-- The second file system is the first with more directories. -/
structure AddsDirectories (fs made : FileSystem) : Prop where
  workingDirectory_eq : made.workingDirectory = fs.workingDirectory
  denied_eq : made.denied = fs.denied
  links_eq : made.links = fs.links
  lookup_eq : ∀ location, made.lookup location = fs.lookup location ∨
    fs.lookup location = none ∧ made.lookup location = some .directory

theorem AddsDirectories.refl (fs : FileSystem) : AddsDirectories fs fs :=
  ⟨rfl, rfl, rfl, fun _ => .inl rfl⟩

theorem AddsDirectories.trans (h : AddsDirectories fs made) (h' : AddsDirectories made after) :
    AddsDirectories fs after where
  workingDirectory_eq := h'.workingDirectory_eq.trans h.workingDirectory_eq
  denied_eq := h'.denied_eq.trans h.denied_eq
  links_eq := h'.links_eq.trans h.links_eq
  lookup_eq location := by
    rcases h'.lookup_eq location with h₂ | ⟨hnone, hsome⟩
    · rw [h₂]
      exact h.lookup_eq location
    · rcases h.lookup_eq location with h₁ | ⟨-, h₁⟩
      · exact .inr ⟨h₁ ▸ hnone, hsome⟩
      · rw [h₁] at hnone
        cases hnone

theorem addsDirectories_put {location : Location} (h : fs.lookup location = none) :
    AddsDirectories fs (fs.put location .directory) where
  workingDirectory_eq := rfl
  denied_eq := rfl
  links_eq := rfl
  lookup_eq other := by
    have hne : location ≠ [] := by
      rintro rfl
      simp [lookup] at h
    rw [lookup_put _ _ hne]
    split_ifs with heq
    · exact .inr ⟨heq ▸ h, rfl⟩
    · exact .inl rfl

theorem AddsDirectories.persists (h : AddsDirectories fs made) : Persists fs made where
  workingDirectory_eq := h.workingDirectory_eq
  denied_eq := h.denied_eq
  links_eq := h.links_eq
  directory location hdir := by
    rw [isDirectoryAt] at hdir ⊢
    rcases h.lookup_eq location with heq | ⟨-, hsome⟩
    · rw [heq]
      exact hdir
    · simp [hsome]
  vacant location hnone := by
    rcases h.lookup_eq location with heq | ⟨hnone, -⟩
    · rw [← heq, hnone]
    · exact hnone

/-! ## Files -/

/-- Both file systems have the same files, with the same contents. -/
def SameFiles (fs after : FileSystem) : Prop :=
  ∀ location content,
    after.lookup location = some (.file content) ↔ fs.lookup location = some (.file content)

theorem SameFiles.refl (fs : FileSystem) : SameFiles fs fs := fun _ _ => .rfl

theorem SameFiles.symm (h : SameFiles fs after) : SameFiles after fs :=
  fun location content => (h location content).symm

theorem SameFiles.trans (h : SameFiles fs made) (h' : SameFiles made after) :
    SameFiles fs after :=
  fun location content => (h' location content).trans (h location content)

theorem AddsDirectories.sameFiles (h : AddsDirectories fs made) : SameFiles fs made := by
  intro location content
  rcases h.lookup_eq location with heq | ⟨hnone, hsome⟩
  · rw [heq]
  · simp [hnone, hsome]

/-- Writing a file changes nothing only if the same file is there already. -/
theorem sameFiles_put_iff {location : Location} (h : fs.isDirectoryAt location = false)
    {content : Bytes} :
    SameFiles fs (fs.put location (.file content)) ↔
      fs.lookup location = some (.file content) := by
  have hlookup := lookup_put fs (.file content) (ne_nil_of_isDirectoryAt_eq_false h)
  constructor
  · intro hsame
    rw [← hsame location content, hlookup, if_pos rfl]
  · intro hheld other content'
    rw [hlookup]
    split_ifs with heq
    · rw [heq, hheld]
    · rfl

/-! ## One directory, and those above it -/

/-- A directory is made at the slot of its path, where neither an entry nor a link stands, in a
directory that may be changed. -/
theorem makeDirectory_eq_ok_iff {path : Path} :
    fs.makeDirectory path = .ok made ↔
      ∃ name directory, fs.HasSlot path name directory ∧ fs.lookup (name :: directory) = none ∧
        fs.isLink (name :: directory) = false ∧ fs.allows .write directory ∧
        made = fs.put (name :: directory) .directory := by
  unfold makeDirectory
  constructor
  · intro h
    rcases hslot : fs.slot path with fault | _ | location
    · simp [hslot] at h
    · simp [hslot] at h
    · obtain ⟨name, directory, hplace, rfl⟩ := slot_eq_ok_some_iff.mp hslot
      simp only [hslot] at h
      split_ifs at h with hsome
      rw [Bool.or_eq_true, not_or, Bool.not_eq_true, Bool.not_eq_true] at hsome
      cases hnew : fs.checkNew (name :: directory) with
      | error fault => simp [hnew, Except.map] at h
      | ok _ =>
        simp only [hnew, Except.map, Except.ok.injEq] at h
        exact ⟨name, directory, hplace, by simpa using hsome.1, hsome.2,
          (checkNew_eq_ok_iff.mp hnew).2, h.symm⟩
  · rintro ⟨name, directory, hplace, hnone, hlink, hallowed, rfl⟩
    have hnew : fs.checkNew (name :: directory) = .ok () :=
      checkNew_eq_ok_iff.mpr ⟨hplace.enter, hallowed⟩
    rw [slot_eq_ok_some_iff.mpr ⟨name, directory, hplace, rfl⟩]
    simp [hnone, hlink, hnew, Except.map]

/-- Where no link stands, a location leads to itself. -/
theorem resolve_eq_self {location : Location} (h : fs.isLink location = false) :
    fs.resolve location = location := by
  rw [isLink, Option.isSome_eq_false_iff, Option.isNone_iff_eq_none] at h
  rw [resolve, h, Option.getD_none]

theorem makeDirectory_adds {path : Path} (h : fs.makeDirectory path = .ok made) :
    AddsDirectories fs made := by
  obtain ⟨name, directory, -, hnone, -, -, rfl⟩ := makeDirectory_eq_ok_iff.mp h
  exact addsDirectories_put hnone

/-- The ways in which making a directory ends, and those above it that are missing: the file system
afterwards, and the answer. The names are given from the last one back. -/
inductive MakeEnd (root : Root) :
    List Name → FileSystem → FileSystem → Except Refusal Unit → Prop
  /-- The directory is refused. -/
  | refused {names : List Name} {fs : FileSystem} (refusal : Refusal) :
      MakeEnd root names fs fs (.error refusal)
  /-- The directory is there already. -/
  | present {names : List Name} {fs : FileSystem} :
      fs.isDirectory ⟨root, names.reverse⟩ = .ok true → MakeEnd root names fs fs (.ok ())
  /-- The directory is made. -/
  | made {names : List Name} {fs made : FileSystem} :
      fs.makeDirectory ⟨root, names.reverse⟩ = .ok made → MakeEnd root names fs made (.ok ())
  /-- The directory above is missing and cannot be made; some of those above it may have been. -/
  | aboveRefused {name : Name} {above : List Name} {fs made : FileSystem} {refusal : Refusal} :
      MakeEnd root above fs made (.error refusal) →
      MakeEnd root (name :: above) fs made (.error refusal)
  /-- The directory above is made first. -/
  | aboveMade {name : Name} {above : List Name} {fs made after : FileSystem}
      {answer : Except Refusal Unit} :
      MakeEnd root above fs made (.ok ()) → MakeEnd root (name :: above) made after answer →
      MakeEnd root (name :: above) fs after answer

theorem makeEnd_excuse (fs : FileSystem) (root : Root) (names : List Name) (fault : SystemFault) :
    MakeEnd root names fs fs (fs.excuse ⟨root, names.reverse⟩ fault) := by
  unfold excuse
  split
  · next hdir => exact .present hdir
  · exact .refused _
  · exact .refused _

/-- Making a directory, and if need be those above it first, ends in one of these ways. -/
theorem makeDirectoriesUp_ends (fs : FileSystem) (root : Root) (names : List Name) :
    MakeEnd root names fs (fs.makeDirectoriesUp root names).1
      (fs.makeDirectoriesUp root names).2 := by
  induction names with
  | nil =>
    unfold makeDirectoriesUp
    dsimp only
    split
    · next hmade => exact .made hmade
    · exact .refused _
    · exact makeEnd_excuse fs root [] _
  | cons name above ih =>
    unfold makeDirectoriesUp
    dsimp only
    split
    · next hmade => exact .made hmade
    · -- the directory above is missing, and is made first
      rcases hup : fs.makeDirectoriesUp root above with ⟨made, refusal | _⟩
      · rw [hup] at ih
        exact .aboveRefused ih
      · rw [hup] at ih
        dsimp only at ih ⊢
        split
        · next hmade => exact .aboveMade ih (.made hmade)
        · exact .aboveMade ih (.refused _)
        · exact .aboveMade ih (makeEnd_excuse made root (name :: above) _)
    · exact makeEnd_excuse fs root (name :: above) _

variable {root : Root} {names : List Name} {answer : Except Refusal Unit}

/-- Making a directory, and those above it, only adds directories. -/
theorem MakeEnd.adds (h : MakeEnd root names fs after answer) : AddsDirectories fs after := by
  induction h with
  | refused _ | present _ => exact .refl _
  | made hmade => exact makeDirectory_adds hmade
  | aboveRefused _ ih => exact ih
  | aboveMade _ _ ihAbove ih => exact ihAbove.trans ih

/-- Making directories only adds directories, whatever comes of it. -/
theorem makeDirectories_adds (fs : FileSystem) (path : Path) :
    AddsDirectories fs (fs.makeDirectories path).1 :=
  (makeDirectoriesUp_ends fs path.root path.names.reverse).adds

/-! ## Where the new directories stand -/

/-- A new directory stands where its path leads. -/
theorem locate_of_makeDirectory {path : Path} (h : fs.makeDirectory path = .ok made) :
    ∃ location, made.locate path = .ok location ∧ made.isDirectoryAt location ∧
      ∀ other, fs.lookup other = none → made.lookup other ≠ none → other = location := by
  have hadds := makeDirectory_adds h
  obtain ⟨name, directory, hplace, -, hlink, -, rfl⟩ := makeDirectory_eq_ok_iff.mp h
  have hlookup := lookup_put fs .directory (List.cons_ne_nil name directory)
  refine ⟨name :: directory, ?_, ?_, fun other hnone hother => ?_⟩
  · rw [(hplace.mono hadds.persists).locate_eq, hadds.persists.resolve_eq, resolve_eq_self hlink,
      hlookup, if_pos rfl]
    rfl
  · rw [isDirectoryAt, hlookup, if_pos rfl]
    rfl
  · rw [hlookup] at hother
    split_ifs at hother with heq
    · exact heq
    · exact absurd hnone hother

/-- What is new stands where the path leads through: at its end, or at the end of a path above. -/
theorem MakeEnd.locate_of_new (h : MakeEnd root names fs after answer) {location : Location}
    (hnone : fs.lookup location = none) (hsome : after.lookup location ≠ none) :
    ∃ above, above <:+ names ∧ after.locate ⟨root, above.reverse⟩ = .ok location := by
  induction h with
  | refused _ | present _ => exact absurd hnone hsome
  | @made names _ _ hmade =>
    obtain ⟨place, hplace, -, honly⟩ := locate_of_makeDirectory hmade
    exact ⟨names, List.suffix_rfl, honly location hnone hsome ▸ hplace⟩
  | aboveRefused _ ih =>
    obtain ⟨above, habove, hlocate⟩ := ih hnone hsome
    exact ⟨above, habove.trans (List.suffix_cons ..), hlocate⟩
  | @aboveMade _ _ _ made _ _ _ hend ihAbove ih =>
    by_cases hmade : made.lookup location = none
    · exact ih hmade hsome
    · obtain ⟨above, habove, hlocate⟩ := ihAbove hnone hmade
      exact ⟨above, habove.trans (List.suffix_cons ..), locate_mono hend.adds.persists hlocate⟩

/-- What is new has been put into a directory that may be changed. -/
theorem MakeEnd.allows_of_new (h : MakeEnd root names fs after answer) {location : Location}
    (hnone : fs.lookup location = none) (hsome : after.lookup location ≠ none) :
    fs.allows .write location.tail := by
  induction h with
  | refused _ | present _ => exact absurd hnone hsome
  | made hmade =>
    obtain ⟨name, directory, -, -, -, hallowed, rfl⟩ := makeDirectory_eq_ok_iff.mp hmade
    rw [lookup_put _ _ (List.cons_ne_nil name directory)] at hsome
    split_ifs at hsome with heq
    · rw [heq]
      exact hallowed
    · exact absurd hnone hsome
  | aboveRefused _ ih => exact ih hnone hsome
  | @aboveMade _ _ _ made _ _ hend _ ihAbove ih =>
    by_cases hmade : made.lookup location = none
    · rw [← hend.adds.persists.allows_eq]
      exact ih hmade hsome
    · exact ihAbove hnone hmade

/-- Whatever comes of making directories, a new one stands where the path leads through. -/
theorem locate_of_makeDirectories {path : Path}
    (h : fs.makeDirectories path = (made, answer)) {location : Location}
    (hnone : fs.lookup location = none) (hsome : made.lookup location ≠ none) :
    ∃ names, names <+: path.names ∧ made.locate ⟨path.root, names⟩ = .ok location := by
  have hend := makeDirectoriesUp_ends fs path.root path.names.reverse
  rw [← makeDirectories, h] at hend
  obtain ⟨above, habove, hlocate⟩ := hend.locate_of_new hnone hsome
  exact ⟨above.reverse, List.reverse_suffix.mp (by simpa using habove), hlocate⟩

/-! ## Directories that can be entered -/

/-- A path that names a directory leads through directories. -/
theorem isDirectory_of_prefix {names above : List Name} (habove : above <+: names)
    (h : fs.isDirectory ⟨root, names⟩ = .ok true) : fs.isDirectory ⟨root, above⟩ = .ok true := by
  obtain ⟨below, rfl⟩ := habove
  cases below with
  | nil => rwa [List.append_nil] at h
  | cons name more =>
    rw [isDirectory_eq_ok_true_iff] at h ⊢
    obtain ⟨location, hlocate, -⟩ := h
    obtain ⟨hcheck, -, hwalk⟩ := locate_eq_ok_iff.mp hlocate
    dsimp only at hwalk
    rw [walk_append] at hwalk
    cases hplace : fs.walk (fs.start root) above with
    | error fault => simp [hplace] at hwalk
    | ok place =>
      simp only [hplace] at hwalk
      have henter := (walk_cons_eq_ok_iff.mp hwalk).1
      refine ⟨place, locate_eq_ok_iff.mpr ⟨checkPath_of_append hcheck,
        checkDot_eq_ok_iff.mpr fun hdot => ?_, hplace⟩, (enter_eq_ok_iff.mp henter).1⟩
      obtain ⟨rfl, rfl⟩ := Path.mk.inj hdot
      obtain rfl := Except.ok.inj hplace
      exact henter

/-- If making a directory, and those above it, succeeds, the directory is there. -/
theorem MakeEnd.isDirectory (h : MakeEnd root names fs after (.ok ())) :
    after.isDirectory ⟨root, names.reverse⟩ = .ok true := by
  generalize hok : (Except.ok () : Except Refusal Unit) = answer at h
  induction h with
  | refused _ => cases hok
  | present hdir => exact hdir
  | made hmade =>
    obtain ⟨location, hlocate, hdir, -⟩ := locate_of_makeDirectory hmade
    exact isDirectory_eq_ok_true_iff.mpr ⟨location, hlocate, hdir⟩
  | aboveRefused _ _ => cases hok
  | aboveMade _ _ _ ih => exact ih hok

/-- Where directories have been made, the path leads through directories. -/
theorem isDirectory_of_makeDirectories {path : Path}
    (h : fs.makeDirectories path = (made, .ok ())) {names : List Name}
    (hnames : names <+: path.names) : made.isDirectory ⟨path.root, names⟩ = .ok true := by
  have hend := makeDirectoriesUp_ends fs path.root path.names.reverse
  rw [← makeDirectories, h] at hend
  have hdir := hend.isDirectory
  rw [List.reverse_reverse] at hdir
  exact isDirectory_of_prefix hnames hdir

/-! ## Directories that are there already -/

/-- A path that leads somewhere has its last name there, if it has one that is a name: an entry, or
a link. -/
theorem slot_of_locate {path : Path} {location : Location} (h : fs.locate path = .ok location) :
    fs.slot path = .ok none ∨
      ∃ place, fs.slot path = .ok (some place) ∧
        (fs.lookup place ≠ none ∨ fs.isLink place = true) := by
  obtain ⟨hcheck, -, hwalk⟩ := locate_eq_ok_iff.mp h
  rcases List.eq_nil_or_concat path.names with hnames | ⟨above, name, hnames⟩
  · left
    simp [slot, hcheck, hnames]
  · rw [List.concat_eq_append] at hnames
    rw [hnames, walk_append] at hwalk
    cases hplace : fs.walk (fs.start path.root) above with
    | error fault => simp [hplace] at hwalk
    | ok directory =>
      rw [hplace] at hwalk
      have hslot : fs.slot path = fs.slotIn directory name := by simp [slot, hcheck, hnames, hplace]
      obtain ⟨henter, ⟨hup, -⟩ | ⟨hup, hshort, hsome, hend⟩⟩ := walk_cons_eq_ok_iff.mp hwalk
      · left
        simp [hslot, slotIn, henter, hup]
      · refine .inr ⟨_, hslot.trans (slotIn_eq_ok_some_iff.mpr ⟨⟨henter, hup, hshort⟩, rfl⟩), ?_⟩
        cases hlink : fs.isLink (name :: directory) with
        | true => exact .inr rfl
        | false =>
          rw [resolve_eq_self hlink] at hsome
          exact .inl hsome

/-- A directory that is there cannot be made again. -/
theorem makeDirectory_of_isDirectory {path : Path} (h : fs.isDirectory path = .ok true) :
    fs.makeDirectory path = .error .alreadyExists := by
  obtain ⟨location, hlocate, -⟩ := isDirectory_eq_ok_true_iff.mp h
  unfold makeDirectory
  rcases slot_of_locate hlocate with hslot | ⟨place, hslot, htaken⟩
  · rw [hslot]
  · rw [hslot]
    exact if_pos (by rwa [Bool.or_eq_true, Option.isSome_iff_ne_none])

/-- But it can be asked for again, and nothing changes. -/
theorem makeDirectories_of_isDirectory {path : Path} (h : fs.isDirectory path = .ok true) :
    fs.makeDirectories path = (fs, .ok ()) := by
  obtain ⟨root, names⟩ := path
  have hmake := makeDirectory_of_isDirectory h
  have hexcuse : fs.excuse ⟨root, names⟩ .alreadyExists = .ok () := by rw [excuse, h]
  unfold makeDirectories makeDirectoriesUp
  split
  · next hreverse =>
    obtain rfl := List.reverse_eq_nil_iff.mp hreverse
    simp [hmake, hexcuse]
  · next name above hreverse =>
    rw [← hreverse, List.reverse_reverse]
    simp [hmake, hexcuse]

end SyntaxReport.FileSystem
