import SyntaxReport.Proofs.Dump.Failure
import SyntaxReport.Proofs.Dump.InMemory
import SyntaxReport.Proofs.Path.Stem
import SyntaxReport.Proofs.Text.LowerCase

/-!
# Guessing a language

The language of a file is guessed from what stands behind the last dot of its name, in whatever
case, if there is something in front of the dot. Lower case knows letters of all scripts; but no
letter beyond ASCII becomes one of those that the extensions are made of, so their own spellings are
all that count.

Results:
* `lookup_lower_iff`: the suffixes that tell a language.
* `Language.guess_of_tells`, `Language.guess_of_not_tells`: which names tell a language, and what is
  guessed from the others.
* `Language.guess_by_last_suffix`: the guess, told by the text of the path.
-/

namespace SyntaxReport

open Calendar (Moment)

/-! ## The name that a path's text ends with -/

/-- The components of a path's text that count: what stands between its slashes, unless that is
empty or a single dot. -/
def components (t : Text) : List Text :=
  (Text.pieces '/' t).filter fun piece => piece != [] && piece != ['.']

/-- The last component that counts; the empty text if none does. -/
def lastComponent (t : Text) : Text :=
  (components t).getLast?.getD []

theorem name_ofText (t : Text) : (Path.ofText t).name = lastComponent t := rfl

theorem components_append_cons (above below : Text) :
    components (above ++ '/' :: below) = components above ++ components below := by
  rw [components, Text.pieces_append_cons, List.filter_append]
  rfl

/-- What stands above a name does not change it. -/
theorem lastComponent_below {t : Text} (h : lastComponent t ≠ []) (above : Text) :
    lastComponent (above ++ '/' :: t) = lastComponent t := by
  unfold lastComponent at h ⊢
  rw [components_append_cons, List.getLast?_append]
  cases hlast : (components t).getLast? with
  | none =>
    rw [hlast] at h
    exact absurd rfl h
  | some name => rfl

/-- Nor do slashes and single dots behind it. -/
theorem lastComponent_above {rest : Text}
    (h : ∀ piece ∈ Text.pieces '/' rest, piece = [] ∨ piece = ['.']) (t : Text) :
    lastComponent (t ++ '/' :: rest) = lastComponent t := by
  have hnone : components rest = [] := by
    rw [components, List.filter_eq_nil_iff]
    intro piece hmem
    rcases h piece hmem with rfl | rfl <;> decide
  rw [lastComponent, components_append_cons, hnone, List.append_nil, lastComponent]

namespace Language

/-! ## Suffixes -/

/-- The extensions of the names of files in a language. -/
def extensions : Language → List Text
  | javascript => ["js".toList, "mjs".toList, "cjs".toList, "jsx".toList]
  | python => ["py".toList, "pyi".toList]
  | c => ["c".toList, "h".toList]

/-- The suffixes that tell a language are its extensions behind a dot. -/
theorem lookup_suffixes_iff {suffix : Text} {language : Language} :
    suffixes.lookup suffix = some language ↔
      ∃ extension ∈ language.extensions, suffix = '.' :: extension := by
  constructor
  · intro h
    obtain ⟨before, behind, hsplit, -⟩ := List.lookup_eq_some_iff.mp h
    have hmem : (suffix, language) ∈ suffixes := by
      rw [hsplit]
      exact List.mem_append_right _ List.mem_cons_self
    have hall : ∀ entry ∈ suffixes,
        ∃ extension ∈ entry.2.extensions, entry.1 = '.' :: extension := by decide
    exact hall _ hmem
  · rintro ⟨extension, hmem, rfl⟩
    have hall : ∀ extension ∈ language.extensions,
        suffixes.lookup ('.' :: extension) = some language := by cases language <;> decide
    exact hall _ hmem

/-- The extensions are in ASCII, and the letter k is in none of them. -/
theorem ascii_of_mem_extensions {extension : Text} {language : Language}
    (h : extension ∈ language.extensions) : ∀ c ∈ '.' :: extension, c.toNat < 0x80 ∧ c ≠ 'k' := by
  have hall : ∀ extension ∈ language.extensions,
      ('.' :: extension).all fun c => c.toNat < 0x80 ∧ c ≠ 'k' := by cases language <;> decide
  intro c hmem
  exact of_decide_eq_true (List.all_eq_true.mp (hall _ h) c hmem)

/-- A suffix tells a language in lower case if it does so in the lower case of ASCII. -/
theorem lookup_lower_iff {extension : Text} {language : Language} :
    suffixes.lookup (Text.lower ('.' :: extension)) = some language ↔
      extension.map Char.toLower ∈ language.extensions := by
  have hlower {word : Text} (hmem : word ∈ language.extensions) :
      Text.lower ('.' :: extension) = '.' :: word ↔ extension.map Char.toLower = word := by
    rw [Text.lower_eq_iff (ascii_of_mem_extensions hmem), List.map_cons]
    simp only [List.cons.injEq]
    exact and_iff_right (by decide)
  rw [lookup_suffixes_iff]
  constructor
  · rintro ⟨word, hmem, hword⟩
    rw [(hlower hmem).mp hword]
    exact hmem
  · intro hmem
    exact ⟨_, hmem, (hlower hmem).mpr rfl⟩

/-! ## Names -/

/-- A name tells a language if one of the language's extensions, in whatever ASCII case, stands
behind its last dot, and something in front of it. -/
def Tells (name : Text) (language : Language) : Prop :=
  ∃ stem extension : Text, stem ≠ [] ∧ extension ≠ [] ∧ '.' ∉ extension ∧
    name = stem ++ '.' :: extension ∧ extension.map Char.toLower ∈ language.extensions

variable {path : Path} {language : Language}

theorem tells_iff :
    Tells path.name language ↔ suffixes.lookup (Text.lower path.suffix) = some language := by
  constructor
  · rintro ⟨stem, extension, hstem, hne, hdot, hname, hmem⟩
    rw [Path.suffix, hname, Path.splitName_append hstem hne hdot]
    exact lookup_lower_iff.mpr hmem
  · intro h
    have hsuffix : (Path.splitName path.name).2 ≠ [] := by
      intro hnone
      rw [Path.suffix, hnone] at h
      cases h
    obtain ⟨stem, extension, hstem, hne, hdot, hname⟩ := Path.exists_eq_append_of_suffix hsuffix
    rw [Path.suffix, hname, Path.splitName_append hstem hne hdot] at h
    exact ⟨stem, extension, hstem, hne, hdot, hname, lookup_lower_iff.mp h⟩

theorem guess_of_tells (h : Tells path.name language) : guess path = language := by
  rw [guess, tells_iff.mp h, Option.getD_some]

theorem guess_of_not_tells (h : ∀ language, ¬Tells path.name language) : guess path = fallback := by
  have hnone : suffixes.lookup (Text.lower path.suffix) = none :=
    Option.eq_none_iff_forall_ne_some.mpr fun language hlookup => h language (tells_iff.mpr hlookup)
  rw [guess, hnone, Option.getD_none]

/-- The guess shows nothing of a path but its last name. -/
theorem guess_congr {other : Path} (h : path.name = other.name) : guess path = guess other := by
  unfold guess Path.suffix
  rw [h]

end Language

/-- Without the name of a language, building a report does not fail for want of one. -/
theorem buildReport_ne_unknownLanguage [Codecs] {engine : Engine} {fs : FileSystem} {job : Job}
    {now : Moment} (h : job.language = none) (name : Option Text) :
    (buildReport engine fs job now).result ≠ .error (.unknownLanguage name) := by
  intro herror
  cases buildReport_eq_error_iff.mp herror with
  | reading hread => simpa using readSource_eq_error hread
  | language _ hfind =>
    rw [languageName_of_guess h rfl, find_name] at hfind
    cases hfind
  | unparsable _ _ _ hfailed => cases hfailed
  | layout _ _ hlayout =>
    unfold layoutTree at hlayout
    split at hlayout <;> cases hlayout

namespace Language

/-- The guess is decided by the last suffix only. If the last component of a path's text that counts
tells a language, then that is guessed, and the fallback if it tells none, whatever characters are
in the text. So a directory in front makes no difference to a text that names something, and
slashes and single dots behind make none to any text; and building a report without the name of a
language never fails because the language is unknown. -/
theorem guess_by_last_suffix [Codecs] (t : Text) :
    (∀ language, Tells (lastComponent t) language → guess (Path.ofText t) = language) ∧
    ((∀ language, ¬Tells (lastComponent t) language) → guess (Path.ofText t) = fallback) ∧
    (lastComponent t ≠ [] → ∀ directory,
      guess (Path.ofText (directory ++ '/' :: t)) = guess (Path.ofText t)) ∧
    (∀ rest, (∀ piece ∈ Text.pieces '/' rest, piece = [] ∨ piece = ['.']) →
      guess (Path.ofText (t ++ '/' :: rest)) = guess (Path.ofText t)) ∧
    ∀ (engine : Engine) (fs : FileSystem) (job : Job) (now : Moment) (name : Option Text),
      job.file = t → job.language = none →
        (buildReport engine fs job now).result ≠ .error (.unknownLanguage name) := by
  rw [← name_ofText]
  refine ⟨fun _ => guess_of_tells, guess_of_not_tells, fun hne directory => ?_,
    fun rest hrest => ?_, fun _ _ _ _ name _ hnone => buildReport_ne_unknownLanguage hnone name⟩
  · apply guess_congr
    rw [name_ofText] at hne
    rw [name_ofText, name_ofText, lastComponent_below hne]
  · apply guess_congr
    rw [name_ofText, name_ofText, lastComponent_above hrest]

open SmallSystem in
/-- A stem that is a dot, below a directory with a suffix of its own; and a dotted capital I in a
suffix, whose lower case is an i with another dot above it. -/
theorem guess_by_last_suffix_dots :
    guess (Path.ofText ("a.c/".toList ++ '/' :: "..PyI".toList)) = .python ∧
      guess (Path.ofText ("a.pyİ".toList ++ '/' :: "./".toList)) = .javascript ∧
      (buildReport (fun _ _ => []) (.empty []) ⟨"a.pyİ".toList, none, "utf-8".toList, []⟩
          ⟨⟨⟨2000, 1, 1⟩, 0, 0, 0, 0⟩, none⟩).result ≠
        .error (.unknownLanguage (some "javascript".toList)) := by
  obtain ⟨htells, -, hbelow, -, -⟩ := guess_by_last_suffix "..PyI".toList
  obtain ⟨-, hnone, -, habove, hbuild⟩ := guess_by_last_suffix "a.pyİ".toList
  have hpython : Tells (lastComponent "..PyI".toList) .python :=
    ⟨['.'], "PyI".toList, by decide, by decide, by decide, rfl, by decide⟩
  have hlookup : suffixes.lookup (Text.lower (Path.ofText "a.pyİ".toList).suffix) = none := rfl
  have hfallback : ∀ language, ¬Tells (lastComponent "a.pyİ".toList) language := by
    intro language h
    have hfound := tells_iff.mp (name_ofText "a.pyİ".toList ▸ h)
    rw [hlookup] at hfound
    cases hfound
  refine ⟨?_, ?_, hbuild _ _ _ _ _ rfl rfl⟩
  · exact (hbelow (by decide) _).trans (htells .python hpython)
  · exact (habove _ (by decide)).trans (hnone hfallback)

end Language

end SyntaxReport
