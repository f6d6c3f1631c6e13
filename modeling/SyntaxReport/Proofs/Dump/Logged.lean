import SyntaxReport.Proofs.Dump.Phases

/-!
# A log that refuses an entry

An entry is logged before its phase does anything, and only the last phase changes files. So with a
log that refuses an entry, the job is what it is with a willing log, cut off in front of the first
entry that is refused.

Results:
* `buildLogged_eq`: this for the building of a report.
* `dumpLogged_eq`: and for a dump.
-/

namespace SyntaxReport

open Calendar (Moment)

/-- The first refusal of a log, of entries that are numbered from `number` on: how many entries have
been taken before, and the failure. -/
def Log.refusal? (log : Log) (number : Nat) : List Text → Option (Nat × DumpError)
  | [] => none
  | entry :: more =>
    match log number entry with
    | .error error => some (0, error)
    | .ok () => (log.refusal? (number + 1) more).map fun (taken, error) => (taken + 1, error)

/-- What has happened before a log refuses an entry: the engine is called behind the second. -/
def Attempt.cutAt {α : Type} (attempt : Attempt α) (taken : Nat) (error : DumpError) : Attempt α :=
  ⟨.error error, attempt.entries.take taken, if taken < 2 then [] else attempt.calls⟩

section Taking

variable {log : Log} {number taken : Nat} {entry : Text} {entries : List Text} {error : DumpError}

theorem Log.refusal?_nil (log : Log) (number : Nat) : log.refusal? number [] = none := rfl

theorem Log.refusal?_of_error (h : log number entry = .error error)
    (more : List Text) : log.refusal? number (entry :: more) = some (0, error) := by
  rw [refusal?, h]

theorem Log.refusal?_of_ok (h : log number entry = .ok ()) (more : List Text) :
    log.refusal? number (entry :: more) =
      (log.refusal? (number + 1) more).map fun (taken, error) => (taken + 1, error) := by
  rw [refusal?, h]

/-- Behind entries that are all taken, the log goes on with the next number. -/
theorem Log.refusal?_append_of_none (h : log.refusal? number entries = none) (more : List Text) :
    log.refusal? number (entries ++ more) =
      (log.refusal? (number + entries.length) more).map fun (taken, error) =>
        (taken + entries.length, error) := by
  induction entries generalizing number with
  | nil =>
    show log.refusal? number more = (log.refusal? number more).map id
    rw [Option.map_id, id]
  | cons entry entries ih =>
    rcases hentry : log number entry with error | _
    · rw [refusal?_of_error hentry] at h
      cases h
    · rw [refusal?_of_ok hentry, Option.map_eq_none_iff] at h
      rw [List.cons_append, refusal?_of_ok hentry, ih h, Option.map_map, List.length_cons,
        Nat.add_right_comm, Nat.add_assoc]
      rfl

/-- What stands behind a refused entry does not matter. -/
theorem Log.refusal?_append_of_some (h : log.refusal? number entries = some (taken, error))
    (more : List Text) :
    log.refusal? number (entries ++ more) = some (taken, error) ∧ taken < entries.length := by
  induction entries generalizing number taken with
  | nil => cases h
  | cons entry entries ih =>
    rcases hentry : log number entry with failed | _
    · rw [refusal?_of_error hentry] at h
      obtain ⟨rfl, rfl⟩ := Prod.mk.inj (Option.some.inj h)
      exact ⟨refusal?_of_error hentry _, Nat.zero_lt_succ _⟩
    · rw [refusal?_of_ok hentry] at h
      obtain ⟨⟨before, failed⟩, hmore, heq⟩ := Option.map_eq_some_iff.mp h
      obtain ⟨rfl, rfl⟩ := Prod.mk.inj heq
      obtain ⟨hrefusal, hlt⟩ := ih hmore
      rw [List.cons_append, refusal?_of_ok hentry, hrefusal]
      exact ⟨rfl, Nat.succ_lt_succ hlt⟩

end Taking

variable [Codecs]

/-- A report is built up to the first entry that the log refuses. -/
theorem buildLogged_eq (log : Log) (engine : Engine) (fs : FileSystem) (job : Job) (now : Moment) :
    buildLogged log engine fs job now =
      let built := buildReport engine fs job now
      match log.refusal? 1 built.entries with
      | none => built
      | some (taken, error) => built.cutAt taken error := by
  have hend := buildReport_ends engine fs job now
  generalize buildReport engine fs job now = built at hend ⊢
  unfold buildLogged
  dsimp only
  rcases hfirst : log 1 job.readingEntry with error | _
  · -- The first entry is the same for all ends.
    have hrefused (more : List Text) := Log.refusal?_of_error hfirst more
    cases hend <;> simp only [hrefused] <;> rfl
  rcases hsecond : log 2 job.parsingEntry with error | _
  · have hrefused (more : List Text) : log.refusal? 1 (job.readingEntry :: job.parsingEntry :: more) =
        some (1, error) := by
      rw [Log.refusal?_of_ok hfirst, Log.refusal?_of_error hsecond]
      rfl
    cases hend with
    | unread hread =>
      simp only [hread, Log.refusal?_of_ok hfirst, Log.refusal?_nil, Option.map_none]
    | unknownLanguage hread _ | unparsable hread _ _ | unbalanced hread _ _ | built hread _ _ =>
      simp only [hread, hrefused]
      rfl
  have htaken (more : List Text) : log.refusal? 1 (job.readingEntry :: job.parsingEntry :: more) =
      (log.refusal? 3 more).map fun (taken, error) => (taken + 2, error) := by
    rw [Log.refusal?_of_ok hfirst, Log.refusal?_of_ok hsecond, Option.map_map]
    rfl
  cases hend with
  | unread hread => simp only [hread, Log.refusal?_of_ok hfirst, Log.refusal?_nil, Option.map_none]
  | unknownLanguage hread hfind =>
    simp only [hread, htaken, parseSource_of_error hfind, Log.refusal?_nil, Option.map_none]
  | unparsable hread hfind hmissing =>
    simp only [hread, htaken, parseSource_of_missing hfind hmissing, Log.refusal?_nil, Option.map_none]
  | @unbalanced source language error hread hfind hlayout =>
    simp only [hread, htaken, parseSource_points, parseText, hfind]
    rcases hthird : log 3 (Job.formattingEntry (engine language source)) with failed | _
    · rw [Log.refusal?_of_error hthird]
      rfl
    · simp only [Log.refusal?_of_ok hthird, hlayout, Log.refusal?_nil, Option.map_none]
  | @built source language laidOut hread hfind hlayout =>
    simp only [hread, htaken, parseSource_points, parseText, hfind]
    rcases hthird : log 3 (Job.formattingEntry (engine language source)) with failed | _
    · rw [Log.refusal?_of_error hthird]
      rfl
    · simp only [Log.refusal?_of_ok hthird, hlayout, Log.refusal?_nil, Option.map_none]

/-- A dump goes up to the first entry that the log refuses, and has then changed nothing. -/
theorem dumpLogged_eq (log : Log) (engine : Engine) (fs : FileSystem) (job : Job)
    (directory : Text) (now : Moment) :
    dumpLogged log engine fs job directory now =
      let dumped := dumpFile engine fs job directory now
      match log.refusal? 1 dumped.2.entries with
      | none => dumped
      | some (taken, error) => (fs, dumped.2.cutAt taken error) := by
  rw [dumpFile_eq]
  unfold dumpLogged
  rw [buildLogged_eq]
  have hlength (report : Report) (h : (buildReport engine fs job now).result = .ok report) :
      (buildReport engine fs job now).entries.length = 3 := by
    obtain ⟨tree, hentries⟩ := entries_of_built h
    rw [hentries]
    rfl
  generalize buildReport engine fs job now = built at hlength
  dsimp only
  rcases hbuilding : log.refusal? 1 built.entries with _ | ⟨taken, failed⟩
  · dsimp only
    cases hresult : built.result with
    | error error => simp only [hbuilding]
    | ok report =>
      dsimp only
      rw [Log.refusal?_append_of_none hbuilding, hlength report hresult]
      rcases hlast : log 4 (Job.writingEntry (outputPath job.file directory)) with failed | _
      · rw [Log.refusal?_of_error hlast]
        simp [Attempt.cutAt, hlength report hresult]
      · rw [Log.refusal?_of_ok hlast]
        rfl
  · dsimp only [Attempt.cutAt]
    cases hresult : built.result with
    | error error => simp only [hbuilding]
    | ok report =>
      dsimp only
      obtain ⟨hwhole, hlt⟩ := Log.refusal?_append_of_some hbuilding
        [Job.writingEntry (outputPath job.file directory)]
      simp only [hwhole, List.take_append_of_le_length (Nat.le_of_lt hlt)]

end SyntaxReport
