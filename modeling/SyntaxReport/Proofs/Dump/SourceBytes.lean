import SyntaxReport.Proofs.Dump.InMemory
import SyntaxReport.Proofs.Encoding.WellFormed

/-!
# The engine sees the file

The engine parses the source text in UTF-8. If the file is read as UTF-8 too, then decoding and
encoding cancel out: up to the line ends, the engine gets the bytes of the file. In UTF-8 the bytes
of a line end are part of no other character, so unifying the line ends of the text comes to the
same as unifying those of the bytes.

Results:
* `encode_unifyNewlines`: the line ends of a text and those of its bytes.
* `engine_sees_source_bytes`: what the engine gets, and what fails if the file is not UTF-8.
-/

namespace SyntaxReport

open Calendar (Moment)
open Encoding.Utf8

/-! ## Line ends of bytes -/

/-- The byte 0D, together with a byte 0A right behind it, becomes one byte 0A. -/
def unifyLineEnds : Bytes → Bytes
  | [] => []
  | 0x0D :: 0x0A :: rest => 0x0A :: unifyLineEnds rest
  | b :: rest => (if b = 0x0D then 0x0A else b) :: unifyLineEnds rest

/-- Other bytes stay. -/
theorem unifyLineEnds_append {bytes : Bytes} (h : 0x0D ∉ bytes) (rest : Bytes) :
    unifyLineEnds (bytes ++ rest) = bytes ++ unifyLineEnds rest := by
  induction bytes with
  | nil => rfl
  | cons b bytes ih =>
    obtain ⟨hb, hbytes⟩ := not_or.mp (List.mem_cons.not.mp h)
    rw [List.cons_append, List.cons_append, ← ih hbytes, unifyLineEnds, if_neg (Ne.symm hb)]
    rintro _ rfl
    exact absurd rfl hb

/-- A byte 0D without 0A behind it. -/
theorem unifyLineEnds_return {rest : Bytes} (h : rest.head? ≠ some 0x0A) :
    unifyLineEnds (0x0D :: rest) = 0x0A :: unifyLineEnds rest := by
  rw [unifyLineEnds, if_pos rfl]
  rintro more - rfl
  exact h rfl

/-- The first byte of a text is 0A only if the text starts with a newline. -/
theorem head?_of_head?_encode {t : Text} (h : (encode t).head? = some 0x0A) :
    t.head? = some '\n' := by
  cases t with
  | nil => cases h
  | cons c t =>
    have hmem : (0x0A : UInt8) ∈ encodeChar c := by
      rw [encode, List.flatMap_cons, List.head?_append_of_ne_nil _ (encodeChar_ne_nil c)] at h
      exact List.mem_of_mem_head? h
    have hcode := toNat_eq_of_mem_encodeChar hmem (by decide)
    rw [List.head?_cons, Char.toNat_inj.mp (hcode.trans rfl : c.toNat = '\n'.toNat)]

/-- A character that is no carriage return with a newline behind it takes its bytes with it. -/
theorem unifyLineEnds_encode_cons {c : Char} {t : Text} (h : ¬(c = '\r' ∧ t.head? = some '\n')) :
    unifyLineEnds (encode (c :: t)) =
      encodeChar (if c = '\r' then '\n' else c) ++ unifyLineEnds (encode t) := by
  by_cases hc : c = '\r'
  · subst hc
    exact unifyLineEnds_return fun hhead => h ⟨rfl, head?_of_head?_encode hhead⟩
  · have hreturn : 0x0D ∉ encodeChar c := by
      intro hmem
      have hcode := toNat_eq_of_mem_encodeChar hmem (by decide)
      exact hc (Char.toNat_inj.mp (hcode.trans rfl))
    rw [if_neg hc, encode, List.flatMap_cons, ← encode, unifyLineEnds_append hreturn]

/-- Unifying the line ends of a text comes to the same as unifying those of its bytes. -/
theorem encode_unifyNewlines (t : Text) :
    encode (Text.unifyNewlines t) = unifyLineEnds (encode t) := by
  have hcons (c : Char) (t : Text) : encode (c :: t) = encodeChar c ++ encode t :=
    List.flatMap_cons
  unfold Text.unifyNewlines
  fun_induction unifyEnds '\r' '\n' t with
  | case1 => rfl
  | case2 c =>
    have hbehind : ¬(c = '\r' ∧ ([] : Text).head? = some '\n') := by simp
    rw [unifyLineEnds_encode_cons hbehind, hcons]
    rfl
  | case3 c d rest hpair ih =>
    obtain ⟨rfl, rfl⟩ := hpair
    show 0x0A :: encode (unifyEnds '\r' '\n' rest) = 0x0A :: unifyLineEnds (encode rest)
    rw [ih]
  | case4 c d rest hpair ih =>
    have hbehind : ¬(c = '\r' ∧ (d :: rest).head? = some '\n') := fun h =>
      hpair ⟨h.1, Option.some.inj h.2⟩
    rw [unifyLineEnds_encode_cons hbehind, hcons, ih]

/-! ## What the engine gets -/

variable {engine : Engine} {fs : FileSystem} {job : Job} {now : Moment} {language : Language}
  {content : Bytes}

section Sources

variable [Codecs]

/-- The source of a file in UTF-8 is what its bytes are decoded to. -/
theorem readSource_utf8 (hread : fs.readFile (Path.ofText job.file) = .ok content)
    (hencoding : Encoding.ofName? job.encoding = some .utf8) :
    readSource fs job.file job.encoding =
      ((decode content).mapError .undecodable).map fun t => (Text.unifyNewlines t).points := by
  rw [readSource, checkEncodingName_of_ofName? hencoding]
  dsimp only
  rw [hread]
  dsimp only
  rw [decodeBytes, findCodec, hencoding]
  show (((decode content).map Text.points).mapError DumpError.undecodable).map _ = _
  cases decode content with
  | error error => rfl
  | ok t => exact congrArg Except.ok (Points.unifyNewlines_points t)

/-- If the source has been read and the language is known, the engine is called once. -/
theorem calls_of_readSource {source : Text}
    (hsource : readSource fs job.file job.encoding = .ok source.points)
    (hlanguage : Language.find (some job.languageName) = .ok language) :
    (buildReport engine fs job now).calls = [⟨language, source⟩] := by
  have hend := buildReport_ends engine fs job now
  generalize buildReport engine fs job now = built at hend
  cases hend with
  | unread hsource' => cases hsource.symm.trans hsource'
  | unknownLanguage _ hlanguage' => cases hlanguage.symm.trans hlanguage'
  | unparsable hsource' _ hmissing =>
    obtain rfl := Except.ok.inj (hsource.symm.trans hsource')
    rw [encodeError?_utf8_eq_none_iff.mpr ⟨source, rfl⟩] at hmissing
    cases hmissing
  | unbalanced hsource' hlanguage' _ | built hsource' hlanguage' _ =>
    obtain rfl := Points.points_inj.mp (Except.ok.inj (hsource.symm.trans hsource'))
    obtain rfl := Except.ok.inj (hlanguage.symm.trans hlanguage')
    rfl

/-- If the source cannot be read, the engine is not called. -/
theorem buildReport_of_unread {error : DumpError}
    (hsource : readSource fs job.file job.encoding = .error error) :
    (buildReport engine fs job now).result = .error error ∧
      (buildReport engine fs job now).calls = [] := by
  rw [buildReport_eq]
  rw [hsource]
  exact ⟨rfl, rfl⟩

/-- The engine sees exactly the file. In a registered language, the engine is called for a file that
is read as UTF-8 if and only if the file is well-formed UTF-8, and then once: it gets the bytes of
the file with newlines for the line ends, a byte order mark included. For any other file, building
the report fails at the end of the longest beginning that is made of complete characters, with the
byte that stands there, and the engine is not called. -/
theorem engine_sees_source_bytes (engine : Engine) (fs : FileSystem) (job : Job) (now : Moment)
    {language : Language} {content : Bytes}
    (hread : fs.readFile (Path.ofText job.file) = .ok content)
    (hencoding : Encoding.ofName? job.encoding = some .utf8)
    (hlanguage : Language.find (some job.languageName) = .ok language) :
    let built := buildReport engine fs job now
    (built.calls ≠ [] ↔ WellFormed content) ∧
    (WellFormed content → ∃ call, built.calls = [call] ∧ call.language = language ∧
      call.bytes = unifyLineEnds content) ∧
    (¬WellFormed content → built.calls = [] ∧ ∃ first start stop fault,
      built.result = .error (.undecodable (.malformed .utf8 first start stop fault)) ∧
      WellFormedUpTo content start ∧ content[start]? = some first) := by
  intro built
  have hsource := readSource_utf8 hread hencoding
  have hwell (h : WellFormed content) : ∃ call, built.calls = [call] ∧ call.language = language ∧
      call.bytes = unifyLineEnds content := by
    obtain ⟨t, rfl⟩ := wellFormed_iff.mp h
    rw [decode_encode] at hsource
    exact ⟨⟨language, Text.unifyNewlines t⟩, calls_of_readSource hsource hlanguage, rfl,
      encode_unifyNewlines t⟩
  have hbroken (h : ¬WellFormed content) : built.calls = [] ∧ ∃ first start stop fault,
      built.result = .error (.undecodable (.malformed .utf8 first start stop fault)) ∧
      WellFormedUpTo content start ∧ content[start]? = some first := by
    obtain ⟨first, start, stop, fault, hdecode, hstart, hfirst⟩ := decode_of_not_wellFormed h
    rw [hdecode] at hsource
    obtain ⟨hresult, hcalls⟩ := buildReport_of_unread hsource
    exact ⟨hcalls, first, start, stop, fault, hresult, hstart, hfirst⟩
  refine ⟨⟨fun hcalls => ?_, fun h => ?_⟩, hwell, hbroken⟩
  · by_contra h
    exact hcalls (hbroken h).1
  · obtain ⟨call, hcalls, -⟩ := hwell h
    rw [hcalls]
    exact List.cons_ne_nil _ _

end Sources

/-- A file that starts with a byte order mark and has three kinds of line ends, and one that has a
surrogate behind its first character. -/
def filesOfBytes : FileSystem :=
  { entries :=
      [(["marked.c".toList], .file [0xEF, 0xBB, 0xBF, 0x0D, 0x0A, 0x0D, 0x0A, 0x0D]),
        (["surrogate.h".toList], .file [0x61, 0xED, 0xA0, 0x80])]
    workingDirectory := [] }

open SmallSystem in
/-- The engine gets the first file with its mark and three newlines, and nothing of the second, of
which only the first byte is well-formed. -/
theorem engine_sees_source_bytes_marked :
    let marked : Job := ⟨"marked.c".toList, none, "utf-8".toList, []⟩
    let broken : Job := ⟨"surrogate.h".toList, none, "U8".toList, []⟩
    let now : Moment := ⟨⟨⟨2000, 1, 1⟩, 0, 0, 0, 0⟩, none⟩
    let engine : Engine := fun _ source => source
    (∃ call, (buildReport engine filesOfBytes marked now).calls = [call] ∧
      call.language = .c ∧ call.bytes = [0xEF, 0xBB, 0xBF, 0x0A, 0x0A, 0x0A]) ∧
    (buildReport engine filesOfBytes broken now).calls = [] ∧
      (buildReport engine filesOfBytes broken now).result =
        .error (.undecodable (.malformed .utf8 0xED 1 2 .invalidContinuation)) ∧
      WellFormedUpTo [0x61, 0xED, 0xA0, 0x80] 1 := by
  intro marked broken now engine
  have hname : marked.languageName = Language.c.name := languageName_of_guess rfl (by rfl)
  have hname' : broken.languageName = Language.c.name := languageName_of_guess rfl (by rfl)
  have hlanguage : Language.find (some marked.languageName) = .ok .c := by rw [hname, find_name]
  have hlanguage' : Language.find (some broken.languageName) = .ok .c := by rw [hname', find_name]
  obtain ⟨-, hwell, -⟩ :=
    engine_sees_source_bytes engine filesOfBytes marked now rfl rfl hlanguage
  obtain ⟨-, -, hbroken⟩ :=
    engine_sees_source_bytes engine filesOfBytes broken now rfl rfl hlanguage'
  obtain ⟨hcalls, first, start, stop, fault, hresult, hstart, -⟩ := hbroken (by decide)
  have hshown : (buildReport engine filesOfBytes broken now).result =
      .error (.undecodable (.malformed .utf8 0xED 1 2 .invalidContinuation)) := rfl
  obtain ⟨-, rfl, -⟩ : first = 0xED ∧ start = 1 ∧ stop = 2 ∧ fault = .invalidContinuation := by
    simpa using hresult.symm.trans hshown
  exact ⟨hwell (by decide), hcalls, hshown, hstart⟩

end SyntaxReport
