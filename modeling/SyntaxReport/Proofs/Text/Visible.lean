import Mathlib.Tactic.SplitIfs
import SyntaxReport.Report.Basic
import SyntaxReport.Text.Visible

/-!
# Visible messages

What this library writes by itself is visible: numbers, quotations and the words for failures. Only
the name of an encoding that is none stands in a message as it was given, and the codecs of the
system have words of their own.

Results:
* `visible_quote`: quotations are visible, whatever is quoted.
* `DumpError.visible_message`: and so are the messages of failures.
* `DumpError.not_mem_message`: up to the name of an encoding and the words of a codec.
-/

namespace SyntaxReport

namespace Text

/-! ## Quotations -/

@[simp] theorem visible_codeEscape (code : Nat) : (codeEscape code).Visible := by
  unfold codeEscape
  split_ifs <;> exact visible_cons.mpr ⟨by decide, visible_cons.mpr ⟨by decide, by simp⟩⟩

/-- Between the marks a quotation has only printable characters. -/
theorem visible_escapeIn {mark : Char} (hmark : isPrintable mark) (c : Char) :
    (escapeIn mark c).Visible := by
  unfold escapeIn
  split_ifs with hspecial htab hnewline hreturn hprintable
  · rcases hspecial with rfl | rfl
    · exact visible_cons.mpr ⟨by decide, visible_cons.mpr ⟨hmark, visible_nil⟩⟩
    · decide
  · decide
  · decide
  · decide
  · exact visible_cons.mpr ⟨hprintable, visible_nil⟩
  · exact visible_codeEscape c.toNat

@[simp] theorem visible_quote (t : Text) : (quote t).Visible := by
  have hmark : isPrintable (quotationMarkFor t) := by
    rcases isMark_quotationMarkFor t with hmark | hmark <;> rw [hmark] <;> decide
  have hinside : Visible (t.flatMap (escapeIn (quotationMarkFor t))) := by
    intro c hc
    obtain ⟨quoted, -, hmem⟩ := List.mem_flatMap.mp hc
    exact visible_escapeIn hmark quoted c hmem
  rw [quote]
  simp [hmark, hinside]

@[simp] theorem visible_quoteOption (t : Option Text) : (quoteOption t).Visible := by
  cases t with
  | none => decide
  | some t => exact visible_quote t

end Text

open Text

theorem Calendar.DateTime.visible_stamp (reading : DateTime) : reading.stamp.Visible := by
  unfold stamp
  simp only [visible_append, visible_cons, visible_nil, visible_fixedDigits, and_true, true_and]
  decide

/-! ## Failures -/

theorem Language.visible_name (language : Language) : language.name.Visible := by
  cases language <;> decide

theorem Encoding.visible_title (encoding : Encoding) : encoding.title.Visible := by
  cases encoding <;> decide

theorem visible_positionRange (start stop : Nat) : (positionRange start stop).Visible := by
  rw [positionRange, visible_append, visible_cons]
  exact ⟨visible_decimal _, by decide, visible_decimal _⟩

theorem DecodeError.visible_message {error : DecodeError}
    (h : ∀ failure, error ≠ .ofSystem failure) : error.message.Visible := by
  cases error with
  | missingMark => decide
  | ofSystem failure => exact absurd rfl (h failure)
  | malformed encoding first start stop fault =>
    have htitle := encoding.visible_title
    have hrange := visible_positionRange start stop
    have hfault : fault.message.Visible := by cases fault <;> decide
    unfold message
    dsimp only
    split_ifs with hone
    · simp only [visible_append, visible_cons, visible_decimal, visible_hexByte, htitle, hfault,
        and_true]
      decide
    · simp only [visible_append, visible_cons, hrange, htitle, hfault, and_true]
      decide

theorem EncodeFault.visible_message (fault : EncodeFault) : fault.message.Visible := by
  cases fault with
  | surrogates => decide
  | outOfRange limit =>
    unfold message
    simp only [visible_append, visible_decimal, and_true]
    decide

theorem EncodeError.visible_message {error : EncodeError}
    (h : ∀ failure, error ≠ .ofSystem failure) : error.message.Visible := by
  cases error with
  | ofSystem failure => exact absurd rfl (h failure)
  | missing encoding first start stop fault =>
    have htitle := encoding.visible_title
    have hrange := visible_positionRange start stop
    have hfault := fault.visible_message
    unfold message
    dsimp only
    split_ifs with hone
    · simp only [visible_append, visible_cons, visible_decimal, visible_codeEscape, htitle, hfault,
        and_true]
      decide
    · simp only [visible_append, visible_cons, hrange, htitle, hfault, and_true]
      decide

theorem FileSystem.Refusal.visible_message (refusal : FileSystem.Refusal) :
    refusal.message.Visible := by
  obtain ⟨fault, path⟩ := refusal
  have hwords : fault.words.Visible := by cases fault <;> decide
  have hquoted : (fault.words ++ ": ".toList ++ quote path.toText).Visible := by
    simp only [visible_append, hwords, visible_quote, and_true, true_and]
    decide
  cases fault with
  | embeddedNull => exact hwords
  | noEntry | alreadyExists | notDirectory | isDirectory | nameTooLong | permissionDenied =>
    exact hquoted

/-- A shortened name has no characters of its own but the one that replaces others. -/
theorem mem_shownName {limit : Nat} {name : Text} {c : Char} (h : c ∈ shownName limit name) :
    c ∈ name ∨ c = '\uFFFD' := by
  induction name generalizing limit with
  | nil => cases h
  | cons first rest ih =>
    rw [shownName] at h
    split_ifs at h with hfits hnone
    · rcases List.mem_cons.mp h with rfl | hrest
      · exact .inl List.mem_cons_self
      · exact (ih hrest).imp_left (List.mem_cons_of_mem first)
    · cases h
    · exact .inr (List.mem_singleton.mp h)

/-- The words about a name have no other characters that are not printable. -/
theorem NameFault.not_mem_message (fault : NameFault) {name : Text} {c : Char}
    (hc : isPrintable c = false) (hname : c ∉ name) : c ∉ fault.message name := by
  have hother (words : Text) (hwords : words.Visible) : c ∉ words := hwords.not_mem hc
  have hprintable : isPrintable '\uFFFD' = true := by decide +kernel
  have hreplaced : c ≠ '\uFFFD' := by
    rintro rfl
    exact absurd hprintable (ne_true_of_eq_false hc)
  cases fault with
  | unknown => exact List.not_mem_append (hother _ (by decide)) hname
  | notText =>
    have hshown : c ∉ shownName shownNameLimit name := fun hmem =>
      (mem_shownName hmem).elim hname hreplaced
    have hmark : c ≠ apostrophe := fun h => hother [apostrophe] (by decide) (h ▸ List.mem_cons_self)
    show c ∉ apostrophe :: (shownName shownNameLimit name ++ apostrophe ::
      " is not a text encoding; use codecs.open() to handle arbitrary codecs".toList)
    refine List.not_mem_cons_of_ne_of_not_mem hmark (List.not_mem_append hshown ?_)
    exact List.not_mem_cons_of_ne_of_not_mem hmark (hother _ (by decide))

/-- The message of a failure is visible, unless it gives a name as it is, or is that of a codec of
the system. -/
theorem DumpError.visible_message {error : DumpError}
    (hname : ∀ fault name, error ≠ .noEncoding fault name) (hcodec : error.codecFailure? = none) :
    error.message.Visible := by
  cases error with
  | unmatchedClose offset =>
    exact visible_append.mpr ⟨by decide, visible_decimal offset⟩
  | unknownLanguage name =>
    have hnames : (joinWith ", ".toList (Language.all.map Language.name)).Visible := by
      refine visible_joinWith (by decide) fun name hname => ?_
      obtain ⟨language, -, rfl⟩ := List.mem_map.mp hname
      exact language.visible_name
    show Visible ("No grammar registered for ".toList ++ quoteOption name ++
      ". Known languages are ".toList ++ joinWith ", ".toList (Language.all.map Language.name) ++
      ['.'])
    simp only [visible_append, visible_quoteOption, hnames, and_true]
    decide
  | conflictingFlags conflict => cases conflict <;> decide
  | momentOutOfRange | reportFrozen | countTooLarge | noTitle => decide
  | missingVariable name => exact visible_quote name
  | refused refusal => exact refusal.visible_message
  | nullInEncoding => decide
  | noEncoding fault name => exact absurd rfl (hname fault name)
  | undecodable error | unparsable error | unencodable error =>
    refine error.visible_message fun failure hfailure => ?_
    rw [hfailure] at hcodec
    cases hcodec

/-- The failure of a codec of the system has the words of the codec. -/
theorem DumpError.message_eq {error : DumpError} {failure : CodecFailure}
    (h : error.codecFailure? = some failure) : error.message = failure.message := by
  unfold codecFailure? at h
  split at h
  · cases h
    rfl
  · cases h
    rfl
  · cases h
    rfl
  · cases h

/-- A character in the message of a failure is printable, or it is one of the encoding's name, if
the failure is that no encoding has this name, or of the words of a codec. -/
theorem DumpError.not_mem_message {error : DumpError} {encoding : Text}
    (h : ∀ fault name, error = .noEncoding fault name → name = encoding) {c : Char}
    (hc : isPrintable c = false) (hencoding : c ∉ encoding)
    (hcodec : ∀ failure, error.codecFailure? = some failure → c ∉ failure.message) :
    c ∉ error.message := by
  by_cases hunknown : ∃ fault name, error = .noEncoding fault name
  · obtain ⟨fault, name, rfl⟩ := hunknown
    obtain rfl := h fault name rfl
    exact fault.not_mem_message hc hencoding
  · rcases hfailure : error.codecFailure? with _ | failure
    · exact (DumpError.visible_message (fun fault name hname => hunknown ⟨fault, name, hname⟩)
        hfailure).not_mem hc
    · rw [message_eq hfailure]
      exact hcodec failure hfailure

end SyntaxReport
