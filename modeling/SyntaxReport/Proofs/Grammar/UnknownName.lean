import SyntaxReport.Proofs.Grammar.Transparent
import SyntaxReport.Proofs.Text.Quotation
import SyntaxReport.Proofs.Text.Visible

/-!
# Names that are refused

A name that no language has is refused, and the message quotes the name. So the message tells which
name was given, or that none was, and it stays on one line whatever the name holds.

Results:
* `message_unknownLanguage_eq_iff`: of unknown names, each has a message of its own.
* `refusal_tells_name`: what can be told from the refusal of a name.
-/

namespace SyntaxReport

open Text

/-- Behind its first words, the message begins with the quoted name, which tells where it ends. -/
theorem DumpError.message_unknownLanguage_eq_iff {name name' : Option Text} :
    (unknownLanguage name).message = (unknownLanguage name').message ↔ name = name' := by
  have hmessage (name : Option Text) : (unknownLanguage name).message =
      "No grammar registered for ".toList ++ (quoteOption name ++ (". Known languages are ".toList ++
        (joinWith ", ".toList (Language.all.map Language.name) ++ ['.']))) := by
    show "No grammar registered for ".toList ++ quoteOption name ++
      ". Known languages are ".toList ++ joinWith ", ".toList (Language.all.map Language.name) ++
      ['.'] = _
    simp only [List.append_assoc]
  constructor
  · intro h
    rw [hmessage, hmessage, List.append_cancel_left_eq] at h
    exact (quoteOption_append_eq_iff.mp h).1
  · rintro rfl
    rfl

namespace GrammarCache

theorem load_of_unregistered {name : Option Text} (h : Unregistered name) (cache : GrammarCache) :
    cache.load name = (cache, .error (.unknownLanguage name)) := by
  rw [load, find_of_unregistered h]

/-- A refusal tells the name. If no language has a name, then asking for its grammar fails, and the
failure is that the language is unknown. Whatever else has been loaded, its message is that of no
other name, also not of a missing one; and it has printable characters only, so that it stays on one
line. -/
theorem refusal_tells_name (cache cache' : GrammarCache) {name name' : Option Text}
    (h : Unregistered name) (h' : Unregistered name') :
    ∃ error error' : DumpError,
      (cache.load name).2 = .error error ∧ (cache'.load name').2 = .error error' ∧
      error.ownKind? = some .unknownLanguage ∧ error'.ownKind? = some .unknownLanguage ∧
      (error.message = error'.message ↔ name = name') ∧
      error.message.Visible ∧ '\n' ∉ error.message ∧ '\r' ∉ error.message := by
  have hvisible : (DumpError.unknownLanguage name).message.Visible :=
    DumpError.visible_message (fun _ _ hother => by cases hother) rfl
  refine ⟨.unknownLanguage name, .unknownLanguage name', ?_, ?_, rfl, rfl,
    DumpError.message_unknownLanguage_eq_iff, hvisible, ?_, ?_⟩
  · rw [load_of_unregistered h]
  · rw [load_of_unregistered h']
  · exact hvisible.not_mem (by decide)
  · exact hvisible.not_mem (by decide)

/-- A name with a newline, and one that looks like its quotation; a missing name, and one that is
the word for it. -/
theorem refusal_tells_name_escaped :
    let broken := some "a\nb".toList
    let escaped := some "a\\nb".toList
    let word := some "None".toList
    Unregistered broken ∧ Unregistered escaped ∧ Unregistered none ∧ Unregistered word ∧
    (∃ error error' : DumpError,
      (empty.load broken).2 = .error error ∧ (empty.load escaped).2 = .error error' ∧
      error.message ≠ error'.message ∧ error.message.Visible ∧ '\n' ∉ error.message) ∧
    ∃ error error' : DumpError,
      (empty.load none).2 = .error error ∧ (empty.load word).2 = .error error' ∧
      error.message ≠ error'.message := by
  intro broken escaped word
  have hbroken : Unregistered broken := fun language => by cases language <;> decide
  have hescaped : Unregistered escaped := fun language => by cases language <;> decide
  have hnone : Unregistered none := fun language => by cases language <;> decide
  have hword : Unregistered word := fun language => by cases language <;> decide
  obtain ⟨error, error', hload, hload', -, -, hsame, hvisible, hline, -⟩ :=
    refusal_tells_name empty empty hbroken hescaped
  obtain ⟨missing, given, hmissing, hgiven, -, -, hsame', -⟩ :=
    refusal_tells_name empty empty hnone hword
  refine ⟨hbroken, hescaped, hnone, hword,
    ⟨error, error', hload, hload', mt hsame.mp (by decide), hvisible, hline⟩,
    missing, given, hmissing, hgiven, mt hsame'.mp (by decide)⟩

end GrammarCache

end SyntaxReport
