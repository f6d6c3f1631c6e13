import Mathlib.Tactic.SplitIfs
import SyntaxReport.Proofs.Text.Digits
import SyntaxReport.Text.Quoted

/-!
# Quotations tell their texts

A quotation can be taken for no other. Between its marks every character of the text is written by
an escape, and an escape tells its character and where it ends: a backslash takes the next character
with it, and if this is a letter that announces a code, then also its digits; any other character
stands for itself. No escape begins with the mark in use, so the quotation ends with the first such
mark that no escape has taken. A text that looks like an escape has its backslash written twice.

Results:
* `Escape`: how an escape is read, and `escape_escapeIn`: every character gets one for itself.
* `Escape.append_inj`: what begins with an escape tells the character, and what follows.
* `quote_append_eq_iff`: what begins with a quotation tells the text, and what follows.
* `quoteOption_append_eq_iff`: the same where there may be no text, and the word None is written.
-/

namespace SyntaxReport.Text

variable {mark c c' : Char} {escape escape' s t rest rest' : Text}

/-! ## Escapes -/

/-- The count of digits that a letter behind a backslash announces. -/
def codeWidth? : Char → Option Nat
  | 'x' => some 2
  | 'u' => some 4
  | 'U' => some 8
  | _ => none

/-- What a character behind a backslash stands for, if it announces no digits. -/
def meaning : Char → Char
  | 't' => '\t'
  | 'n' => '\n'
  | 'r' => '\r'
  | c => c

/-- `Escape mark c escape`: between two marks, `escape` is read as the character `c`. -/
inductive Escape (mark : Char) : Char → Text → Prop
  /-- A character other than the mark and the backslash stands for itself. -/
  | plain {c : Char} : c ≠ mark → c ≠ '\\' → Escape mark c [c]
  /-- Behind a backslash it stands for what it means there. -/
  | behind {c : Char} : codeWidth? c = none → Escape mark (meaning c) ['\\', c]
  /-- A letter announces the digits of the code. -/
  | code {letter : Char} {width : Nat} {c : Char} : codeWidth? letter = some width →
      c.toNat < Nat.pow 16 width →
      Escape mark c ('\\' :: letter :: fixedDigits 16 width c.toNat)

/-- A text that begins with an escape tells its character, and what follows. -/
theorem Escape.append_inj (h : Escape mark c escape) (h' : Escape mark c' escape')
    (heq : escape ++ rest = escape' ++ rest') : c = c' ∧ rest = rest' := by
  cases h with
  | plain _ hslash =>
    cases h' with
    | plain _ _ => exact List.cons.inj heq
    | behind _ | code _ _ => exact absurd (List.cons.inj heq).1 hslash
  | @behind c hnone =>
    cases h' with
    | plain _ hslash => exact absurd (List.cons.inj heq).1.symm hslash
    | behind _ =>
      obtain ⟨rfl, hrest⟩ := List.cons.inj (List.cons.inj heq).2
      exact ⟨rfl, hrest⟩
    | code hwidth _ =>
      -- a letter that announces digits has no other meaning
      obtain ⟨rfl, -⟩ := List.cons.inj (List.cons.inj heq).2
      rw [hnone] at hwidth
      cases hwidth
  | @code letter width c hwidth hfits =>
    cases h' with
    | plain _ hslash => exact absurd (List.cons.inj heq).1.symm hslash
    | behind hnone =>
      obtain ⟨rfl, -⟩ := List.cons.inj (List.cons.inj heq).2
      rw [hwidth] at hnone
      cases hnone
    | code hwidth' hfits' =>
      -- the same letter announces as many digits, and these are the code
      obtain ⟨rfl, hdigits⟩ := List.cons.inj (List.cons.inj heq).2
      obtain rfl := Option.some.inj (hwidth.symm.trans hwidth')
      obtain ⟨hcode, hrest⟩ := (fixedDigits_append_eq_iff (by decide) hfits hfits' _ _).mp hdigits
      exact ⟨Char.toNat_inj.mp hcode, hrest⟩

/-- An escape does not begin with the mark. -/
theorem Escape.append_ne (h : Escape mark c escape) (hmark : mark ≠ '\\') :
    escape ++ rest ≠ mark :: rest' := by
  intro heq
  have hfirst := congrArg List.head? heq
  cases h with
  | plain hne _ => exact hne (Option.some.inj hfirst)
  | behind _ | code _ _ => exact hmark (Option.some.inj hfirst).symm

/-! ## Quotations -/

theorem IsMark.ne_backslash (h : IsMark mark) : mark ≠ '\\' := by
  rcases h with rfl | rfl <;> decide

theorem IsMark.escape_self (h : IsMark mark) : Escape mark mark ['\\', mark] := by
  rcases h with rfl | rfl
  · exact .behind (c := apostrophe) rfl
  · exact .behind (c := doubleMark) rfl

/-- The code of a character is an escape for it: its letter announces digits enough. -/
theorem escape_codeEscape (mark c : Char) : Escape mark c (codeEscape c.toNat) := by
  unfold codeEscape
  split_ifs with htwo hfour
  · exact .code rfl htwo
  · exact .code rfl hfour
  · have hvalid : c.toNat < 0xD800 ∨ 0xDFFF < c.toNat ∧ c.toNat < 0x110000 := c.valid
    have hfits : c.toNat < 0x100000000 := by omega
    exact .code rfl hfits

/-- Between two marks, every character is written by an escape that is read as the character. -/
theorem escape_escapeIn (hmark : IsMark mark) (c : Char) : Escape mark c (escapeIn mark c) := by
  unfold escapeIn
  split_ifs with hspecial htab hnewline hreturn hprintable
  · rcases hspecial with rfl | rfl
    · exact hmark.escape_self
    · exact .behind (c := '\\') rfl
  · exact htab ▸ .behind (c := 't') rfl
  · exact hnewline ▸ .behind (c := 'n') rfl
  · exact hreturn ▸ .behind (c := 'r') rfl
  · rw [not_or] at hspecial
    exact .plain hspecial.1 hspecial.2
  · exact escape_codeEscape mark c

/-- What stands before the closing mark tells the quoted text. -/
theorem flatMap_escapeIn_append_inj (hmark : IsMark mark)
    (h : s.flatMap (escapeIn mark) ++ mark :: rest = t.flatMap (escapeIn mark) ++ mark :: rest') :
    s = t ∧ rest = rest' := by
  induction s generalizing t with
  | nil =>
    cases t with
    | nil => exact ⟨rfl, (List.cons.inj h).2⟩
    | cons c t =>
      rw [List.flatMap_cons, List.append_assoc] at h
      exact absurd h.symm ((escape_escapeIn hmark c).append_ne hmark.ne_backslash)
  | cons c s ih =>
    rw [List.flatMap_cons, List.append_assoc] at h
    cases t with
    | nil => exact absurd h ((escape_escapeIn hmark c).append_ne hmark.ne_backslash)
    | cons c' t =>
      rw [List.flatMap_cons, List.append_assoc] at h
      obtain ⟨rfl, hbehind⟩ := (escape_escapeIn hmark c).append_inj (escape_escapeIn hmark c') h
      obtain ⟨rfl, hrest⟩ := ih hbehind
      exact ⟨rfl, hrest⟩

theorem quote_append (t rest : Text) : quote t ++ rest =
    quotationMarkFor t ::
      (t.flatMap (escapeIn (quotationMarkFor t)) ++ quotationMarkFor t :: rest) := by
  simp [quote]

/-- A text that begins with a quotation tells what is quoted, and what follows. -/
theorem quote_append_eq_iff : quote s ++ rest = quote t ++ rest' ↔ s = t ∧ rest = rest' := by
  constructor
  · intro h
    rw [quote_append, quote_append] at h
    -- the first character is the mark, so both quotations have the same one
    obtain ⟨hmark, hinside⟩ := List.cons.inj h
    rw [← hmark] at hinside
    exact flatMap_escapeIn_append_inj (isMark_quotationMarkFor s) hinside
  · rintro ⟨rfl, rfl⟩
    rfl

/-- A newline, and a text that looks like its escape. -/
example : quote "\n".toList = "'\\n'".toList ∧ quote "\\n".toList = "'\\\\n'".toList := by decide

/-- The word for a missing text has no mark in front. -/
theorem quote_append_ne_none : quote t ++ rest ≠ quoteOption none ++ rest' := by
  intro h
  rw [quote_append] at h
  have hfirst : quotationMarkFor t = 'N' := (List.cons.inj h).1
  have hmark := isMark_quotationMarkFor t
  rw [hfirst] at hmark
  rcases hmark with hmark | hmark <;> exact absurd hmark (by decide)

/-- A text that begins with the quotation of a text, or with the word for a missing one, tells
which, and what follows. -/
theorem quoteOption_append_eq_iff {name name' : Option Text} :
    quoteOption name ++ rest = quoteOption name' ++ rest' ↔ name = name' ∧ rest = rest' := by
  cases name with
  | none =>
    cases name' with
    | none => rw [List.append_cancel_left_eq, eq_self, true_and]
    | some t =>
      have hne : quoteOption none ++ rest ≠ quoteOption (some t) ++ rest' :=
        quote_append_ne_none.symm
      simp only [hne, reduceCtorEq, false_and]
  | some s =>
    cases name' with
    | none =>
      have hne : quoteOption (some s) ++ rest ≠ quoteOption none ++ rest' := quote_append_ne_none
      simp only [hne, reduceCtorEq, false_and]
    | some t => rw [quoteOption, quoteOption, quote_append_eq_iff, Option.some.injEq]

end SyntaxReport.Text
