import Mathlib.Data.List.Forall2
import SyntaxReport.Proofs.Encoding.Utf8

/-!
# Well-formed UTF-8

Bytes are well-formed UTF-8 if they are made of complete characters. The first byte of a character
announces how many follow, and together they carry the bits of a number. That number must need as
many bytes as there are, and it must be a code point: no surrogate, and not beyond the last one.

Decoding accepts exactly the well-formed bytes. Where it fails, all that lies before the failure is
well-formed, and no longer beginning is.

Results:
* `isCharacter_iff`: the complete characters are the bytes of single characters.
* `decodeFrom_ends`: decoding gets through complete characters, and stops where none begins.
* `decode_eq_ok_iff`, `wellFormed_iff`: the bytes of texts are the well-formed ones.
* `decode_of_not_wellFormed`: where decoding fails.
-/

namespace SyntaxReport.Encoding.Utf8

/-! ## Complete characters -/

/-- A byte that continues a character. It carries six bits. -/
def Continues (b : UInt8) : Prop := 0x80 ≤ b.toNat ∧ b.toNat < 0xC0

/-- The bytes carry the bits of a number: the first byte announces how many continue it. -/
inductive Carries : Bytes → Nat → Prop
  | one {a : UInt8} : a.toNat < 0x80 → Carries [a] a.toNat
  | two {a b : UInt8} : 0xC0 ≤ a.toNat → a.toNat < 0xE0 → Continues b →
      Carries [a, b] ((a.toNat - 0xC0) * 0x40 + (b.toNat - 0x80))
  | three {a b c : UInt8} : 0xE0 ≤ a.toNat → a.toNat < 0xF0 → Continues b → Continues c →
      Carries [a, b, c]
        ((a.toNat - 0xE0) * 0x1000 + (b.toNat - 0x80) * 0x40 + (c.toNat - 0x80))
  | four {a b c d : UInt8} : 0xF0 ≤ a.toNat → a.toNat < 0xF8 → Continues b → Continues c →
      Continues d →
      Carries [a, b, c, d]
        ((a.toNat - 0xF0) * 0x40000 + (b.toNat - 0x80) * 0x1000 + (c.toNat - 0x80) * 0x40 +
          (d.toNat - 0x80))

/-- The least number that does not fit into fewer bytes than the given count. -/
def leastIn : Nat → Nat
  | 2 => 0x80
  | 3 => 0x800
  | 4 => 0x10000
  | _ => 0

/-- The bytes are one complete character in its shortest form, and the number that they carry is a
code point: it does not lie beyond the last one, and is no surrogate. -/
def IsCharacter (bytes : Bytes) : Prop :=
  ∃ value, Carries bytes value ∧ leastIn bytes.length ≤ value ∧ value ≤ 0x10FFFF ∧
    ¬(0xD800 ≤ value ∧ value ≤ 0xDFFF)

/-- A byte is the one with its value. -/
theorem ofNat_eq {n : Nat} {b : UInt8} (h : n = b.toNat) : UInt8.ofNat n = b := by
  rw [h, UInt8.ofNat_toNat]

/-- In its shortest form, a number is carried by the bytes of its code point. -/
theorem Carries.encodeCode_eq {bytes : Bytes} {value : Nat} (h : Carries bytes value)
    (hleast : leastIn bytes.length ≤ value) (hlast : value ≤ 0x10FFFF) :
    encodeCode value = bytes := by
  cases h with
  | one ha => rw [encodeCode, if_pos ha, ofNat_eq rfl]
  | @two a b ha ha' hb =>
    obtain ⟨hb, hb'⟩ := hb
    change 0x80 ≤ _ at hleast
    rw [encodeCode, if_neg (by omega), if_pos (by omega), ofNat_eq (b := a) (by omega),
      ofNat_eq (b := b) (by omega)]
  | @three a b c ha ha' hb hc =>
    obtain ⟨hb, hb'⟩ := hb
    obtain ⟨hc, hc'⟩ := hc
    change 0x800 ≤ _ at hleast
    rw [encodeCode, if_neg (by omega), if_neg (by omega), if_pos (by omega),
      ofNat_eq (b := a) (by omega), ofNat_eq (b := b) (by omega), ofNat_eq (b := c) (by omega)]
  | @four a b c d ha ha' hb hc hd =>
    obtain ⟨hb, hb'⟩ := hb
    obtain ⟨hc, hc'⟩ := hc
    obtain ⟨hd, hd'⟩ := hd
    change 0x10000 ≤ _ at hleast
    rw [encodeCode, if_neg (by omega), if_neg (by omega), if_neg (by omega),
      ofNat_eq (b := a) (by omega), ofNat_eq (b := b) (by omega), ofNat_eq (b := c) (by omega),
      ofNat_eq (b := d) (by omega)]

theorem continues_ofNat (bits : Nat) : Continues (UInt8.ofNat (0x80 + bits % 0x40)) := by
  rw [Continues, toNat_continuation]
  omega

/-- The bytes of a code point carry it, in its shortest form. -/
theorem carries_encodeCode {n : Nat} (hlast : n ≤ 0x10FFFF) :
    Carries (encodeCode n) n ∧ leastIn (encodeCode n).length ≤ n := by
  unfold encodeCode
  split_ifs with hone htwo hthree
  · have ha : (UInt8.ofNat n).toNat = n := toNat_ofNat (by omega)
    have hcarries := Carries.one (a := UInt8.ofNat n) (by omega)
    rw [ha] at hcarries
    exact ⟨hcarries, Nat.zero_le n⟩
  · have ha : (UInt8.ofNat (0xC0 + n / 0x40)).toNat = 0xC0 + n / 0x40 := toNat_ofNat (by omega)
    have hcarries := Carries.two (a := UInt8.ofNat (0xC0 + n / 0x40)) (by omega) (by omega)
      (continues_ofNat n)
    rw [ha, toNat_continuation, show (0xC0 + n / 0x40 - 0xC0) * 0x40 + (0x80 + n % 0x40 - 0x80) = n
      by omega] at hcarries
    exact ⟨hcarries, Nat.not_lt.mp hone⟩
  · have ha : (UInt8.ofNat (0xE0 + n / 0x1000)).toNat = 0xE0 + n / 0x1000 := toNat_ofNat (by omega)
    have hcarries := Carries.three (a := UInt8.ofNat (0xE0 + n / 0x1000)) (by omega) (by omega)
      (continues_ofNat (n / 0x40)) (continues_ofNat n)
    rw [ha, toNat_continuation, toNat_continuation, show (0xE0 + n / 0x1000 - 0xE0) * 0x1000 +
      (0x80 + n / 0x40 % 0x40 - 0x80) * 0x40 + (0x80 + n % 0x40 - 0x80) = n by omega] at hcarries
    exact ⟨hcarries, Nat.not_lt.mp htwo⟩
  · have ha : (UInt8.ofNat (0xF0 + n / 0x40000)).toNat = 0xF0 + n / 0x40000 :=
      toNat_ofNat (by omega)
    have hcarries := Carries.four (a := UInt8.ofNat (0xF0 + n / 0x40000)) (by omega) (by omega)
      (continues_ofNat (n / 0x1000)) (continues_ofNat (n / 0x40)) (continues_ofNat n)
    rw [ha, toNat_continuation, toNat_continuation, toNat_continuation,
      show (0xF0 + n / 0x40000 - 0xF0) * 0x40000 + (0x80 + n / 0x1000 % 0x40 - 0x80) * 0x1000 +
        (0x80 + n / 0x40 % 0x40 - 0x80) * 0x40 + (0x80 + n % 0x40 - 0x80) = n by omega] at hcarries
    exact ⟨hcarries, Nat.not_lt.mp hthree⟩

/-- The complete characters are the bytes of single characters. -/
theorem isCharacter_iff {bytes : Bytes} : IsCharacter bytes ↔ ∃ c : Char, encodeChar c = bytes := by
  constructor
  · rintro ⟨value, hcarries, hleast, hlast, hsurrogate⟩
    have hvalid : value.isValidChar := by
      unfold Nat.isValidChar
      omega
    exact ⟨Char.ofNatAux value hvalid, hcarries.encodeCode_eq hleast hlast⟩
  · rintro ⟨c, rfl⟩
    have hvalid : c.toNat.isValidChar := c.valid
    unfold Nat.isValidChar at hvalid
    obtain ⟨hcarries, hleast⟩ := carries_encodeCode (n := c.toNat) (by omega)
    exact ⟨c.toNat, hcarries, hleast, by omega, by omega⟩

/-- A byte below 80 is in no character of several bytes. -/
theorem Carries.eq_of_mem {bytes : Bytes} {value : Nat} (h : Carries bytes value) {b : UInt8}
    (hb : b ∈ bytes) (hlow : b.toNat < 0x80) : value = b.toNat := by
  cases h with
  | one ha =>
    obtain rfl := List.mem_singleton.mp hb
    rfl
  | two ha ha' hc =>
    obtain ⟨hc, -⟩ := hc
    simp only [List.mem_cons, List.not_mem_nil, or_false] at hb
    rcases hb with rfl | rfl <;> omega
  | three ha ha' hc hd =>
    obtain ⟨hc, -⟩ := hc
    obtain ⟨hd, -⟩ := hd
    simp only [List.mem_cons, List.not_mem_nil, or_false] at hb
    rcases hb with rfl | rfl | rfl <;> omega
  | four ha ha' hc hd he =>
    obtain ⟨hc, -⟩ := hc
    obtain ⟨hd, -⟩ := hd
    obtain ⟨he, -⟩ := he
    simp only [List.mem_cons, List.not_mem_nil, or_false] at hb
    rcases hb with rfl | rfl | rfl | rfl <;> omega

/-- A byte below 80 is a character of its own. -/
theorem toNat_eq_of_mem_encodeChar {c : Char} {b : UInt8} (hb : b ∈ encodeChar c)
    (hlow : b.toNat < 0x80) : c.toNat = b.toNat := by
  have hvalid : c.toNat.isValidChar := c.valid
  unfold Nat.isValidChar at hvalid
  exact (carries_encodeCode (n := c.toNat) (by omega)).1.eq_of_mem hb hlow

theorem encodeChar_ne_nil (c : Char) : encodeChar c ≠ [] := by
  intro h
  unfold encodeChar encodeCode at h
  split_ifs at h

/-! ## Where decoding stops -/

/-- The byte lies within the bounds. -/
def Admits (bounds : Bounds) (b : UInt8) : Prop := bounds.1 ≤ b.toNat ∧ b.toNat ≤ bounds.2

/-- With a character under way, either the bytes that it needs are there, or decoding fails on
account of it. -/
theorem decodeFrom_pending (p : Pending) (position : Nat) (rest : Bytes) :
    (∃ others more, rest = others ++ more ∧ List.Forall₂ Admits (p.next :: p.later) others) ∨
      ∃ stop fault, decodeFrom position (some p) rest =
        .error (.malformed .utf8 p.first p.start stop fault) := by
  induction rest generalizing p position with
  | nil => exact .inr ⟨position, .unexpectedEnd, rfl⟩
  | cons b rest ih =>
    by_cases hb : Admits p.next b
    · cases hlater : p.later with
      | nil => exact .inl ⟨[b], rest, rfl, .cons hb .nil⟩
      | cons next later =>
        rw [decodeFrom_middle hb hlater]
        rcases ih { p with value := p.value * 0x40 + b.toNat % 0x40, next, later } (position + 1)
          with ⟨others, more, rfl, hothers⟩ | hfails
        · exact .inl ⟨b :: others, more, rfl, .cons hb hothers⟩
        · exact .inr hfails
    · refine .inr ⟨position, .invalidContinuation, ?_⟩
      rw [decodeFrom]
      exact if_neg hb

/-- Two bytes are a character if the first one announces two and is neither C0 nor C1. -/
theorem isCharacter_two {a b : UInt8} (ha : 0xC2 ≤ a.toNat) (ha' : a.toNat < 0xE0)
    (hb : Continues b) : IsCharacter [a, b] := by
  refine ⟨_, .two (by omega) ha' hb, ?_⟩
  obtain ⟨hb, hb'⟩ := hb
  refine ⟨?_, by omega, by omega⟩
  show 0x80 ≤ _
  omega

/-- Three bytes are a character if the second one rules out a shorter form and surrogates. -/
theorem isCharacter_three {a b c : UInt8} (ha : 0xE0 ≤ a.toNat) (ha' : a.toNat < 0xF0)
    (hb : Continues b) (hc : Continues c) (hshort : a.toNat = 0xE0 → 0xA0 ≤ b.toNat)
    (hsurrogate : a.toNat = 0xED → b.toNat < 0xA0) : IsCharacter [a, b, c] := by
  refine ⟨_, .three ha ha' hb hc, ?_⟩
  obtain ⟨hb, hb'⟩ := hb
  obtain ⟨hc, hc'⟩ := hc
  refine ⟨?_, by omega, by omega⟩
  show 0x800 ≤ _
  omega

/-- Four bytes are a character if the second one rules out a shorter form, and what lies beyond the
last code point. -/
theorem isCharacter_four {a b c d : UInt8} (ha : 0xF0 ≤ a.toNat) (ha' : a.toNat < 0xF5)
    (hb : Continues b) (hc : Continues c) (hd : Continues d)
    (hshort : a.toNat = 0xF0 → 0x90 ≤ b.toNat) (hlast : a.toNat = 0xF4 → b.toNat < 0x90) :
    IsCharacter [a, b, c, d] := by
  refine ⟨_, .four ha (by omega) hb hc hd, ?_⟩
  obtain ⟨hb, hb'⟩ := hb
  obtain ⟨hc, hc'⟩ := hc
  obtain ⟨hd, hd'⟩ := hd
  refine ⟨?_, by omega, by omega⟩
  show 0x10000 ≤ _
  omega

/-- A byte that can start no character. -/
theorem lead?_eq_none {n : Nat} (h : 0x80 ≤ n ∧ n < 0xC2 ∨ 0xF5 ≤ n) : lead? n = none := by
  rcases h with ⟨hlow, hhigh⟩ | hhigh
  · rw [lead?, if_neg (by omega), if_pos hhigh]
  · unfold lead?
    repeat rw [if_neg (by omega)]

/-- What the bounds of the second of three bytes rule out. -/
theorem continues_of_secondOfThree {top : Nat} {b : UInt8} (h : Admits (secondOfThree top) b) :
    Continues b ∧ (top = 0 → 0xA0 ≤ b.toNat) ∧ (top = 0xD → b.toNat < 0xA0) := by
  unfold Admits secondOfThree tail at h
  unfold Continues
  split_ifs at h
  all_goals
    dsimp only at h
    omega

/-- What the bounds of the second of four bytes rule out. -/
theorem continues_of_secondOfFour {top : Nat} {b : UInt8} (h : Admits (secondOfFour top) b) :
    Continues b ∧ (top = 0 → 0x90 ≤ b.toNat) ∧ (top = 4 → b.toNat < 0x90) := by
  unfold Admits secondOfFour tail at h
  unfold Continues
  split_ifs at h
  all_goals
    dsimp only at h
    omega

theorem continues_of_tail {b : UInt8} (h : Admits tail b) : Continues b :=
  ⟨h.1, Nat.lt_succ_of_le h.2⟩

/-- The bytes that a first byte asks for complete a character. -/
theorem isCharacter_of_lead? {a : UInt8} {value : Nat} {bounds : List Bounds} {others : Bytes}
    (hlead : lead? a.toNat = some (value, bounds)) (h : List.Forall₂ Admits bounds others) :
    IsCharacter (a :: others) := by
  have hstarts : ¬(0x80 ≤ a.toNat ∧ a.toNat < 0xC2 ∨ 0xF5 ≤ a.toNat) := by
    intro hnone
    rw [lead?_eq_none hnone] at hlead
    cases hlead
  by_cases hone : a.toNat < 0x80
  · rw [lead?_one hone] at hlead
    obtain ⟨rfl, rfl⟩ := Prod.mk.inj (Option.some.inj hlead)
    obtain rfl := List.forall₂_nil_left_iff.mp h
    exact ⟨_, .one hone, Nat.zero_le _, by omega, by omega⟩
  by_cases htwo : a.toNat < 0xE0
  · obtain ⟨top, htop⟩ : ∃ top, a.toNat = 0xC0 + top := ⟨a.toNat - 0xC0, by omega⟩
    rw [htop, lead?_two (by omega) (by omega)] at hlead
    obtain ⟨rfl, rfl⟩ := Prod.mk.inj (Option.some.inj hlead)
    simp only [List.forall₂_cons_left_iff, List.forall₂_nil_left_iff] at h
    obtain ⟨b, _, hb, rfl, rfl⟩ := h
    exact isCharacter_two (by omega) htwo (continues_of_tail hb)
  by_cases hthree : a.toNat < 0xF0
  · obtain ⟨top, htop⟩ : ∃ top, a.toNat = 0xE0 + top := ⟨a.toNat - 0xE0, by omega⟩
    rw [htop, lead?_three top (by omega)] at hlead
    obtain ⟨rfl, rfl⟩ := Prod.mk.inj (Option.some.inj hlead)
    simp only [List.forall₂_cons_left_iff, List.forall₂_nil_left_iff] at h
    obtain ⟨b, _, hb, ⟨c, _, hc, rfl, rfl⟩, rfl⟩ := h
    obtain ⟨hb, hshort, hsurrogate⟩ := continues_of_secondOfThree hb
    exact isCharacter_three (by omega) hthree hb (continues_of_tail hc) (by omega) (by omega)
  · obtain ⟨top, htop⟩ : ∃ top, a.toNat = 0xF0 + top := ⟨a.toNat - 0xF0, by omega⟩
    rw [htop, lead?_four top (by omega)] at hlead
    obtain ⟨rfl, rfl⟩ := Prod.mk.inj (Option.some.inj hlead)
    simp only [List.forall₂_cons_left_iff, List.forall₂_nil_left_iff] at h
    obtain ⟨b, _, hb, ⟨c, _, hc, ⟨d, _, hd, rfl, rfl⟩, rfl⟩, rfl⟩ := h
    obtain ⟨hb, hshort, hlast⟩ := continues_of_secondOfFour hb
    exact isCharacter_four (by omega) (by omega) hb (continues_of_tail hc) (continues_of_tail hd)
      (by omega) (by omega)

/-- At the start of some bytes, a complete character stands there, or decoding fails there. -/
theorem decodeFrom_cons (position : Nat) (b : UInt8) (rest : Bytes) :
    (∃ c more, b :: rest = encodeChar c ++ more) ∨
      ∃ stop fault, decodeFrom position none (b :: rest) =
        .error (.malformed .utf8 b position stop fault) := by
  cases hlead : lead? b.toNat with
  | none =>
    refine .inr ⟨position + 1, .invalidStart, ?_⟩
    rw [decodeFrom, hlead]
  | some found =>
    obtain ⟨value, bounds⟩ := found
    cases bounds with
    | nil =>
      obtain ⟨c, hc⟩ := isCharacter_iff.mp (isCharacter_of_lead? hlead .nil)
      exact .inl ⟨c, rest, by rw [hc]; rfl⟩
    | cons next later =>
      rw [decodeFrom_lead hlead]
      rcases decodeFrom_pending ⟨b, position, value, next, later⟩ (position + 1) rest
        with ⟨others, more, rfl, hothers⟩ | hfails
      · obtain ⟨c, hc⟩ := isCharacter_iff.mp (isCharacter_of_lead? hlead hothers)
        exact .inl ⟨c, more, by rw [hc]; rfl⟩
      · exact .inr hfails

/-- The bytes of a text are read as that text, and decoding goes on behind them. -/
theorem decodeFrom_encode_append (t : Text) (position : Nat) (rest : Bytes) :
    decodeFrom position none (encode t ++ rest) =
      (decodeFrom (position + (encode t).length) none rest).map (t ++ ·) := by
  induction t generalizing position with
  | nil =>
    show decodeFrom position none rest = (decodeFrom position none rest).map ([] ++ ·)
    cases decodeFrom position none rest <;> rfl
  | cons c t ih =>
    have hcons : encode (c :: t) = encodeChar c ++ encode t := List.flatMap_cons
    rw [hcons, List.append_assoc, decodeFrom_encodeChar, ih, List.length_append, Nat.add_assoc]
    cases decodeFrom (position + ((encodeChar c).length + (encode t).length)) none rest <;> rfl

/-- Decoding fails at the position from which the rest is read. -/
def StopsAt (position : Nat) (rest : Bytes) : Prop :=
  ∃ first stop fault, rest.head? = some first ∧
    decodeFrom position none rest = .error (.malformed .utf8 first position stop fault)

/-- Bytes are those of a text up to their end, or up to the point at which decoding fails. -/
theorem decodeFrom_ends (position : Nat) (bytes : Bytes) :
    ∃ t rest, bytes = encode t ++ rest ∧
      (rest = [] ∨ StopsAt (position + (encode t).length) rest) := by
  cases bytes with
  | nil => exact ⟨[], [], rfl, .inl rfl⟩
  | cons b rest =>
    rcases decodeFrom_cons position b rest with ⟨c, more, hsplit⟩ | ⟨stop, fault, hfails⟩
    · -- behind the character there are fewer bytes
      have hfewer : more.length ≤ rest.length := by
        have hpos := List.length_pos_iff.mpr (encodeChar_ne_nil c)
        have hlength := congrArg List.length hsplit
        rw [List.length_cons, List.length_append] at hlength
        omega
      obtain ⟨t, left, rfl, hends⟩ := decodeFrom_ends (position + (encodeChar c).length) more
      have hcons : encode (c :: t) = encodeChar c ++ encode t := List.flatMap_cons
      refine ⟨c :: t, left, ?_, ?_⟩
      · rw [hcons, List.append_assoc, hsplit]
      · rwa [hcons, List.length_append, ← Nat.add_assoc]
    · exact ⟨[], b :: rest, rfl, .inr ⟨b, stop, fault, rfl, hfails⟩⟩
termination_by bytes.length

/-- The bytes of a text are read as the text, and no other bytes are. -/
theorem decode_eq_ok_iff {bytes : Bytes} {t : Text} : decode bytes = .ok t ↔ encode t = bytes := by
  constructor
  · intro h
    obtain ⟨read, rest, rfl, rfl | ⟨first, stop, fault, -, hfails⟩⟩ := decodeFrom_ends 0 bytes
    · rw [List.append_nil, decode_encode] at h
      rw [Except.ok.inj h, List.append_nil]
    · rw [decode, decodeFrom_encode_append, hfails] at h
      cases h
  · rintro rfl
    exact decode_encode t

/-! ## Well-formed bytes -/

/-- The bytes are made of complete characters. -/
def WellFormed (bytes : Bytes) : Prop :=
  ∃ characters : List Bytes, (∀ character ∈ characters, IsCharacter character) ∧
    characters.flatten = bytes

/-- The bytes of texts are the well-formed ones. -/
theorem wellFormed_iff {bytes : Bytes} : WellFormed bytes ↔ ∃ t, encode t = bytes := by
  constructor
  · rintro ⟨characters, hcharacters, rfl⟩
    induction characters with
    | nil => exact ⟨[], rfl⟩
    | cons character more ih =>
      obtain ⟨hcharacter, hmore⟩ := List.forall_mem_cons.mp hcharacters
      obtain ⟨c, rfl⟩ := isCharacter_iff.mp hcharacter
      obtain ⟨t, ht⟩ := ih hmore
      exact ⟨c :: t, by rw [List.flatten_cons, ← ht]; rfl⟩
  · rintro ⟨t, rfl⟩
    refine ⟨t.map encodeChar, fun character hcharacter => ?_, rfl⟩
    obtain ⟨c, -, rfl⟩ := List.mem_map.mp hcharacter
    exact isCharacter_iff.mpr ⟨c, rfl⟩

/-- Decoding tells whether bytes are well-formed. -/
theorem wellFormed_iff_decode {bytes : Bytes} : WellFormed bytes ↔ ∃ t, decode bytes = .ok t := by
  simp only [wellFormed_iff, decode_eq_ok_iff]

instance (bytes : Bytes) : Decidable (WellFormed bytes) :=
  decidable_of_iff ((decode bytes).toOption.isSome = true) <| by
    rw [wellFormed_iff_decode]
    cases decode bytes <;> simp [Except.toOption]

/-- The bytes are well-formed up to `length`, and no longer beginning of them is. -/
def WellFormedUpTo (bytes : Bytes) (length : Nat) : Prop :=
  (∃ beginning, beginning <+: bytes ∧ WellFormed beginning ∧ beginning.length = length) ∧
    ∀ beginning, beginning <+: bytes → WellFormed beginning → beginning.length ≤ length

/-- Where decoding fails, the longest well-formed beginning has been read. -/
theorem decode_of_not_wellFormed {bytes : Bytes} (h : ¬WellFormed bytes) :
    ∃ first start stop fault, decode bytes = .error (.malformed .utf8 first start stop fault) ∧
      WellFormedUpTo bytes start ∧ bytes[start]? = some first := by
  obtain ⟨t, rest, rfl, rfl | ⟨first, stop, fault, hfirst, hfails⟩⟩ := decodeFrom_ends 0 bytes
  · exact absurd (wellFormed_iff.mpr ⟨t, (List.append_nil _).symm⟩) h
  rw [Nat.zero_add] at hfails
  have hdecode : decode (encode t ++ rest) =
      .error (.malformed .utf8 first (encode t).length stop fault) := by
    rw [decode, decodeFrom_encode_append, Nat.zero_add, hfails]
    rfl
  refine ⟨first, (encode t).length, stop, fault, hdecode, ⟨?_, ?_⟩, ?_⟩
  · exact ⟨encode t, List.prefix_append _ _, wellFormed_iff.mpr ⟨t, rfl⟩, rfl⟩
  · rintro beginning ⟨behind, hsplit⟩ hwellFormed
    obtain ⟨s, rfl⟩ := wellFormed_iff.mp hwellFormed
    -- Decoding gets through the beginning, so it fails behind it.
    rw [← hsplit, decode, decodeFrom_encode_append, Nat.zero_add] at hdecode
    obtain ⟨u, left, rfl, rfl | ⟨other, stop', fault', -, hfails'⟩⟩ :=
      decodeFrom_ends (encode s).length behind
    · rw [List.append_nil, decodeFrom_encode] at hdecode
      cases hdecode
    · rw [decodeFrom_encode_append, hfails'] at hdecode
      simp only [Except.map, Except.error.injEq, DecodeError.malformed.injEq] at hdecode
      omega
  · rw [List.getElem?_append_right (Nat.le_refl _), Nat.sub_self, ← List.head?_eq_getElem?, hfirst]

end SyntaxReport.Encoding.Utf8
