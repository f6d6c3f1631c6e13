import Mathlib.Tactic.SplitIfs
import SyntaxReport.Report.Store

/-!
# Whose failure it is

The decoders of this library read their bytes from left to right and stop at the first that does not
fit, with a failure of their own. So a codec of the system has failed only where it has been asked
for.

Results:
* `Encoding.failsOwn_decode`: a decoder never gives a failure of the system.
* `decodeBytes_of_own`: under the name of an encoding, bytes are text, or its decoder has failed.
-/

namespace SyntaxReport

/-- All failures are those of a decoder of this library. -/
def FailsOwn {α : Type} (result : Except DecodeError α) : Prop :=
  ∀ failure, result ≠ .error (.ofSystem failure)

variable {α β : Type}

theorem failsOwn_ok (value : α) : FailsOwn (.ok value) := nofun

theorem failsOwn_malformed {encoding : Encoding} {first : UInt8} {start stop : Nat}
    {fault : DecodeFault} : FailsOwn (.error (.malformed encoding first start stop fault) :
      Except DecodeError α) := nofun

/-- What is decoded first does not change whose failure it is. -/
theorem FailsOwn.map {result : Except DecodeError α} (h : FailsOwn result) (f : α → β) :
    FailsOwn (result.map f) := by
  rintro failure hfailed
  cases result with
  | ok value => cases hfailed
  | error error => exact h failure (congrArg Except.error (Except.error.inj hfailed))

namespace Encoding

theorem SingleByte.failsOwn_decodeFrom (encoding : Encoding) (limit position : Nat)
    (bytes : Bytes) : FailsOwn (SingleByte.decodeFrom encoding limit position bytes) := by
  fun_induction SingleByte.decodeFrom encoding limit position bytes with
  | case1 => exact failsOwn_ok []
  | case2 position b rest hfits ih => exact ih.map _
  | case3 position b rest hlarge => exact failsOwn_malformed

theorem Utf16.failsOwn_decodeFrom (order : Utf16.Order) (position : Nat) (bytes : Bytes) :
    FailsOwn (Utf16.decodeFrom order position bytes) := by
  fun_induction Utf16.decodeFrom order position bytes <;>
    first
    | exact failsOwn_ok []
    | exact failsOwn_malformed
    | exact FailsOwn.map ‹_› _

theorem Utf8.failsOwn_decodeFrom (position : Nat) (pending : Option Utf8.Pending) (bytes : Bytes) :
    FailsOwn (Utf8.decodeFrom position pending bytes) := by
  fun_induction Utf8.decodeFrom position pending bytes <;>
    first
    | exact failsOwn_ok []
    | exact failsOwn_malformed
    | exact FailsOwn.map ‹_› _
    | assumption

/-- A decoder fails on its own account. -/
theorem failsOwn_decode (encoding : Encoding) (bytes : Bytes) :
    FailsOwn (encoding.decode bytes) := by
  cases encoding with
  | utf8 => exact Utf8.failsOwn_decodeFrom 0 none bytes
  | utf8Marked =>
    show FailsOwn (Utf8.decodeMarked bytes)
    unfold Utf8.decodeMarked
    split_ifs
    · exact Utf8.failsOwn_decodeFrom 0 none _
    · exact failsOwn_ok []
    · exact Utf8.failsOwn_decodeFrom 0 none bytes
  | utf16 =>
    show FailsOwn (Utf16.decodeMarked bytes)
    unfold Utf16.decodeMarked
    split_ifs
    · exact Utf16.failsOwn_decodeFrom .little 2 _
    · exact Utf16.failsOwn_decodeFrom .big 2 _
    · have hplain : FailsOwn (Utf16.decode .little bytes) :=
        Utf16.failsOwn_decodeFrom .little 0 bytes
      split
      · rename_i error herror
        exact herror ▸ hplain
      · exact failsOwn_ok []
      · nofun
  | utf16Little => exact Utf16.failsOwn_decodeFrom .little 0 bytes
  | utf16Big => exact Utf16.failsOwn_decodeFrom .big 0 bytes
  | ascii => exact SingleByte.failsOwn_decodeFrom ascii 0x80 0 bytes
  | latin1 => exact SingleByte.failsOwn_decodeFrom latin1 0x100 0 bytes

/-- So does what encodes. -/
theorem encode_ne_ofSystem (encoding : Encoding) (points : Points) (failure : CodecFailure) :
    encoding.encode points ≠ .error (.ofSystem failure) := by
  unfold encode encodeError?
  cases points.dropWhile encoding.has <;> nofun

end Encoding

variable [Codecs] {name : Text} {encoding : Encoding}

/-- Under the name of an encoding of this library, bytes are text, or they are malformed. -/
theorem decodeBytes_of_own (h : Encoding.ofName? name = some encoding) (bytes : Bytes) :
    (∃ t : Text, decodeBytes name bytes = .ok t.points) ∨
      ∃ error, decodeBytes name bytes = .error error ∧ error.codecFailure? = none := by
  unfold decodeBytes findCodec
  rw [h]
  dsimp only [Codec.decode]
  cases hdecoded : encoding.decode bytes with
  | ok t => exact .inl ⟨t, rfl⟩
  | error error =>
    refine .inr ⟨_, rfl, ?_⟩
    cases error with
    | ofSystem failure => exact absurd hdecoded (encoding.failsOwn_decode bytes failure)
    | malformed _ _ _ _ _ | missingMark => rfl

/-- Under such a name, strings are not encoded by a codec of the system. -/
theorem codecFailure?_of_encodePoints (h : Encoding.ofName? name = some encoding)
    {points : Points} {error : DumpError} (hfailed : encodePoints name points = .error error) :
    error.codecFailure? = none := by
  unfold encodePoints findCodec at hfailed
  rw [h] at hfailed
  dsimp only [Codec.encode] at hfailed
  cases hencoded : encoding.encode points with
  | ok bytes =>
    rw [hencoded] at hfailed
    cases hfailed
  | error failure =>
    rw [hencoded] at hfailed
    obtain rfl := Except.error.inj hfailed
    cases failure with
    | ofSystem failure => exact absurd hencoded (encoding.encode_ne_ofSystem points failure)
    | missing _ _ _ _ _ => rfl

end SyntaxReport
