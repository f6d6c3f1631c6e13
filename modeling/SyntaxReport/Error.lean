import SyntaxReport.Encoding.Utf8
import SyntaxReport.FileSystem.Access
import SyntaxReport.Grammar.Language

/-!
# Failures

Everything that can go wrong between an input and its report, by its cause. `DumpError.message` puts
a failure into words; `DumpError.ownKind?` tells the failures that this library defines from those
of the system around it.
-/

namespace SyntaxReport

/-- Two flags that exclude each other. -/
inductive Conflict where
  | quietVerbose
  | quietPrint
  deriving DecidableEq, Repr

/-- Why a name is not that of an encoding. -/
inductive NameFault where
  /-- Nothing is known under it. -/
  | unknown
  /-- It is the name of a codec, but of none between bytes and text. -/
  | notText
  deriving DecidableEq, Repr

/-- A failure, by its cause. -/
inductive DumpError where
  /-- A closing parenthesis of a serialized tree has no partner. -/
  | unmatchedClose (offset : Nat)
  /-- No grammar is registered under the name; a missing name is none either. -/
  | unknownLanguage (name : Option Text)
  /-- Two flags exclude each other. -/
  | conflictingFlags (conflict : Conflict)
  /-- A moment lies outside the calendar in universal time. -/
  | momentOutOfRange
  /-- A report cannot be changed. -/
  | reportFrozen
  /-- A text cannot have as many characters as are asked for. -/
  | countTooLarge
  /-- A stream is asked for a title, and has nothing that could set it. -/
  | noTitle
  /-- An environment variable is not set. -/
  | missingVariable (name : Text)
  /-- The file system refuses a path. -/
  | refused (refusal : FileSystem.Refusal)
  /-- The name of an encoding holds the character that ends such names. -/
  | nullInEncoding
  /-- No encoding has the name. -/
  | noEncoding (fault : NameFault) (name : Text)
  /-- Bytes are not text in the encoding. -/
  | undecodable (error : DecodeError)
  /-- The source is no text, and cannot be given to the engine in UTF-8. -/
  | unparsable (error : EncodeError)
  /-- The encoding lacks a character of the report. -/
  | unencodable (error : EncodeError)
  deriving DecidableEq, Repr

/-- Answers that are failures or results can be compared. -/
instance decidableEqExcept {ε α : Type} [DecidableEq ε] [DecidableEq α] :
    DecidableEq (Except ε α)
  | .ok a, .ok b => decidable_of_iff (a = b) (by rw [Except.ok.injEq])
  | .error a, .error b => decidable_of_iff (a = b) (by rw [Except.error.injEq])
  | .ok _, .error _ => isFalse fun h => by cases h
  | .error _, .ok _ => isFalse fun h => by cases h

/-- The kinds of failures that this library defines. -/
inductive OwnKind where
  | unbalancedTree
  | unknownLanguage
  | exclusiveOptions
  deriving DecidableEq, Repr

/-- The flags as they are written on the command line. -/
def Conflict.message : Conflict → Text
  | quietVerbose => "Can't specify both `--quiet` and `--verbose` options".toList
  | quietPrint => "Can't specify both `--quiet` and `--print` options".toList

/-- The number and the words of a fault; a path that ends too early has no number. -/
def SystemFault.words : SystemFault → Text
  | noEntry => "[Errno 2] No such file or directory".toList
  | permissionDenied => "[Errno 13] Permission denied".toList
  | alreadyExists => "[Errno 17] File exists".toList
  | notDirectory => "[Errno 20] Not a directory".toList
  | isDirectory => "[Errno 21] Is a directory".toList
  | nameTooLong => "[Errno 36] File name too long".toList
  | embeddedNull => "embedded null byte".toList

/-- The fault, and the path in quotation marks unless it cannot be one. -/
def FileSystem.Refusal.message (refusal : FileSystem.Refusal) : Text :=
  match refusal.fault with
  | .embeddedNull => refusal.fault.words
  | fault => fault.words ++ ": ".toList ++ Text.quote refusal.path.toText

/-- The most bytes that a message shows of the name of a codec. -/
def shownNameLimit : Nat := 400

/-- The name of a codec as messages show it: what is over the limit is left out, and a character
that is cut through is replaced. -/
def shownName (limit : Nat) : Text → Text
  | [] => []
  | c :: rest =>
    let size := (Encoding.Utf8.encodeChar c).length
    if size ≤ limit then c :: shownName (limit - size) rest
    else if limit = 0 then []
    else ['\uFFFD']

/-- The fault of a name in words. -/
def NameFault.message (fault : NameFault) (name : Text) : Text :=
  match fault with
  | unknown => "unknown encoding: ".toList ++ name
  | notText =>
    Text.apostrophe :: shownName shownNameLimit name ++
      Text.apostrophe ::
        " is not a text encoding; use codecs.open() to handle arbitrary codecs".toList

namespace DumpError

/-- The failure in words. -/
def message : DumpError → Text
  | unmatchedClose offset =>
    "Unmatched closing parenthesis at offset ".toList ++ Text.decimal offset
  | unknownLanguage name =>
    "No grammar registered for ".toList ++ Text.quoteOption name ++
      ". Known languages are ".toList ++
      Text.joinWith ", ".toList (Language.all.map Language.name) ++ ['.']
  | conflictingFlags conflict => conflict.message
  | momentOutOfRange => "date value out of range".toList
  | reportFrozen => "can't set attribute".toList
  | countTooLarge => "cannot fit 'int' into an index-sized integer".toList
  | noTitle => "'NoneType' object has no attribute 'set_title'".toList
  | missingVariable name => Text.quote name
  | refused refusal => refusal.message
  | nullInEncoding => "embedded null character".toList
  | noEncoding fault name => fault.message name
  | undecodable error => error.message
  | unparsable error => error.message
  | unencodable error => error.message

/-- The failure of a codec of the system, if this is one. -/
def codecFailure? : DumpError → Option CodecFailure
  | undecodable (.ofSystem failure) | unparsable (.ofSystem failure)
  | unencodable (.ofSystem failure) => some failure
  | _ => none

/-- The kind of a failure that this library defines; the others come from the system around it. -/
def ownKind? : DumpError → Option OwnKind
  | unmatchedClose _ => some .unbalancedTree
  | unknownLanguage _ => some .unknownLanguage
  | conflictingFlags _ => some .exclusiveOptions
  | _ => none

end DumpError

end SyntaxReport
