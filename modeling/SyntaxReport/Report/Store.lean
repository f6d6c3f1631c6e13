import SyntaxReport.Encoding.RawEscape
import SyntaxReport.Report.Basic

/-!
# Keeping a report

Writing a report makes the output directory, renders the report, opens the file, and only then looks
up the encoding and encodes the rendering. Each step that fails leaves what the steps before it have
done: the directories, or an empty file. Only a name of an encoding that can be none is refused
before the file is opened.

The tree of a report that is made elsewhere may have surrogates (`LooseReport`). `writeLoose` writes
any report; `writeReport` writes one whose tree is text.
-/

namespace SyntaxReport

variable [Codecs]

/-- The codec of a name, or the failure of a name that has none. -/
def findCodec (name : Text) : Except DumpError Codec :=
  match Encoding.ofName? name with
  | some encoding => .ok (.own encoding)
  | none =>
    match Codecs.find name with
    | .nothing => .error (.noEncoding .unknown name)
    | .notText => .error (.noEncoding .notText name)
    | .codec codec => .ok (.ofSystem codec)

/-- The bytes of a string in the encoding of the given name. -/
def encodePoints (name : Text) (points : Points) : Except DumpError Bytes :=
  match findCodec name with
  | .error error => .error error
  | .ok codec => (codec.encode points).mapError .unencodable

/-- The bytes of a text in the encoding of the given name. -/
def encodeText (name text : Text) : Except DumpError Bytes :=
  encodePoints name text.points

/-- The code points that bytes encode in the encoding of the given name. -/
def decodeBytes (name : Text) (bytes : Bytes) : Except DumpError Points :=
  match findCodec name with
  | .error error => .error error
  | .ok codec => (codec.decode bytes).mapError .undecodable

/-- Refuse the name of an encoding that no file can be opened with. -/
def checkEncodingName (name : Text) : Except DumpError Unit :=
  if name.contains (Char.ofNat 0) then .error .nullInEncoding else .ok ()

omit [Codecs] in
/-- The names of encodings are not refused. -/
theorem checkEncodingName_of_ofName? {name : Text} {encoding : Encoding}
    (h : Encoding.ofName? name = some encoding) : checkEncodingName name = .ok () := by
  unfold Encoding.ofName? at h
  unfold checkEncodingName
  split at h
  · cases h
  · rw [if_neg ‹_›]

/-- Write a string to the file that a path names. -/
def writePoints (fs : FileSystem) (path : Path) (points : Points) (encoding : Text) :
    FileSystem × Except DumpError Unit :=
  match checkEncodingName encoding with
  | .error error => (fs, .error error)
  | .ok () =>
    match fs.openFile path with
    | .error fault => (fs, .error (.refused ⟨fault, path⟩))
    | .ok (opened, location) =>
      match encodePoints encoding points with
      | .error error => (opened, .error error)
      | .ok bytes => (opened.put location (.file bytes), .ok ())

/-- A report whose tree may have surrogates. -/
structure LooseReport where
  sourcePath : Text
  parsedAt : Calendar.Moment
  tree : Points
  deriving DecidableEq, Repr

/-- The report as a string. -/
def LooseReport.render (report : LooseReport) : Except DumpError Points :=
  (timestamp report.parsedAt).map fun stamp => (heading report.sourcePath stamp).points ++ report.tree

/-- The report as one whose tree may have surrogates. -/
def Report.loose (report : Report) : LooseReport :=
  ⟨report.sourcePath, report.parsedAt, report.treeText.points⟩

/-- Write a report into the output directory, over an earlier one of the same name. The answer is
the report's path. -/
def writeLoose (fs : FileSystem) (report : LooseReport) (directory encoding : Text) :
    FileSystem × Except DumpError Path :=
  let path := outputPath report.sourcePath directory
  match fs.makeDirectories path.parent with
  | (fs, .error refusal) => (fs, .error (.refused refusal))
  | (fs, .ok ()) =>
    match report.render with
    | .error error => (fs, .error error)
    | .ok points =>
      match writePoints fs path points encoding with
      | (fs, .error error) => (fs, .error error)
      | (fs, .ok ()) => (fs, .ok path)

/-- Write a report whose tree is text. -/
def writeReport (fs : FileSystem) (report : Report) (directory encoding : Text) :
    FileSystem × Except DumpError Path :=
  writeLoose fs report.loose directory encoding

end SyntaxReport
