import SyntaxReport.Text.Similarity

/-!
# Reading the argument list

The command takes options and one file. An option has a long name, a short name of one character, or
both; an option with a value takes it from the same argument or from the next one, whatever that
looks like. Short names can be clustered behind one hyphen. Two hyphens alone end the options.

`readArguments` turns the argument list into a list of items, in order, or finds the first argument
that cannot be read.
-/

namespace SyntaxReport.Command

/-- The options that take a value. -/
inductive Setting where
  | outputDirectory
  | language
  | encoding
  | indent
  deriving DecidableEq, Repr

/-- The options that are given or not. -/
inductive Flag where
  | print
  | quiet
  | verbose
  | colorOff
  deriving DecidableEq, Repr

/-- The options that answer in place of the command's work. -/
inductive Notice where
  | help
  | version
  deriving DecidableEq, Repr

/-- An option. -/
inductive Switch where
  | setting (setting : Setting)
  | flag (flag : Flag)
  | notice (notice : Notice)
  deriving DecidableEq, Repr

/-- What the argument list says, piece by piece. -/
inductive Item where
  | setting (setting : Setting) (value : Text)
  | flag (flag : Flag)
  | notice (notice : Notice)
  | operand (text : Text)
  deriving DecidableEq, Repr

/-- An argument list that cannot be read; the name is the option's as typed. -/
inductive ArgumentError where
  /-- There is no such option, but perhaps some with a similar name. -/
  | noSuchOption (name : Text) (similar : List Text)
  | missingValue (name : Text)
  | unwantedValue (name : Text)
  deriving DecidableEq, Repr

/-- The long names. -/
def longNames : List (Text × Switch) :=
  [("--output-dir".toList, .setting .outputDirectory), ("--language".toList, .setting .language),
   ("--encoding".toList, .setting .encoding), ("--indent".toList, .setting .indent),
   ("--print".toList, .flag .print), ("--quiet".toList, .flag .quiet),
   ("--verbose".toList, .flag .verbose), ("--color-off".toList, .flag .colorOff),
   ("--version".toList, .notice .version), ("--help".toList, .notice .help)]

/-- The short names. -/
def shortNames : List (Char × Switch) :=
  [('o', .setting .outputDirectory), ('l', .setting .language), ('e', .setting .encoding),
   ('p', .flag .print), ('q', .flag .quiet), ('v', .flag .verbose), ('h', .notice .help)]

/-- What an argument that starts with a hyphen comes to: the items in it, and the option that still
waits for its value in the next argument, with its name as typed. -/
structure Reading where
  items : List Item
  waiting : Option (Setting × Text)
  deriving DecidableEq, Repr

/-- Put an item before a reading. -/
def Reading.cons (item : Item) (reading : Reading) : Reading :=
  { reading with items := item :: reading.items }

/-- Read a cluster of short names. The rest of the cluster behind the name of an option with a value
is that value. -/
def readCluster : Text → Except ArgumentError Reading
  | [] => .ok ⟨[], none⟩
  | c :: rest =>
    match shortNames.lookup c with
    | none => .error (.noSuchOption ['-', c] [])
    | some (.flag flag) => (readCluster rest).map (Reading.cons (.flag flag))
    | some (.notice notice) => (readCluster rest).map (Reading.cons (.notice notice))
    | some (.setting setting) =>
      match rest with
      | [] => .ok ⟨[], some (setting, ['-', c])⟩
      | _ => .ok ⟨[.setting setting rest], none⟩

/-- An argument cut at its first equals sign, if it has one. -/
def splitValue (argument : Text) : Text × Option Text :=
  match argument.dropWhile (· != '=') with
  | [] => (argument, none)
  | _ :: value => (argument.takeWhile (· != '='), some value)

/-- Read the argument of a long name, with its value if one is attached. -/
def readLong (name : Text) (switch : Switch) (value : Option Text) :
    Except ArgumentError Reading :=
  match switch, value with
  | .setting setting, none => .ok ⟨[], some (setting, name)⟩
  | .setting setting, some value => .ok ⟨[.setting setting value], none⟩
  | .flag flag, none => .ok ⟨[.flag flag], none⟩
  | .notice notice, none => .ok ⟨[.notice notice], none⟩
  | _, some _ => .error (.unwantedValue name)

/-- The long names that may be meant by one that does not exist. -/
def similarNames (name : Text) : List Text :=
  Text.closeWords name (longNames.map Prod.fst)

/-- Read an argument that starts with a hyphen. Two hyphens can only start a long name. -/
def readSwitch (argument : Text) : Except ArgumentError Reading :=
  let (name, value) := splitValue argument
  match longNames.lookup name with
  | some switch => readLong name switch value
  | none =>
    match argument with
    | '-' :: '-' :: _ => .error (.noSuchOption name (similarNames name))
    | _ => readCluster argument.tail

/-- Whether an argument is to be read as options: it starts with a hyphen and goes on. -/
def isSwitch : Text → Bool
  | '-' :: _ :: _ => true
  | _ => false

/-- The argument that ends the options. -/
def endOfOptions : Text := ['-', '-']

/-- The items of an argument list, in order. -/
def readArguments : List Text → Except ArgumentError (List Item)
  | [] => .ok []
  | argument :: rest =>
    if argument = endOfOptions then .ok (rest.map .operand)
    else if !isSwitch argument then (readArguments rest).map (.operand argument :: ·)
    else
      match readSwitch argument with
      | .error error => .error error
      | .ok ⟨items, none⟩ => (readArguments rest).map (items ++ ·)
      | .ok ⟨items, some (setting, name)⟩ =>
        match rest with
        | [] => .error (.missingValue name)
        | value :: rest =>
          (readArguments rest).map fun more => items ++ .setting setting value :: more

end SyntaxReport.Command
