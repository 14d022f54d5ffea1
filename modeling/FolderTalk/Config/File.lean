import FolderTalk.Config.Environment

/-!
# The configuration file

The file holds one YAML mapping below a header with the time of its last change. Settings are
changed by assigning to a dotted key or by giving a whole new text; in both ways the new content is
checked first, and a content that does not pass leaves the file as it is.
-/

namespace FolderTalk

/-- The configuration file: its text, if it is there, and the times at which it is saved. -/
structure ConfigFile where
  text : Option String := none
  /-- The time of each save, counted from one. -/
  stamp : Nat → String
  saves : Nat := 0

namespace ConfigFile

def stampMark : String := "# Last updated:"

def header : String :=
  "# chatorg configuration file\n"
    ++ "# Manage with \x60chatorg config set KEY --value VALUE\x60 or \x60chatorg config edit\x60.\n"

/-- A text with every line break written as a line feed. -/
def unifyBreaks : List Char → List Char
  | [] => []
  | '\r' :: '\n' :: cs => '\n' :: unifyBreaks cs
  | c :: cs => (if c == '\r' then '\n' else c) :: unifyBreaks cs

/-- The text of the file, empty if there is no file. -/
def read (f : ConfigFile) : String := String.ofList (unifyBreaks (f.text.getD "").toList)

/-- Whether a value counts as no content. -/
def isNothing : Value → Bool
  | .null | .bool false => true
  | .int n => n == 0
  | .float x => x.toInt? == some 0
  | .text s => s.isEmpty
  | .list items => items.isEmpty
  | .map entries => entries.isEmpty
  | _ => false

/-- The mapping that a text holds; a text without content holds the empty one. -/
def parse (text : String) : Except Config.Failure Entries :=
  match Yaml.read text with
  | .error .malformed => .error (.rejected .unparsableFile)
  | .error (.unfit f) => .error (.fault f)
  | .ok v =>
    if isNothing v then .ok []
    else
      match v with
      | .map entries => .ok entries
      | _ => .error (.rejected .fileNotMapping)

/-- The mapping in the file, empty if there is no file. -/
def entries (f : ConfigFile) : Except Config.Failure Entries :=
  match f.text with
  | none => .ok []
  | some _ => parse f.read

/-- Writes a mapping below the header. -/
def save (f : ConfigFile) (entries : Entries) : ConfigFile × Option Fault :=
  let f := { f with saves := f.saves + 1 }
  match Yaml.write entries with
  | .error fault => (f, some fault)
  | .ok body =>
    ({ f with text := some (header ++ stampMark ++ " " ++ f.stamp f.saves ++ "\n" ++ body) }, none)

/-- Makes a file with the defaults if there is none. -/
def ensure (f : ConfigFile) : ConfigFile :=
  match f.text with
  | some _ => f
  | none => (f.save ({} : Config).entries).1

/-- The configuration that the file, the environment and the command line make up. -/
def resolve (f : ConfigFile) (env : Option Environment) (commandLine : Option Value) :
    Except Config.Failure Config := do
  let fromEnv ← match env with
    | none => pure []
    | some env => Config.ofEnvironment env
  let fromFile ← f.entries
  Config.rejecting (Config.resolve (some (.map fromFile))
    (if fromEnv.isEmpty then none else some (.map fromEnv)) commandLine)

/-- Saves a mapping, provided that it makes up a configuration. -/
def saveChecked (f : ConfigFile) (entries : Entries) : ConfigFile × Option Config.Failure :=
  match Config.resolve (some (.map entries)) none none with
  | .error e => (f, some (.rejected e))
  | .ok _ =>
    match f.save entries with
    | (f, none) => (f, none)
    | (f, some fault) => (f, some (.fault fault))

/-- The parts of a dotted key, without white space around them and without empty ones. -/
def segments (key : String) : List String :=
  ((Text.divide "." key).map Text.strip).filter (!·.isEmpty)

/-- The value that a text gives for a setting. -/
def parseValue (text : String) : Except Config.Failure Value :=
  match Yaml.read text with
  | .ok v => .ok v
  | .error .malformed => .error (.rejected .unparsableValue)
  | .error (.unfit f) => .error (.fault f)

/-- The mapping in the file with one setting changed. -/
def assigned (f : ConfigFile) (key value : String) : Except Config.Failure Entries := do
  let parts := segments key
  match parts.getLast? with
  | none => throw (.rejected .emptyKey)
  | some leaf =>
    let v ← parseValue value
    let entries ← f.entries
    Config.rejecting (Config.changeAt .notAssignable (fun node => .ok (node.set leaf v))
      parts.dropLast entries)

/-- Assigns the value of a text to a dotted key. -/
def assign (f : ConfigFile) (key value : String) : ConfigFile × Option Config.Failure :=
  match f.assigned key value with
  | .error e => (f, some e)
  | .ok entries => f.saveChecked entries

/-- Takes over an edited text. -/
def replace (f : ConfigFile) (text : String) : ConfigFile × Option Config.Failure :=
  match parse text with
  | .error e => (f, some e)
  | .ok entries => f.saveChecked entries

end ConfigFile

end FolderTalk
