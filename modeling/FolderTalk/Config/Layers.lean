import FolderTalk.Config.Basic
import FolderTalk.Text.Stretch

/-!
# Layers of configuration

Settings come in layers: the defaults, the configuration file, the environment and the command
line. A later layer wins setting by setting. Inside a layer a setting may be given by nested
mappings or by a dotted key, in any mixture, and the last assignment wins.
-/

namespace FolderTalk

/-- The layers above the defaults. -/
inductive Layer where
  | file | environment | commandLine
  deriving DecidableEq, Repr

def Layer.label : Layer → String
  | file => "File"
  | environment => "Environment"
  | commandLine => "Cli"

/-- What can be wrong with a configuration. -/
inductive ConfigError where
  | notMapping (layer : Layer)
  | keyNotText (layer : Layer)
  /-- A dotted key leads through something that is no mapping. -/
  | conflict (layer : Layer) (key : String)
  | invalid (issues : List Schema.Issue)
  | unparsableValue
  | unparsableFile
  | fileNotMapping
  | emptyKey
  | notAssignable (segment : String)
  deriving DecidableEq, Repr

def ConfigError.message : ConfigError → String
  | notMapping layer => layer.label ++ " overrides must be a mapping."
  | keyNotText layer => layer.label ++ " override keys must be strings."
  | conflict layer key =>
    layer.label ++ " override for " ++ key ++ " conflicts with existing value."
  | invalid _ => "Invalid configuration values"
  | unparsableValue => "Unable to parse value"
  | unparsableFile => "Failed to parse configuration file"
  | fileNotMapping => "Configuration file must contain a mapping at the top level."
  | emptyKey => "KEY must specify a dotted path such as 'engine.response_delay_ms'."
  | notAssignable segment =>
    "Cannot assign into '" ++ segment ++ "' because it is not a mapping in the config file."

/-- The place of an issue, its parts between points. -/
def Schema.Issue.place (i : Schema.Issue) : String :=
  ".".intercalate (i.path.map fun | .key s => s | .index n => toString n)

/-- The message together with what is known about its cause. -/
def ConfigError.explanation : ConfigError → String
  | invalid issues =>
    let count := toString issues.length ++ " validation error" ++ (if issues.length == 1 then "" else "s")
    (invalid issues).message ++ ": " ++ count ++ " for ChatorgConfig"
      ++ String.join (issues.map fun i => "\n" ++ i.place ++ "\n  " ++ i.problem.message)
  | unparsableValue => unparsableValue.message ++ ": not a YAML value"
  | unparsableFile => unparsableFile.message ++ ": not a YAML document"
  | e => e.message

/-- The mapping under a key; a key without a value stands for an empty mapping. -/
def Entries.mappingAt? (entries : Entries) (key : String) : Option Entries :=
  match entries.get? key with
  | none => some []
  | some (.map inner) => some inner
  | some _ => none

namespace Config

/-- Changes the mapping that a row of keys leads to; missing mappings on the way are added, and
`refused` is the error for a key that holds no mapping. -/
def changeAt {ε : Type} (refused : String → ε) (change : Entries → Except ε Entries) :
    List String → Entries → Except ε Entries
  | [], entries => change entries
  | key :: keys, entries =>
    match entries.mappingAt? key with
    | none => .error (refused key)
    | some inner => (changeAt refused change keys inner).map fun e => entries.set key (.map e)

/-- The parts of a dotted key: those on the way and the last one. -/
def splitKey (key : String) : List String × String :=
  let parts := Text.divide "." key
  (parts.dropLast, parts.getLastD "")

mutual

/-- Writes the entries of a layer, one after another, over what is there. -/
def overlay (layer : Layer) : Entries → List (Value × Value) → Except ConfigError Entries
  | target, [] => .ok target
  | target, e :: es =>
    match overlayEntry layer target e with
    | .ok target => overlay layer target es
    | .error err => .error err

/-- Writes one entry: a mapping is written into the mapping that is there, anything else takes the
place of what is there. -/
def overlayEntry (layer : Layer) (target : Entries) : Value × Value → Except ConfigError Entries
  | (.text key, .map inner) =>
    let (parents, leaf) := splitKey key
    changeAt (fun _ => .conflict layer key)
      (fun node => (overlay layer ((node.mappingAt? leaf).getD []) inner).map fun e =>
        node.set leaf (.map e))
      parents target
  | (.text key, v) =>
    let (parents, leaf) := splitKey key
    changeAt (fun _ => .conflict layer key) (fun node => .ok (node.set leaf v)) parents target
  | _ => .error (.keyNotText layer)

end

/-- Writes a layer over what is there. -/
def overlayLayer (target : Entries) (layer : Layer) : Option Value → Except ConfigError Entries
  | none => .ok target
  | some (.map source) => overlay layer target source
  | some _ => .error (.notMapping layer)

/-- The configuration that the layers make up over the given defaults. -/
def resolveOver (defaults : Config) (file environment commandLine : Option Value) :
    Except ConfigError Config := do
  let merged ← overlayLayer defaults.entries .file file
  let merged ← overlayLayer merged .environment environment
  let merged ← overlayLayer merged .commandLine commandLine
  match check (.map merged) with
  | .valid c => return c
  | .invalid issues => throw (.invalid issues)

/-- The configuration that the layers make up over the usual defaults. -/
def resolve (file environment commandLine : Option Value) : Except ConfigError Config :=
  resolveOver {} file environment commandLine

end Config

end FolderTalk
