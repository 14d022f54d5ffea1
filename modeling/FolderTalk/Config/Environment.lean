import FolderTalk.Config.Layers
import FolderTalk.Text.Case
import FolderTalk.Yaml.Read
import FolderTalk.Yaml.Write

/-!
# Settings in the environment

A variable whose name begins with a marker and goes on with the path of a setting, its parts
separated by two low lines, gives that setting. Its text is read as YAML; text that is no YAML is
taken as it stands. In the other direction every setting of a configuration is rendered as such a
variable.
-/

namespace FolderTalk

/-- Variables with their values, no name twice. -/
abbrev Environment := List (String × String)

/-- Why the work on a configuration ends early. -/
inductive Config.Failure where
  | rejected (e : ConfigError)
  | fault (f : Fault)
  deriving DecidableEq, Repr

namespace Config

def rejecting {α : Type} : Except ConfigError α → Except Failure α
  | .ok a => .ok a
  | .error e => .error (.rejected e)

namespace Variable

/-- What the names of the variables begin with. -/
def marker : String := "CHATORG__"

/-- The path that a variable's name gives; `none` if the variable gives no setting. -/
def path? (name : String) : Option (List String) :=
  if marker.toList.isPrefixOf name.toList then
    let rest := String.ofList (name.toList.drop marker.length)
    match (Text.divide "__" rest).filter (!·.isEmpty) with
    | [] => none
    | parts => some (parts.map Text.toLower)
  else none

/-- The value that a variable's text gives. -/
def value (text : String) : Except Failure Value :=
  match Yaml.read text with
  | .ok v => .ok v
  | .error .malformed => .ok (.text text)
  | .error (.unfit f) => .error (.fault f)

/-- The settings so far with those of one more variable. -/
def add (settings : Entries) (variable_ : String × String) : Except Failure Entries :=
  match path? variable_.1 with
  | none => .ok settings
  | some path => do
    let v ← value variable_.2
    rejecting (overlayEntry .environment settings (.text (".".intercalate path), v))

/-- The name of the variable for a path. -/
def name (path : List String) : String := marker ++ "__".intercalate (path.map Text.toUpper)

end Variable

/-- The settings that the variables give, taken one after another. -/
def ofEnvironment (env : Environment) : Except Failure Entries :=
  env.foldlM Variable.add []

/-! ## Rendering -/

mutual

/-- The settings below a value with their paths, in order. -/
def leaves (path : List String) : Value → List (List String × Value)
  | .map entries => leavesOfEntries path entries
  | v => [(path, v)]

def leavesOfEntries (path : List String) : List (Value × Value) → List (List String × Value)
  | [] => []
  | e :: es => leavesOfEntry path e ++ leavesOfEntries path es

def leavesOfEntry (path : List String) : Value × Value → List (List String × Value)
  | (key, v) => leaves (path ++ [key.shown]) v

end

/-- The text of a setting. -/
def rendered : Value → Except Fault String
  | .list items => .ok (Text.strip (Yaml.writeFlowList (items.map Value.shown)))
  | .null => .ok "null"
  | v => if Yaml.isWritable v then .ok v.shown else .error .tooManyDigitsToWrite

/-- Every setting as a variable, the last setting first. -/
def toEnvironment (c : Config) : Except Fault Environment :=
  (leaves [] c.toValue).reverse.mapM fun (path, v) => (rendered v).map fun s =>
    (Variable.name path, s)

end Config

end FolderTalk
