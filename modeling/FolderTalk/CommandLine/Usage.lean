import FolderTalk.Diff.Compare
import FolderTalk.Text.Quoted

/-!
# Usage of commands

What a command accepts on the command line, and how arguments are taken apart: options may stand
anywhere among the operands of a command, an option with a value takes the next argument or what
follows an equals sign, and two dashes end the options.
-/

namespace FolderTalk.CommandLine

open Text

/-- An option of a command, by its name with two dashes. -/
structure OptionForm where
  name : String
  takesValue : Bool := false
  deriving DecidableEq, Repr

/-- What a command accepts. -/
structure Form where
  /-- The words that call the command. -/
  path : List String
  /-- The operands, as shown in the usage line. -/
  operands : List String := []
  options : List OptionForm := []
  /-- Whether options may follow operands. -/
  interspersed : Bool := true
  deriving DecidableEq, Repr

def helpOption : OptionForm := ⟨"--help", false⟩

/-- What can be wrong with the arguments of a command. -/
inductive Complaint where
  | noSuchOption (name : String) (similar : List String)
  | noValueTaken (name : String)
  | valueMissing (name : String)
  | noSuchCommand (name : String) (similar : List String)
  | commandMissing
  | operandMissing (name : String)
  | optionMissing (name : String)
  | notInteger (name text : String)
  | extraOperands (operands : List String)
  deriving DecidableEq, Repr

/-- Arguments that a command does not accept. -/
structure UsageError where
  form : Form
  complaint : Complaint
  deriving DecidableEq, Repr

/-! ## Suggestions -/

/-- The characters of the stretches that two names share. -/
def sharedLength : List (Diff.Piece Char) → Nat
  | [] => 0
  | .same items :: ps => items.length + sharedLength ps
  | .change .. :: ps => sharedLength ps

/-- Twice the characters that two names share in the same order, and the characters of both. -/
def likeness (a b : String) : Nat × Nat :=
  (2 * sharedLength (Diff.compare a.toList b.toList), a.length + b.length)

/-- The known names that share at least three fifths of their characters with a name, in
alphabetical order. -/
def similarTo (name : String) (known : List String) : List String :=
  (known.filter fun k =>
    let (shared, all) := likeness k name
    3 * all ≤ 5 * shared).mergeSort (· ≤ ·)

/-- A proposal of names in place of an unknown one. -/
def suggestion : List String → String
  | [] => ""
  | [one] => " Did you mean " ++ quoted one ++ "?"
  | several => " (Did you mean one of: " ++ ", ".intercalate (several.map quoted) ++ "?)"

def Complaint.message : Complaint → String
  | noSuchOption name similar => "No such option " ++ quoted name ++ "." ++ suggestion similar
  | noValueTaken name => "Option " ++ quoted name ++ " does not take a value."
  | valueMissing name => "Option " ++ quoted name ++ " requires an argument."
  | noSuchCommand name similar => "No such command " ++ quoted name ++ "." ++ suggestion similar
  | commandMissing => "Missing command."
  | operandMissing name => "Missing argument '" ++ name ++ "'."
  | optionMissing name => "Missing option '" ++ name ++ "'."
  | notInteger name text =>
    "Invalid value for '" ++ name ++ "': " ++ quoted text ++ " is not a valid integer."
  | extraOperands operands =>
    "Got unexpected extra argument" ++ (if operands.length == 1 then "" else "s") ++ " ("
      ++ " ".intercalate operands ++ ")"

namespace Form

/-- The words that call the command, as one text. -/
def name (f : Form) : String := " ".intercalate f.path

/-- The usage line. -/
def usage (f : Form) : String :=
  "Usage: " ++ " ".intercalate (f.path ++ ["[OPTIONS]"] ++ f.operands)

end Form

/-- What is printed about arguments that a command does not accept. -/
def UsageError.message (e : UsageError) : String :=
  e.form.usage ++ "\nTry '" ++ e.form.name ++ " --help' for help.\n\nError: " ++ e.complaint.message
    ++ "\n"

/-! ## Taking arguments apart -/

/-- An option as it was given. -/
structure Given where
  name : String
  value : Option String := none
  deriving DecidableEq, Repr

/-- The arguments of a command, taken apart. -/
structure Arguments where
  /-- The options in the order in which they were given. -/
  given : List Given := []
  operands : List String := []
  deriving DecidableEq, Repr

namespace Arguments

/-- Whether an option was given. -/
def has (a : Arguments) (name : String) : Bool := a.given.any (·.name == name)

/-- The last value that was given for an option. -/
def value? (a : Arguments) (name : String) : Option String :=
  (a.given.reverse.find? (·.name == name)).bind (·.value)

def addOption (name : String) (value : Option String) (a : Arguments) : Arguments :=
  { a with given := ⟨name, value⟩ :: a.given }

def addOperand (text : String) (a : Arguments) : Arguments :=
  { a with operands := text :: a.operands }

end Arguments

/-- Whether an argument is written like an option. -/
def looksLikeOption (arg : String) : Bool := arg.startsWith "-" && 1 < arg.length

/-- An argument cut at its first equals sign. -/
def cutAtEquals (arg : String) : String × Option String :=
  let cs := arg.toList
  match cs.dropWhile (· != '=') with
  | [] => (arg, none)
  | _ :: value => (String.ofList (cs.takeWhile (· != '=')), some (String.ofList value))

/-- The options given by single letters after one dash; help is the only one. -/
def shortOptions : List Char → Except Complaint (List Given)
  | [] => .ok []
  | 'h' :: cs => (shortOptions cs).map (⟨helpOption.name, none⟩ :: ·)
  | c :: _ => .error (.noSuchOption (String.ofList ['-', c]) [])

namespace Form

/-- All options of a command. -/
def allOptions (f : Form) : List OptionForm := f.options ++ [helpOption]

/-- An option that is not known by its whole name. -/
def unknownOption (f : Form) (arg name : String) : Except Complaint (List Given) :=
  if arg.startsWith "--" then
    .error (.noSuchOption name (similarTo name (f.allOptions.map (·.name))))
  else shortOptions (arg.toList.drop 1)

/-- Takes arguments apart; the parts are in the order in which they were given. -/
def takeApart (f : Form) : List String → Except Complaint Arguments
  | [] => .ok {}
  | arg :: args =>
    if arg == "--" then .ok { operands := args }
    else if looksLikeOption arg then
      let (name, attached) := cutAtEquals arg
      match f.allOptions.find? (·.name == name), attached with
      | none, _ =>
        match f.unknownOption arg name with
        | .error e => .error e
        | .ok given => (takeApart f args).map fun a => { a with given := given ++ a.given }
      | some ⟨_, false⟩, none => (takeApart f args).map (·.addOption name none)
      | some ⟨_, false⟩, some _ => .error (.noValueTaken name)
      | some ⟨_, true⟩, some value => (takeApart f args).map (·.addOption name (some value))
      | some ⟨_, true⟩, none =>
        match args with
        | [] => .error (.valueMissing name)
        | value :: args => (takeApart f args).map (·.addOption name (some value))
    else if f.interspersed then (takeApart f args).map (·.addOperand arg)
    else .ok { operands := arg :: args }

end Form

end FolderTalk.CommandLine
