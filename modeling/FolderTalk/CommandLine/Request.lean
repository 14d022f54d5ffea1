import FolderTalk.CommandLine.Usage
import FolderTalk.Number.Numeral

/-!
# Requests

What the user asks for on the command line. Options that end the program at once come first, then
the options in the order in which they were given, then the operands, and last the options that
are missing.
-/

namespace FolderTalk.CommandLine

/-- What is to be done. -/
inductive Request where
  | help (form : Form)
  /-- The program was called without any argument. -/
  | nothing (form : Form)
  | version
  | say (words : List String) (json quiet noDelay : Bool)
  | shell (noDelay : Bool)
  | status (json : Bool)
  | transcript (limit : Option Int)
  | layout (height : Int)
  | configView (noEnvironment : Bool)
  | configSet (key value : String)
  | configEdit
  deriving DecidableEq, Repr

/-- A request, and the session it is for if one is named. -/
structure Invocation where
  session : Option String := none
  request : Request
  deriving DecidableEq, Repr

/-- The commands of the program. -/
inductive Command where
  | say | shell | status | transcript | layout | config
  deriving DecidableEq, Repr

/-- The commands for the configuration. -/
inductive ConfigCommand where
  | view | set | edit
  deriving DecidableEq, Repr

def Command.all : List (String × Command) :=
  [("say", .say), ("shell", .shell), ("status", .status), ("transcript", .transcript),
   ("layout", .layout), ("config", .config)]

def ConfigCommand.all : List (String × ConfigCommand) :=
  [("view", .view), ("set", .set), ("edit", .edit)]

def program : String := "cli"

namespace Form

/-- What the program itself accepts. -/
def main : Form :=
  { path := [program]
    operands := ["COMMAND", "[ARGS]..."]
    options := [⟨"--version", false⟩, ⟨"--session", true⟩]
    interspersed := false }

def ofCommand : Command → Form
  | .say =>
    { path := [program, "say"]
      operands := ["WORDS..."]
      options := [⟨"--json", false⟩, ⟨"--quiet", false⟩, ⟨"--no-delay", false⟩] }
  | .shell => { path := [program, "shell"], options := [⟨"--no-delay", false⟩] }
  | .status => { path := [program, "status"], options := [⟨"--json", false⟩] }
  | .transcript => { path := [program, "transcript"], options := [⟨"--limit", true⟩] }
  | .layout => { path := [program, "layout"], operands := ["HEIGHT"] }
  | .config =>
    { path := [program, "config"], operands := ["COMMAND", "[ARGS]..."], interspersed := false }

def ofConfigCommand : ConfigCommand → Form
  | .view => { path := [program, "config", "view"], options := [⟨"--no-env", false⟩] }
  | .set =>
    { path := [program, "config", "set"], operands := ["KEY"], options := [⟨"--value", true⟩] }
  | .edit => { path := [program, "config", "edit"] }

end Form

/-- A whole number given for an option or an operand. -/
def integer (name text : String) : Except Complaint Int :=
  match Numeral.readInt text with
  | .ok n => .ok n
  | .error _ => .error (.notInteger name text)

/-- Refuses operands beyond those that a command takes. -/
def noMore (operands : List String) : Except Complaint Unit :=
  if operands.isEmpty then .ok () else .error (.extraOperands operands)

namespace Arguments

/-- The only operand of a command. -/
def operand (a : Arguments) (name : String) : Except Complaint (String × List String) :=
  match a.operands with
  | [] => .error (.operandMissing name)
  | text :: more => .ok (text, more)

end Arguments

namespace Request

/-- The request that the arguments of a command make. -/
def ofCommand (c : Command) (a : Arguments) : Except Complaint Request := do
  match c with
  | .say =>
    if a.operands.isEmpty then throw (.operandMissing "WORDS...")
    return .say a.operands (a.has "--json") (a.has "--quiet") (a.has "--no-delay")
  | .shell =>
    noMore a.operands
    return .shell (a.has "--no-delay")
  | .status =>
    noMore a.operands
    return .status (a.has "--json")
  | .transcript =>
    let limit ← (a.value? "--limit").mapM (integer "--limit")
    noMore a.operands
    return .transcript limit
  | .layout =>
    let (text, more) ← a.operand "HEIGHT"
    let height ← integer "HEIGHT" text
    noMore more
    return .layout height
  | .config => throw .commandMissing

/-- The request that the arguments of a command for the configuration make. -/
def ofConfigCommand (c : ConfigCommand) (a : Arguments) : Except Complaint Request := do
  match c with
  | .view =>
    noMore a.operands
    return .configView (a.has "--no-env")
  | .set =>
    let (key, more) ← a.operand "KEY"
    match a.value? "--value" with
    | none => throw (.optionMissing "--value")
    | some value =>
      noMore more
      return .configSet key value
  | .edit =>
    noMore a.operands
    return .configEdit

/-- The request for help or for the version, whichever was given first. -/
def atOnce (f : Form) (a : Arguments) : Option Request :=
  (a.given.find? fun g => g.name == helpOption.name || g.name == "--version").map fun g =>
    if g.name == helpOption.name then .help f else .version

/-- Reads the arguments of one command. -/
def read (f : Form) (make : Arguments → Except Complaint Request) (args : List String) :
    Except UsageError Request :=
  match f.takeApart args with
  | .error c => .error ⟨f, c⟩
  | .ok a =>
    match atOnce f a with
    | some request => .ok request
    | none => (make a).mapError fun c => ⟨f, c⟩

/-- Reads the arguments of a group of commands, the first operand of which names the command. -/
def readGroup {α : Type} (f : Form) (commands : List (String × α)) (args : List String)
    (call : α → Arguments → List String → Except UsageError Invocation) :
    Except UsageError Invocation :=
  if args.isEmpty then .ok { request := .nothing f }
  else
    match f.takeApart args with
    | .error c => .error ⟨f, c⟩
    | .ok a =>
      match atOnce f a, a.operands with
      | some request, _ => .ok { request := request }
      | none, [] => .error ⟨f, .commandMissing⟩
      | none, name :: rest =>
        match commands.lookup name with
        | some command => call command a rest
        | none => .error ⟨f, .noSuchCommand name (similarTo name (commands.map (·.1)))⟩

end Request

/-- What the arguments of the program ask for. -/
def Invocation.read (args : List String) : Except UsageError Invocation :=
  Request.readGroup .main Command.all args fun command a rest =>
    let session := a.value? "--session"
    match command with
    | .config =>
      Request.readGroup (.ofCommand .config) ConfigCommand.all rest fun command _ rest =>
        (Request.read (.ofConfigCommand command) (Request.ofConfigCommand command) rest).map
          fun request => ⟨session, request⟩
    | _ =>
      (Request.read (.ofCommand command) (Request.ofCommand command) rest).map
        fun request => ⟨session, request⟩

end FolderTalk.CommandLine
