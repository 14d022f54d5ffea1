import FolderTalk.CommandLine.Machine
import FolderTalk.CommandLine.Request
import FolderTalk.CommandLine.Status
import FolderTalk.Version

/-!
# Running requests

One function a command, each from a machine to the machine afterwards and the answer, and `run`,
which reads the arguments of the program and calls them.
-/

namespace FolderTalk.CommandLine

/-- What comes in while a command runs. -/
structure Input where
  /-- What is typed. -/
  text : String := ""
  /-- What an editor makes of a text; `none` if it is closed without saving. -/
  edit : String → Option String := fun _ => none

/-! ## Failures -/

/-- A failed command: what it is called in data, its message, and the kind of the fault that caused
it, if it was none that is foreseen. -/
structure Failed where
  code : String
  message : String
  kind : Option String := none

namespace Failed

def ofConfig : Config.Failure → Failed
  | .rejected e => { code := "config_error", message := e.explanation }
  | .fault f =>
    { code := "internal_error"
      message := "Unexpected error while running command: " ++ f.message
      kind := some f.kind }

def ofFault (f : Fault) : Failed := ofConfig (.fault f)

def misused (message : String) : Failed := { code := "cli_error", message := message }

def toValue (f : Failed) : Value :=
  .map [(.text "error", .map ([(.text "code", .text f.code), (.text "message", .text f.message)]
    ++ f.kind.toList.map fun kind =>
      (.text "details", .map [(.text "exception", .text kind)])))]

end Failed

/-- A value as JSON text on lines of its own. -/
def jsonText (v : Value) : Except Fault String :=
  match Json.write v with
  | .ok s => .ok (s ++ "\n")
  | .error e => .error (.ofWriteError e)

/-- The answer to a failed command, in data or in words. -/
def Failed.answer (f : Failed) (json : Bool) : Answer :=
  if json then { Answer.ofOutput (jsonText f.toValue) with ending := .failure }
  else .refusal f.message

/-- The answer to a configuration that cannot be used, from a command that foresees no other
fault. -/
def configRefusal : Config.Failure → Answer
  | .rejected e => .refusal e.explanation
  | .fault f => .fault f

/-! ## Commands in a session -/

/-- A reply as it is printed: changes in one colour, other replies in another. -/
def reply (o : Outcome) : Except Fault String :=
  printed (Markup.styled (if o.mutated || o.reset then "green" else "cyan")
    (Markup.escape o.message.toList))

/-- An outcome as data. -/
def outcomeValue (o : Outcome) (s : Session) : Value :=
  .map
    [(.text "command", .text o.command),
     (.text "action", .ofOptionalText (o.intent.map (·.action.tag))),
     (.text "message", .text o.message), (.text "mutated", .bool o.mutated),
     (.text "reset", .bool o.reset), (.text "selected_folder", .ofOptionalText o.selected),
     (.text "session", .text s.name), (.text "history_depth", .int s.desk.history.size)]

/-- The pauses of a turn, unless they are to be left out. -/
def pausesOf (t : Turn) (noDelay : Bool) : List Binary64 := if noDelay then [] else t.pauses

/-- What is printed about a processed command, or why there is nothing to be printed. -/
def sayOutput (s : Session) (json quiet : Bool) : Option Outcome → Except Failed String
  | none => .error (.misused "Command was empty or another command is still running.")
  | some o =>
    let output := if json then jsonText (outcomeValue o s) else if quiet then .ok "" else reply o
    output.mapError .ofFault

/-- Submits a command and answers with what came of it. -/
def sayIn (command : String) (json quiet noDelay : Bool) (w : Workbench) : Workbench × Answer :=
  match w.submit command with
  | (w, .error f) => (w, (Failed.ofFault f).answer json)
  | (w, .ok turn) =>
    match sayOutput w.session json quiet turn.outcome with
    | .error f => (w, f.answer json)
    | .ok s => (w, { output := s, pauses := pausesOf turn noDelay })

/-- Processes one command. -/
def say (m : Machine) (session : Option String) (words : List String)
    (json quiet noDelay : Bool) : Machine × Answer :=
  match m.loadConfig true with
  | (m, .error e) => (m, (Failed.ofConfig e).answer json)
  | (m, .ok config) =>
    if json && quiet then
      (m, (Failed.misused "--json cannot be combined with --quiet.").answer json)
    else
      match m.inSession config session (sayIn (" ".intercalate words) json
        (quiet || config.cli.quietDefault) noDelay) with
      | (m, .error f) => (m, (Failed.ofFault f).answer json)
      | (m, .ok a) => (m, a)

/-- The lines that are typed. -/
def typedLines (text : String) : List String :=
  let lines := (String.ofList (ConfigFile.unifyBreaks text.toList)).splitOn "\n"
  if lines.getLast? == some "" then lines.dropLast else lines

/-- The words that leave the prompt. -/
def exitWords : List String := ["exit", "quit", ":q"]

def prompt : String := "you>"

/-- Answers typed lines one after another, each after the prompt, until one leaves. -/
def converse (noDelay : Bool) (w : Workbench) : List String → Workbench × Answer
  | [] => (w, { output := prompt })
  | line :: lines =>
    let echo := prompt ++ " " ++ line ++ "\n"
    if exitWords.contains (Text.toLower (Text.strip line)) then (w, { output := echo })
    else
      match w.submit line with
      | (w, .error f) => (w, (Answer.fault f).after echo)
      | (w, .ok turn) =>
        match turn.outcome.map reply with
        | some (.error f) => (w, (Answer.fault f).after echo)
        | said =>
          let (w, rest) := converse noDelay w lines
          (w, (rest.after (echo ++ (said.bind (·.toOption)).getD "")).afterPauses
            (pausesOf turn noDelay))

/-- The last message of the transcript, if the program wrote it. -/
def greeting (s : Session) : Except Fault String :=
  match s.messages.getLast? with
  | some message =>
    match message.sender with
    | .ai => printed (Markup.styled "cyan" (Markup.escape message.text.toList))
    | .user => .ok ""
  | none => .ok ""

/-- Answers typed lines at a prompt. -/
def shellIn (typed : List String) (noDelay : Bool) (w : Workbench) : Workbench × Answer :=
  match greeting w.session with
  | .error f => (w, .fault f)
  | .ok s => let (w, a) := converse noDelay w typed; (w, a.after s)

/-- The last messages of a transcript. -/
def lastMessages (messages : List Message) (count : Int) : List Message :=
  messages.drop (messages.length - count.toNat)

/-- A message of the transcript as it is printed. -/
def messageLine (m : Message) : Except Fault String :=
  let style := match m.sender with
    | .user => "bold"
    | .ai => "cyan"
  printed (Markup.styled style (m.sender.name ++ ">").toList ++ ' ' :: Markup.escape m.text.toList)

def transcriptIn (limit : Int) (w : Workbench) : Workbench × Answer :=
  (w, .sequence ((lastMessages w.session.messages limit).map messageLine))

def layoutIn (height : Int) (w : Workbench) : Workbench × Answer :=
  match w.setHeight height with
  | (w, .error f) => (w, .fault f)
  | (w, .ok stored) =>
    (w, .ofOutput (printed
      ("[green]Chat height set to " ++ toString stored ++ ".[/green]").toList))

def statusIn (json : Bool) (w : Workbench) : Workbench × Answer :=
  (w, if json then .ofOutput (jsonText (Status.toValue w.session)) else Status.answer w.session)

/-- Does some work in a session, as far as the configuration can be used; `refuse` answers to one
that cannot. -/
def answerIn (m : Machine) (session : Option String) (refuse : Config.Failure → Answer)
    (work : Config → Workbench → Workbench × Answer) : Machine × Answer :=
  match m.loadConfig true with
  | (m, .error e) => (m, refuse e)
  | (m, .ok config) =>
    match m.inSession config session (work config) with
    | (m, .error f) => (m, .fault f)
    | (m, .ok a) => (m, a)

/-- The answer of a command whose refusals may be wanted as data. -/
def statusRefusal (json : Bool) : Config.Failure → Answer
  | .rejected e => (Failed.ofConfig (.rejected e)).answer json
  | .fault f => .fault f

/-! ## Commands for the configuration -/

/-- A text line by line, each wrapped to the screen. -/
def wrappedText (s : String) : String :=
  textOfLines (Terminal.wrap Terminal.screenWidth .fold s.toList)

/-- Lines cut at the edge of the screen. -/
def croppedLines (lines : List (List Char)) : String :=
  textOfLines (lines.map fun line => Terminal.clip Terminal.screenWidth (Terminal.expandCodeTabs line))

def configView (m : Machine) (noEnvironment : Bool) : Machine × Answer :=
  match m.loadConfig !noEnvironment with
  | (m, .error e) => (m, configRefusal e)
  | (m, .ok config) => (m, .ofOutput ((Yaml.write config.entries).map wrappedText))

def configSet (m : Machine) (key value : String) : Machine × Answer :=
  match m.ensureConfigFile with
  | (m, .error f) => (m, .fault f)
  | (m, .ok file) =>
    match m.changeConfigFile file (·.assign key value) with
    | (m, .error e) => (m, configRefusal e)
    | (m, .ok changed) =>
      (m, match ConfigFile.changes? file.read changed.read with
        | none =>
          .ofOutput (printed
            "[yellow]No changes applied; value already up to date.[/yellow]".toList)
        | some lines =>
          .sequence [.ok (croppedLines lines),
            printed ("[green]Updated " ++ key ++ ".[/green]").toList])

def configEdit (m : Machine) (edit : String → Option String) : Machine × Answer :=
  match m.ensureConfigFile with
  | (m, .error f) => (m, .fault f)
  | (m, .ok file) =>
    match edit file.read with
    | none =>
      (m, .ofOutput (printed "[yellow]Edit cancelled; no changes applied.[/yellow]".toList))
    | some text =>
      if text == file.read then
        (m, .ofOutput (printed "[yellow]No changes detected.[/yellow]".toList))
      else
        match m.changeConfigFile file (·.replace text) with
        | (m, .error e) => (m, configRefusal e)
        | (m, .ok _) =>
          (m, .ofOutput (printed
            "[green]Configuration updated successfully.[/green]".toList))

/-! ## The program -/

/-- What `--help` prints: the usage line and the names of the options. -/
def helpText (f : Form) : String :=
  f.usage ++ "\n\nOptions:\n" ++ String.join (f.allOptions.map fun o => "  " ++ o.name ++ "\n")

def versionText : String := program ++ ", version " ++ Version.text ++ "\n"

/-- Does what is asked for. -/
def perform (m : Machine) (input : Input) (i : Invocation) : Machine × Answer :=
  match i.request with
  | .help form => (m, { output := helpText form })
  | .nothing form => (m, { errors := helpText form, ending := .misuse })
  | .version => (m, { output := versionText })
  | .say words json quiet noDelay => say m i.session words json quiet noDelay
  | .shell noDelay =>
    answerIn m i.session configRefusal fun _ => shellIn (typedLines input.text) noDelay
  | .status json => answerIn m i.session (statusRefusal json) fun _ => statusIn json
  | .transcript limit =>
    answerIn m i.session configRefusal fun config =>
      transcriptIn (limit.getD config.cli.transcriptLimit)
  | .layout height => answerIn m i.session configRefusal fun _ => layoutIn height
  | .configView noEnvironment => configView m noEnvironment
  | .configSet key value => configSet m key value
  | .configEdit => configEdit m input.edit

/-- Runs the program with arguments. -/
def run (m : Machine) (args : List String) (input : Input) : Machine × Answer :=
  match Invocation.read args with
  | .error e => (m, { errors := e.message, ending := .misuse })
  | .ok i => perform m input i

end FolderTalk.CommandLine
