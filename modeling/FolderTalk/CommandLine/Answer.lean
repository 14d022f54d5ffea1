import FolderTalk.Fault
import FolderTalk.Terminal.Wrap

/-!
# Answers

What a command prints and how it ends. Marked-up text is wrapped to the screen; a text whose tags
do not match is a fault, and nothing of it is printed.
-/

namespace FolderTalk.CommandLine

/-- How a command ends. -/
inductive Ending where
  | success
  | failure
  /-- The arguments were not accepted. -/
  | misuse
  /-- A fault ended the command. -/
  | fault (f : Fault)
  deriving DecidableEq, Repr

/-- The status that the program reports. -/
def Ending.status : Ending → Nat
  | success => 0
  | failure | fault _ => 1
  | misuse => 2

/-- What a command prints on its two outputs, and how it ends. -/
structure Answer where
  output : String := ""
  errors : String := ""
  /-- The pauses before the output, in seconds. -/
  pauses : List Binary64 := []
  ending : Ending := .success
  deriving DecidableEq, Repr

/-- Lines as text, each with a line end. -/
def textOfLines (lines : List (List Char)) : String :=
  String.ofList (lines.flatMap (· ++ ['\n']))

/-- A marked-up text as it is printed. -/
def printed (markup : List Char) : Except Fault String :=
  match Markup.render markup with
  | .error e => .error (.markup e)
  | .ok text => .ok (textOfLines (Terminal.wrap Terminal.screenWidth .fold text))

namespace Answer

def fault (f : Fault) : Answer := { ending := .fault f }

/-- An error message on the error output. -/
def refusal (message : String) : Answer :=
  { errors := "Error: " ++ message ++ "\n", ending := .failure }

/-- An answer whose output may be a fault. -/
def ofOutput : Except Fault String → Answer
  | .ok s => { output := s }
  | .error f => fault f

/-- The answer with more output before it. -/
def after (before : String) (a : Answer) : Answer := { a with output := before ++ a.output }

/-- The answer with more pauses before it. -/
def afterPauses (pauses : List Binary64) (a : Answer) : Answer :=
  { a with pauses := pauses ++ a.pauses }

/-- The outputs in turn, up to the first fault. -/
def sequence : List (Except Fault String) → Answer
  | [] => {}
  | .ok s :: rest => (sequence rest).after s
  | .error f :: _ => fault f

end Answer

end FolderTalk.CommandLine
