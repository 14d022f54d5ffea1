import FolderTalk.Command.Recognise
import FolderTalk.Session.State
import FolderTalk.Text.Quoted

/-!
# Log events

What a session reports while it works. Each event has a level of importance, the part of the
program that reports it and a text.
-/

namespace FolderTalk

/-- How important an event is. -/
inductive LogLevel where
  | debug | info | warning | error | critical
  deriving DecidableEq, Repr

def LogLevel.rank : LogLevel → Nat
  | debug => 10
  | info => 20
  | warning => 30
  | error => 40
  | critical => 50

def LogLevel.name : LogLevel → String
  | debug => "DEBUG"
  | info => "INFO"
  | warning => "WARNING"
  | error => "ERROR"
  | critical => "CRITICAL"

/-- The events that a session reports. -/
inductive Event where
  | loaded (session : String) (files folders snapshots : Nat)
  | rejected (command : String)
  | unreadable (key : StateKey)
  | unfit (key : StateKey)
  | matched (command : String) (rule : Command.Rule) (tag : String)
  | unmatched (command : String)
  | parsingFailed (command : String)
  | applied (tag : String) (depth : Nat)
  | executionFailed (tag : String)
  | wasReset (session : String)
  deriving Repr

namespace Event

def level : Event → LogLevel
  | loaded .. | matched .. | unmatched _ => .debug
  | rejected _ | applied .. | wasReset _ => .info
  | unreadable _ | unfit _ => .warning
  | parsingFailed _ | executionFailed _ => .error

/-- The part of the program that reports the event. -/
def source : Event → String
  | matched .. | unmatched _ => "chatorg.organization.planner"
  | applied .. | executionFailed _ => "chatorg.organization.executor"
  | _ => "chatorg.session.service"

def text : Event → String
  | loaded session files folders snapshots =>
    "Loaded session " ++ session ++ ": " ++ toString files ++ " file(s), " ++ toString folders
      ++ " folder(s), " ++ toString snapshots ++ " snapshot(s)"
  | rejected command =>
    "Rejected " ++ Text.quoted command ++ ": a command is already being processed"
  | unreadable key =>
    "Ignoring unreadable " ++ key.name ++ " state: Invalid data stored for '" ++ key.name ++ "'"
  | unfit key => "Ignoring invalid " ++ key.name ++ " state"
  | matched command rule tag =>
    "Command " ++ Text.quoted command ++ " matched rule " ++ rule.name ++ " -> " ++ tag
  | unmatched command => "Command " ++ Text.quoted command ++ " matched no rule"
  | parsingFailed command => "Failed to parse command " ++ Text.quoted command
  | applied tag depth => "Applied " ++ tag ++ " intent (history depth " ++ toString depth ++ ")"
  | executionFailed tag => "Failed to execute " ++ tag ++ " intent"
  | wasReset session => "Session " ++ session ++ " reset to defaults"

/-- The line of the event in a log file. -/
def line (e : Event) : String := e.level.name ++ " " ++ e.source ++ ": " ++ e.text

end Event

end FolderTalk
