import FolderTalk.Schema.Check

/-!
# The transcript

The conversation of a session: numbered messages of the user and replies to them.
-/

namespace FolderTalk

open Schema

/-- Who wrote a message. -/
inductive Sender where
  | user | ai
  deriving DecidableEq, Repr, Inhabited

namespace Sender

def all : List Sender := [user, ai]

def name : Sender → String
  | user => "user"
  | ai => "ai"

def ofName? (s : String) : Option Sender := all.find? (·.name == s)

end Sender

/-- One entry of the conversation. -/
structure Message where
  id : Int
  text : String
  sender : Sender
  deriving DecidableEq, Repr, Inhabited

namespace Message

def toValue (m : Message) : Value :=
  .map [(.text "id", .int m.id), (.text "text", .text m.text), (.text "sender", .text m.sender.name)]

def check : Value → Checked Message :=
  record "Message" fun e =>
    ((Checked.valid Message.mk
      |>.app (required e "id" integer))
      |>.app (required e "text" Schema.text))
      |>.app (required e "sender" (oneOf Sender.ofName? (Sender.all.map Sender.name)))

end Message

namespace Transcript

/-- The number of the next message: one more than the largest there is, or one. -/
def nextId (messages : List Message) : Int :=
  match messages.map (·.id) with
  | [] => 1
  | id :: ids => ids.foldl max id + 1

/-- The transcript with one more message. -/
def append (messages : List Message) (text : String) (sender : Sender) : List Message :=
  messages ++ [⟨nextId messages, text, sender⟩]

def exampleCommands : List String :=
  ["'move vacation.png to Images'",
   "'move all png files to Images'",
   "'create folder called Projects'",
   "'create folder Photos inside Media'",
   "'rename Images to Pictures'",
   "'delete Documents folder'"]

/-- The greeting of a new session. -/
def welcomeText : String :=
  "Hi 👋 I'm your File Organizer. Try commands like:\n"
    ++ "\n".intercalate (exampleCommands.map ("• " ++ ·))
    ++ "\n• 'undo' to revert last action\n• 'reset' to restore defaults"

def welcome : Message := ⟨1, welcomeText, .ai⟩

end Transcript

end FolderTalk
