import FolderTalk.Text.Blank
import FolderTalk.Text.Word

/-!
# Command patterns

A pattern describes how a command is written. It is found in a text by trying every start from
the left; at each start the runs take as much as they can and give back one character at a time,
and optional parts are first taken and then left out. The first way through wins.

The search follows the pattern with the rest of the work as a function of the cursor, so it is a
structural recursion and every start gives up after finitely many trials.
-/

namespace FolderTalk.Command

/-- The classes of characters that a run may take. -/
inductive CharClass where
  | blank | word | name | fileName | quote
  deriving DecidableEq, Repr

/-- Membership: names hold word characters, white space and hyphens, file names also dots. -/
def CharClass.contains : CharClass → Char → Bool
  | blank, c => Text.isBlank c
  | word, c => Text.isWordChar c
  | name, c => Text.isWordChar c || Text.isBlank c || c == '-'
  | fileName, c => Text.isWordChar c || Text.isBlank c || c == '-' || c == '.'
  | quote, c => c == '"' || c == '\''

/-- How a stretch of a command is written. -/
inductive Pattern where
  /-- Exactly these characters. -/
  | literal (cs : List Char)
  /-- One character of a class. -/
  | one (cls : CharClass)
  /-- One or more characters of a class, as many as possible first. -/
  | run (cls : CharClass)
  /-- The pattern, or nothing. -/
  | optional (p : Pattern)
  /-- The first pattern, or else the second. -/
  | either (p q : Pattern)
  /-- One pattern after the other. -/
  | andThen (p q : Pattern)
  /-- The pattern, its text kept as a group. -/
  | group (p : Pattern)
  /-- The end of the text, a closing line feed aside. -/
  | atEnd
  deriving Repr

/-- Where a search stands: the text ahead and the groups kept so far, the latest first. -/
structure Cursor where
  rest : List Char
  groups : List (List Char) := []
  deriving DecidableEq, Repr

/-- The text between a cursor and a later one over the rest `later`. -/
def Cursor.textUntil (c : Cursor) (later : List Char) : List Char :=
  c.rest.take (c.rest.length - later.length)

/-- What is left after `cs`, if the text begins with it. -/
def afterLiteral? : List Char → List Char → Option (List Char)
  | [], text => some text
  | _ :: _, [] => none
  | c :: cs, t :: text => if c == t then afterLiteral? cs text else none

/-- Tries `k` after the longest run of the class, then after each shorter one down to nothing. -/
def longestFirst {α : Type} (cls : CharClass) (k : List Char → Option α) : List Char → Option α
  | [] => k []
  | c :: cs => if cls.contains c then longestFirst cls k cs <|> k (c :: cs) else k (c :: cs)

namespace Pattern

/-- Matches the pattern at the cursor and goes on with `k`, the preferred way first. -/
def advance {α : Type} : Pattern → (Cursor → Option α) → Cursor → Option α
  | literal cs, k, at_ => (afterLiteral? cs at_.rest).bind fun rest => k ⟨rest, at_.groups⟩
  | one cls, k, at_ =>
    match at_.rest with
    | c :: cs => if cls.contains c then k ⟨cs, at_.groups⟩ else none
    | [] => none
  | run cls, k, at_ =>
    match at_.rest with
    | c :: cs =>
      if cls.contains c then longestFirst cls (fun rest => k ⟨rest, at_.groups⟩) cs else none
    | [] => none
  | optional p, k, at_ => p.advance k at_ <|> k at_
  | either p q, k, at_ => p.advance k at_ <|> q.advance k at_
  | andThen p q, k, at_ => p.advance (q.advance k) at_
  | group p, k, at_ =>
    p.advance (fun c => k ⟨c.rest, at_.textUntil c.rest :: c.groups⟩) at_
  | atEnd, k, at_ => if at_.rest.isEmpty || at_.rest == ['\n'] then k at_ else none

/-- One pattern after the other, for a whole list. -/
def inOrder : List Pattern → Pattern
  | [] => literal []
  | [p] => p
  | p :: ps => andThen p (inOrder ps)

/-- The first of the patterns that leads to a match. -/
def firstOf : List Pattern → Pattern
  | [] => literal []
  | [p] => p
  | p :: ps => either p (firstOf ps)

def word (s : String) : Pattern := literal s.toList

end Pattern

/-- A stretch of text that a pattern was found in, with the texts of its groups in order. -/
structure Found where
  whole : List Char
  groups : List (List Char)
  deriving DecidableEq, Repr

/-- The text of a group counted from one, empty when there is none. -/
def Found.group (m : Found) (n : Nat) : String :=
  String.ofList (m.groups.getD (n - 1) [])

/-- The match that begins where the text does. -/
def Pattern.matchHere (p : Pattern) (text : List Char) : Option Found :=
  p.advance (fun c => some ⟨Cursor.textUntil ⟨text, []⟩ c.rest, c.groups.reverse⟩) ⟨text, []⟩

/-- The match that begins furthest to the left. -/
def Pattern.search (p : Pattern) : List Char → Option Found
  | [] => p.matchHere []
  | c :: cs => p.matchHere (c :: cs) <|> p.search cs

end FolderTalk.Command
