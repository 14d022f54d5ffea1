import FolderTalk.Json.Read
import FolderTalk.Number.Shortest
import FolderTalk.Text.Quoted
import FolderTalk.Value

/-!
# Writing JSON text

One item or entry a line, each level indented by two blanks, empty containers on one line.
Characters stand as they are apart from quotes, backslashes and control characters. Keys that are
numbers, truth values or null are written as text. Containers that are not empty are written as deep
inside one another as containers are read.
-/

namespace FolderTalk.Json

/-- Why a value has no JSON text. -/
inductive WriteError where
  /-- A value of this kind cannot be written. -/
  | unsupported (kind : String)
  /-- A key of this kind cannot be written. -/
  | unsupportedKey (kind : String)
  /-- A whole number has more digits than are turned into text. -/
  | tooManyDigits
  /-- Too many containers stand inside one another. -/
  | tooDeep
  deriving DecidableEq, Repr

def escapedChar (c : Char) : List Char :=
  if c == '"' then ['\\', '"']
  else if c == '\\' then ['\\', '\\']
  else if c == '\n' then ['\\', 'n']
  else if c == '\r' then ['\\', 'r']
  else if c == '\t' then ['\\', 't']
  else if c == '\x08' then ['\\', 'b']
  else if c == '\x0c' then ['\\', 'f']
  else if c.toNat < 32 then '\\' :: 'u' :: Text.hexDigits 4 c.toNat
  else [c]

/-- A string between quotes. -/
def quote (s : String) : List Char := '"' :: (s.toList.flatMap escapedChar ++ ['"'])

def floatText (x : Binary64) : List Char :=
  match x with
  | .nan => "NaN".toList
  | .infinite negative => (if negative then "-Infinity" else "Infinity").toList
  | _ => x.text.toList

def intText (n : Int) : Except WriteError (List Char) :=
  if n.natAbs < Nat.pow 10 Numeral.maxDigits then .ok (toString n).toList else .error .tooManyDigits

def boolText (b : Bool) : List Char := (if b then "true" else "false").toList

/-- The text of a key. -/
def keyText : Value → Except WriteError (List Char)
  | .text s => .ok (quote s)
  | .null => .ok (quote "null")
  | .bool b => .ok (quote (String.ofList (boolText b)))
  | .int n => do return quote (String.ofList (← intText n))
  | .float x => .ok (quote (String.ofList (floatText x)))
  | .date _ => .error (.unsupportedKey "date")
  | .moment _ => .error (.unsupportedKey "datetime")
  | .list _ => .error (.unsupportedKey "list")
  | .map _ => .error (.unsupportedKey "dict")

/-- A new line at a level of indentation. -/
def newLine (level : Nat) : List Char := '\n' :: List.replicate (2 * level) ' '

mutual

/-- The text of a value that stands at a level of indentation. -/
def writeAt (level : Nat) : Value → Except WriteError (List Char)
  | .null => .ok "null".toList
  | .bool b => .ok (boolText b)
  | .int n => intText n
  | .float x => .ok (floatText x)
  | .text s => .ok (quote s)
  | .date _ => .error (.unsupported "date")
  | .moment _ => .error (.unsupported "datetime")
  | .list [] => .ok ['[', ']']
  | .list (x :: xs) =>
    if maxDepth ≤ level then .error .tooDeep
    else do
      let first ← writeAt (level + 1) x
      let rest ← writeItems (level + 1) xs
      return '[' :: (newLine (level + 1) ++ first ++ rest ++ newLine level ++ [']'])
  | .map [] => .ok ['\x7b', '\x7d']
  | .map (e :: es) =>
    if maxDepth ≤ level then .error .tooDeep
    else do
      let first ← writeEntry (level + 1) e
      let rest ← writeEntries (level + 1) es
      return '\x7b' :: (newLine (level + 1) ++ first ++ rest ++ newLine level ++ ['\x7d'])

/-- The items after the first, each after a comma on a line of its own. -/
def writeItems (level : Nat) : List Value → Except WriteError (List Char)
  | [] => .ok []
  | x :: xs => do
    let item ← writeAt level x
    let rest ← writeItems level xs
    return ',' :: (newLine level ++ item ++ rest)

/-- The entries after the first, each after a comma on a line of its own. -/
def writeEntries (level : Nat) : List (Value × Value) → Except WriteError (List Char)
  | [] => .ok []
  | e :: es => do
    let entry ← writeEntry level e
    let rest ← writeEntries level es
    return ',' :: (newLine level ++ entry ++ rest)

def writeEntry (level : Nat) : Value × Value → Except WriteError (List Char)
  | (k, v) => do
    let key ← keyText k
    let value ← writeAt level v
    return key ++ ':' :: ' ' :: value

end

/-- The JSON text of a value. -/
def write (v : Value) : Except WriteError String := (writeAt 0 v).map String.ofList

end FolderTalk.Json
