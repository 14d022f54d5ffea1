import FolderTalk.Number.Shortest
import FolderTalk.Text.Quoted
import FolderTalk.Value

/-!
# Values in messages

How a free value is shown inside a message: texts inside containers between quotes, truth values
and null with a capital.
-/

namespace FolderTalk

namespace Value

/-- `n` with at least `width` digits. -/
def padded (width n : Nat) : String :=
  let digits := toString n
  String.ofList (List.replicate (width - digits.length) '0') ++ digits

end Value

def Date.text (d : Date) : String :=
  Value.padded 4 d.year ++ "-" ++ Value.padded 2 d.month ++ "-" ++ Value.padded 2 d.day

/-- An offset from universal time. -/
def offsetText (minutes : Int) : String :=
  (if minutes < 0 then "-" else "+") ++ Value.padded 2 (minutes.natAbs / 60) ++ ":"
    ++ Value.padded 2 (minutes.natAbs % 60)

/-- Date and time with a separator between them; the fraction of a second only where there is
one. -/
def Moment.text (separator : String) (m : Moment) : String :=
  m.date.text ++ separator ++ Value.padded 2 m.hour ++ ":" ++ Value.padded 2 m.minute ++ ":"
    ++ Value.padded 2 m.second
    ++ (if m.micros == 0 then "" else "." ++ Value.padded 6 m.micros)
    ++ (match m.offset with
      | some minutes => offsetText minutes
      | none => "")

namespace Value

def boolShown (b : Bool) : String := if b then "True" else "False"

mutual

/-- The form of a value inside a container. -/
def shownInside : Value → String
  | null => "None"
  | bool b => boolShown b
  | int n => toString n
  | float x => x.text
  | text s => Text.quoted s
  | date d => "datetime.date(" ++ toString d.year ++ ", " ++ toString d.month ++ ", "
      ++ toString d.day ++ ")"
  | moment m => "datetime.datetime(" ++ toString m.date.year ++ ", " ++ toString m.date.month
      ++ ", " ++ toString m.date.day ++ ", " ++ toString m.hour ++ ", " ++ toString m.minute ++ ")"
  | list items => "[" ++ ", ".intercalate (shownItems items) ++ "]"
  | map entries => "\x7b" ++ ", ".intercalate (shownEntries entries) ++ "\x7d"

def shownItems : List Value → List String
  | [] => []
  | v :: vs => shownInside v :: shownItems vs

def shownEntries : List (Value × Value) → List String
  | [] => []
  | e :: es => shownEntry e :: shownEntries es

def shownEntry : Value × Value → String
  | (k, v) => shownInside k ++ ": " ++ shownInside v

end

/-- The form of a value on its own. -/
def shown : Value → String
  | text s => s
  | date d => d.text
  | moment m => m.text " "
  | v => shownInside v

end Value

end FolderTalk
