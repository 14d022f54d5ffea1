import FolderTalk.Number.Binary64

/-!
# Free values

The values that data files hold before anything is known about their meaning. Mappings keep their
entries in order and may have keys of any kind.

Two values are the same when they look alike to a reader who does not care how a number is
written: a whole number equals the double of that value, truth equals one, and the order of a
mapping's entries does not matter.
-/

namespace FolderTalk

/-- A day of the calendar. -/
structure Date where
  year : Nat
  month : Nat
  day : Nat
  deriving DecidableEq, Repr, Inhabited

/-- A moment of a day, with the offset from universal time in minutes if it is known. -/
structure Moment where
  date : Date
  hour : Nat
  minute : Nat
  second : Nat
  micros : Nat := 0
  offset : Option Int := none
  deriving DecidableEq, Repr, Inhabited

/-- Data of any shape. -/
inductive Value where
  | null
  | bool (b : Bool)
  | int (n : Int)
  | float (x : Binary64)
  | text (s : String)
  | date (d : Date)
  | moment (m : Moment)
  | list (items : List Value)
  | map (entries : List (Value × Value))
  deriving Repr, Inhabited

/-- The entries of a mapping. -/
abbrev Entries := List (Value × Value)

namespace Value

/-- The number that a truth value, a whole number or a whole double stands for. -/
def number? : Value → Option Int
  | bool b => some (if b then 1 else 0)
  | int n => some n
  | float x => x.toInt?
  | _ => none

mutual

/-- Whether two values are the same up to the spelling of numbers and the order of entries. -/
def same : Value → Value → Bool
  | null, null => true
  | text s, text t => s == t
  | date d, date e => d == e
  | moment m, moment n => m == n
  | list xs, list ys => sameItems xs ys
  | map xs, map ys => xs.length == ys.length && sameEntries xs ys
  | float x, float y => x.same y
  | bool b, v => v.number? == some (if b then 1 else 0)
  | int n, v => v.number? == some n
  | float x, bool b => x.toInt? == some (if b then 1 else 0)
  | float x, int n => x.toInt? == some n
  | _, _ => false

def sameItems : List Value → List Value → Bool
  | [], [] => true
  | x :: xs, y :: ys => same x y && sameItems xs ys
  | _, _ => false

/-- Whether every entry has a counterpart in `ys`. -/
def sameEntries : List (Value × Value) → List (Value × Value) → Bool
  | [], _ => true
  | e :: xs, ys => sameEntry e ys && sameEntries xs ys

def sameEntry : Value × Value → List (Value × Value) → Bool
  | (k, v), ys => ys.any fun e => same k e.1 && same v e.2

end

end Value

namespace Entries

/-- The value under a key. -/
def find? (entries : Entries) (key : Value) : Option Value :=
  (List.find? (fun e => key.same e.1) entries).map (·.2)

/-- Sets the value under a key: in place if the key is there, at the end otherwise. -/
def put (entries : Entries) (key value : Value) : Entries :=
  match entries with
  | [] => [(key, value)]
  | e :: rest => if key.same e.1 then (e.1, value) :: rest else e :: put rest key value

/-- The value under a text key. -/
def get? (entries : Entries) (key : String) : Option Value := find? entries (.text key)

/-- Sets the value under a text key. -/
def set (entries : Entries) (key : String) (value : Value) : Entries :=
  put entries (.text key) value

/-- The mapping that results from writing the pairs one after another. -/
def ofPairs (pairs : List (Value × Value)) : Entries :=
  pairs.foldl (fun acc e => acc.put e.1 e.2) []

end Entries

end FolderTalk
