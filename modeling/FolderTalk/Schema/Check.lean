import FolderTalk.Number.Numeral
import FolderTalk.Number.Shortest
import FolderTalk.Schema.Issue
import FolderTalk.Text.Quoted
import FolderTalk.Value

/-!
# Checking data

A check turns a free value into typed data or says everything that is wrong with it. Checks of the
fields of a record go on after an issue, so that all issues are reported, in the order of the
fields.

Whole numbers may also be written as truth values, as doubles without a fraction and as numerals;
truth values may be written as zero and one and as the usual words. Texts must be texts.
-/

namespace FolderTalk.Schema

/-- Typed data, or all issues that were found. -/
inductive Checked (α : Type) where
  | valid (a : α)
  | invalid (issues : List Issue)
  deriving Repr

namespace Checked

variable {α β : Type}

def map (f : α → β) : Checked α → Checked β
  | valid a => valid (f a)
  | invalid issues => invalid issues

/-- Applies checked data to a checked function, the issues of the function first. -/
def app : Checked (α → β) → Checked α → Checked β
  | valid f, valid a => valid (f a)
  | valid _, invalid issues => invalid issues
  | invalid issues, valid _ => invalid issues
  | invalid issues, invalid more => invalid (issues ++ more)

/-- The same with one more step in front of every place. -/
def under (step : Step) : Checked α → Checked α
  | valid a => valid a
  | invalid issues => invalid (issues.map fun i => { i with path := step :: i.path })

def toOption : Checked α → Option α
  | valid a => some a
  | invalid _ => none

end Checked

def fault {α : Type} (p : Problem) : Checked α := .invalid [⟨[], p⟩]

/-! ## Single values -/

def text : Value → Checked String
  | .text s => .valid s
  | _ => fault .notText

def optionalText : Value → Checked (Option String)
  | .null => .valid none
  | v => (text v).map some

def oneOf {α : Type} (find? : String → Option α) (choices : List String) : Value → Checked α
  | .text s =>
    match find? s with
    | some a => .valid a
    | none => fault (.notOneOf choices)
  | _ => fault (.notOneOf choices)

/-- The white space that may stand around a numeral: that of Unicode alone. -/
def isMargin (c : Char) : Bool := Text.isBlank c && !(28 ≤ c.toNat && c.toNat ≤ 31)

def withoutMargins (cs : List Char) : List Char :=
  ((cs.dropWhile isMargin).reverse.dropWhile isMargin).reverse

/-- The text before a point that has only zeros after it. -/
def withoutZeroFraction (cs : List Char) : List Char :=
  let whole := cs.takeWhile (· != '.')
  match cs.dropWhile (· != '.') with
  | _ :: rest => if rest.all (· == '0') then whole else cs
  | [] => cs

/-- Leading zeros, and underscores among them, are dropped; a text that does not begin with a digit
is refused. -/
def withoutLeadingZeros? (cs : List Char) : Option (List Char) :=
  match cs with
  | [] => none
  | c :: _ =>
    if !Text.isAsciiDigit c then none
    else
      match cs.dropWhile fun c => c == '0' || c == '_' with
      | [] => cs.getLast?.map ([·])
      | d :: rest =>
        if d == '.' then some ('0' :: '.' :: rest)
        else if Text.isAsciiDigit d then some (d :: rest)
        else none

/-- The whole number that a text denotes: margins, a sign, single underscores between digits and a
fraction of zeros are allowed. -/
def integerOfText (s : String) : Checked Int :=
  let (negative, cs) := match withoutMargins s.toList with
    | '+' :: rest => (false, rest)
    | '-' :: rest => (true, rest)
    | rest => (false, rest)
  match withoutLeadingZeros? cs with
  | none => fault .unparsableInteger
  | some cs =>
    match Numeral.underscored (fun c => if Text.isAsciiDigit c then some (c.toNat - 48) else none)
        (withoutZeroFraction cs) with
    | none => fault .unparsableInteger
    | some digits =>
      if digits.length > Numeral.maxDigits then fault .oversizedInteger
      else .valid (Binary64.signed negative (Numeral.fromDigits digits))

/-- Whether a number fits a signed word of 64 bits. -/
def fitsWord (n : Int) : Bool := -(Nat.pow 2 63 : Nat) ≤ n && n < (Nat.pow 2 63 : Nat)

/-- The whole number that a double is. -/
def integerOfFloat (x : Binary64) : Checked Int :=
  match x with
  | .finite .. =>
    match x.toInt? with
    | some n => if fitsWord n then .valid n else fault .oversizedInteger
    | none => fault .fractional
  | _ => fault .notFinite

def integer : Value → Checked Int
  | .int n => .valid n
  | .bool b => .valid (if b then 1 else 0)
  | .float x => integerOfFloat x
  | .text s => integerOfText s
  | _ => fault .notInteger

/-- A whole number that is not negative. -/
def natural (v : Value) : Checked Nat :=
  match integer v with
  | .valid n => if 0 ≤ n then .valid n.toNat else fault (.belowMinimum 0)
  | .invalid issues => .invalid issues

theorem toNat_pos_of_pos {n : Int} (h : 0 < n) : 0 < n.toNat := by omega

/-- A whole number from one on. -/
def positive (v : Value) : Checked { n : Nat // 0 < n } :=
  match integer v with
  | .valid n => if h : 0 < n then .valid ⟨n.toNat, toNat_pos_of_pos h⟩ else fault (.belowMinimum 1)
  | .invalid issues => .invalid issues

def yesWords : List String := ["1", "on", "t", "true", "y", "yes"]

def noWords : List String := ["0", "off", "f", "false", "n", "no"]

def asciiLower (s : String) : String :=
  String.ofList (s.toList.map fun c => if 'A' ≤ c && c ≤ 'Z' then Char.ofNat (c.toNat + 32) else c)

def booleanOfInt (n : Int) : Checked Bool :=
  if n == 0 then .valid false else if n == 1 then .valid true else fault .unparsableBoolean

def boolean : Value → Checked Bool
  | .bool b => .valid b
  | .text s =>
    let word := asciiLower s
    if yesWords.contains word then .valid true
    else if noWords.contains word then .valid false
    else fault .unparsableBoolean
  | .int n => if fitsWord n then booleanOfInt n else fault .notBoolean
  | .float x =>
    match integerOfFloat x with
    | .valid n => booleanOfInt n
    | .invalid _ => fault .notBoolean
  | _ => fault .notBoolean

/-- Checks the items from a position on. -/
def itemsFrom {α : Type} (check : Value → Checked α) : (position : Nat) → List Value →
    Checked (List α)
  | _, [] => .valid []
  | n, v :: vs =>
    (((check v).under (.index n)).map List.cons).app (itemsFrom check (n + 1) vs)

def listOf {α : Type} (check : Value → Checked α) : Value → Checked (List α)
  | .list items => itemsFrom check 0 items
  | _ => fault .notList

/-! ## Records -/

/-- A field that must be there. -/
def required {α : Type} (entries : Entries) (name : String) (check : Value → Checked α) :
    Checked α :=
  match entries.get? name with
  | some v => (check v).under (.key name)
  | none => .invalid [⟨[.key name], .missing⟩]

/-- A field with a value for the case that it is absent. -/
def optionalField {α : Type} (entries : Entries) (name : String) (absent : α)
    (check : Value → Checked α) : Checked α :=
  match entries.get? name with
  | some v => (check v).under (.key name)
  | none => .valid absent

/-- A record called `name`, checked by its entries. -/
def record {α : Type} (name : String) (check : Entries → Checked α) : Value → Checked α
  | .map entries => check entries
  | _ => fault (.notRecord name)

/-- How a key that is no text is named in a place. -/
def keyStep : Value → Step
  | .int n => .index n
  | .bool b => .key (if b then "True" else "False")
  | .float x => .key x.text
  | .text s => .key s
  | _ => .key "None"

/-- The keys that are not fields of a record, in their order. -/
def unknownKeys (entries : Entries) (fields : List String) : List Issue :=
  entries.filterMap fun (k, _) =>
    match k with
    | .text s => if fields.contains s then none else some ⟨[.key s], .unknownKey⟩
    | k => some ⟨[keyStep k], .keyNotText⟩

/-- A check that also refuses every key outside `fields`. -/
def closed {α : Type} (entries : Entries) (fields : List String) (checked : Checked α) :
    Checked α :=
  match unknownKeys entries fields with
  | [] => checked
  | issues => (checked.map fun a => fun (_ : Unit) => a).app (.invalid issues)

end FolderTalk.Schema
