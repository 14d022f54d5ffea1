import FolderTalk.Value

/-!
# The tokens of JSON text

A text is cut into tokens without looking at its structure. What cannot be a token becomes the
token `bad`, so the cutting itself never fails. The words for the numbers that are no numbers are
tokens too.
-/

namespace FolderTalk.Json

/-- A number as it is written. -/
structure Lexeme where
  negative : Bool
  whole : List Char
  fraction : Option (List Char) := none
  exponent : Option (Bool × List Char) := none
  deriving DecidableEq, Repr

/-- The pieces of JSON text. -/
inductive Token where
  | openList | closeList | openMap | closeMap | comma | colon
  | text (s : String)
  | number (l : Lexeme)
  | word (v : Value)
  | bad
  deriving Repr, Inhabited

def isSpace (c : Char) : Bool := c == ' ' || c == '\t' || c == '\n' || c == '\r'

/-- The value of four hexadecimal digits and what follows them. -/
def hexFour? : List Char → Option (Nat × List Char)
  | a :: b :: c :: d :: rest => do
    let digit (x : Char) : Option Nat :=
      if '0' ≤ x && x ≤ '9' then some (x.toNat - 48)
      else if 'a' ≤ x && x ≤ 'f' then some (x.toNat - 87)
      else if 'A' ≤ x && x ≤ 'F' then some (x.toNat - 55)
      else none
    return ((((← digit a) * 16 + (← digit b)) * 16 + (← digit c)) * 16 + (← digit d), rest)
  | _ => none

/-- The character of a unit that may be the first half of a pair; half a pair alone is shown as the
replacement character. -/
def unpaired (unit : Nat) : Char := if 0xd800 ≤ unit && unit < 0xe000 then '\ufffd' else Char.ofNat unit

/-- The character that an escape after the backslash stands for, and what follows it. -/
def escape? : List Char → Option (Char × List Char)
  | '"' :: cs => some ('"', cs)
  | '\\' :: cs => some ('\\', cs)
  | '/' :: cs => some ('/', cs)
  | 'b' :: cs => some ('\x08', cs)
  | 'f' :: cs => some ('\x0c', cs)
  | 'n' :: cs => some ('\n', cs)
  | 'r' :: cs => some ('\r', cs)
  | 't' :: cs => some ('\t', cs)
  | 'u' :: cs => do
    let (unit, cs) ← hexFour? cs
    if 0xd800 ≤ unit && unit < 0xdc00 then
      match cs with
      | '\\' :: 'u' :: more =>
        match hexFour? more with
        | some (low, rest) =>
          if 0xdc00 ≤ low && low < 0xe000 then
            return (Char.ofNat (0x10000 + (unit - 0xd800) * 0x400 + (low - 0xdc00)), rest)
          else return (unpaired unit, cs)
        | none => return (unpaired unit, cs)
      | _ => return (unpaired unit, cs)
    else return (unpaired unit, cs)
  | _ => none

/-- A string up to its closing quote, the characters read so far in `done`, last first. Control
characters may not stand in it as they are. -/
def stringBody? : (fuel : Nat) → (done : List Char) → List Char → Option (String × List Char)
  | 0, _, _ => none
  | _ + 1, _, [] => none
  | fuel + 1, done, c :: cs =>
    if c == '"' then some (String.ofList done.reverse, cs)
    else if c == '\\' then (escape? cs).bind fun (e, rest) => stringBody? fuel (e :: done) rest
    else if c.toNat < 32 then none
    else stringBody? fuel (c :: done) cs

def isDigit (c : Char) : Bool := '0' ≤ c && c ≤ '9'

/-- A whole part without a leading zero, and what follows it. -/
def wholePart? : List Char → Option (List Char × List Char)
  | [] => none
  | c :: cs =>
    if c == '0' then some (['0'], cs)
    else if isDigit c then some (c :: cs.takeWhile isDigit, cs.dropWhile isDigit)
    else none

/-- A point with digits after it, if the text begins with one. -/
def fractionPart (cs : List Char) : Option (List Char) × List Char :=
  match cs with
  | '.' :: d :: rest =>
    if isDigit d then (some (d :: rest.takeWhile isDigit), rest.dropWhile isDigit) else (none, cs)
  | _ => (none, cs)

/-- An exponent with digits, if the text begins with one. -/
def exponentPart (cs : List Char) : Option (Bool × List Char) × List Char :=
  match cs with
  | c :: rest =>
    if c == 'e' || c == 'E' then
      let (negative, rest) := match rest with
        | '-' :: r => (true, r)
        | '+' :: r => (false, r)
        | r => (false, r)
      match rest with
      | d :: more =>
        if isDigit d then (some (negative, d :: more.takeWhile isDigit), more.dropWhile isDigit)
        else (none, cs)
      | [] => (none, cs)
    else (none, cs)
  | [] => (none, cs)

/-- The longest number that the text begins with. -/
def number? (cs : List Char) : Option (Lexeme × List Char) := do
  let (negative, rest) := match cs with
    | '-' :: r => (true, r)
    | r => (false, r)
  let (whole, rest) ← wholePart? rest
  let (fraction, rest) := fractionPart rest
  let (exponent, rest) := exponentPart rest
  return (⟨negative, whole, fraction, exponent⟩, rest)

/-- The words of JSON text. -/
def words : List (List Char × Value) :=
  [("null".toList, .null), ("true".toList, .bool true), ("false".toList, .bool false),
   ("NaN".toList, .float .nan), ("Infinity".toList, .float (.infinite false)),
   ("-Infinity".toList, .float (.infinite true))]

/-- The word that the text begins with. -/
def word? (cs : List Char) : Option (Value × List Char) :=
  words.findSome? fun (w, v) => if w.isPrefixOf cs then some (v, cs.drop w.length) else none

/-- The first token of a text that begins with no white space, and what follows it. -/
def firstToken (c : Char) (cs : List Char) : Token × List Char :=
  if c == '[' then (.openList, cs)
  else if c == ']' then (.closeList, cs)
  else if c == '\x7b' then (.openMap, cs)
  else if c == '\x7d' then (.closeMap, cs)
  else if c == ',' then (.comma, cs)
  else if c == ':' then (.colon, cs)
  else if c == '"' then
    match stringBody? (cs.length + 1) [] cs with
    | some (s, rest) => (.text s, rest)
    | none => (.bad, [])
  else
    match word? (c :: cs) with
    | some (v, rest) => (.word v, rest)
    | none =>
      match number? (c :: cs) with
      | some (l, rest) => (.number l, rest)
      | none => (.bad, [])

/-- The tokens of a text, looking at no more than `fuel` of them. -/
def tokensWithin : (fuel : Nat) → List Char → List Token
  | 0, _ => []
  | fuel + 1, cs =>
    match cs.dropWhile isSpace with
    | [] => []
    | c :: rest =>
      let (t, rest) := firstToken c rest
      t :: tokensWithin fuel rest

/-- The tokens of a text. -/
def tokens (cs : List Char) : List Token := tokensWithin cs.length cs

end FolderTalk.Json
