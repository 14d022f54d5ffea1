import FolderTalk.Number.Binary64
import FolderTalk.Text.Blank
import FolderTalk.Text.Word

/-!
# Numerals

Reading whole numbers and decimals from text. Numerals of more than 4300 digits are refused in both
directions, because turning them into numbers or back takes time that grows with their square.
-/

namespace FolderTalk.Numeral

/-- The most digits that a numeral may have. -/
def maxDigits : Nat := 4300

/-- The value of a row of ASCII digits. -/
def digitsValue (cs : List Char) : Nat :=
  cs.foldl (fun n c => n * 10 + (c.toNat - '0'.toNat)) 0

/-- A sign, if there is one, and what follows it. -/
def splitSign : List Char → Bool × List Char
  | '-' :: cs => (true, cs)
  | '+' :: cs => (false, cs)
  | cs => (false, cs)

/-- The digits of a numeral in which single underscores may stand between digits. -/
def underscored (digit? : Char → Option Nat) : List Char → Option (List Nat)
  | [] => none
  | [c] => (digit? c).map ([·])
  | c :: '_' :: cs => do return (← digit? c) :: (← underscored digit? cs)
  | c :: cs => do return (← digit? c) :: (← underscored digit? cs)

/-- Why a text is no whole number. -/
inductive IntError where
  | malformed
  | tooLong (digits : Nat)
  deriving DecidableEq, Repr

def fromDigits (digits : List Nat) : Nat := digits.foldl (fun n d => n * 10 + d) 0

/-- A whole number in digits of any script: white space around it, a sign and single underscores
between digits are allowed. -/
def readInt (s : String) : Except IntError Int :=
  let (negative, cs) := splitSign (Text.trim s.toList)
  match underscored Text.digitValue? cs with
  | none => .error .malformed
  | some digits =>
    if digits.length > maxDigits then .error (.tooLong digits.length)
    else .ok (Binary64.signed negative (fromDigits digits))

/-- The parts of a decimal: digits, with at least one on either side of the point taken together,
and an optional exponent; the value is `digits * 10 ^ power`. -/
structure DecimalParts where
  negative : Bool
  digits : Nat
  power : Int
  deriving DecidableEq, Repr

def spanDigits (cs : List Char) : List Char × List Char :=
  (cs.takeWhile Text.isAsciiDigit, cs.dropWhile Text.isAsciiDigit)

/-- An exponent mark with a signed row of digits, to the end of the text; nothing at all is zero. -/
def readExponent : List Char → Option Int
  | [] => some 0
  | c :: cs =>
    if c == 'e' || c == 'E' then
      let (negative, rest) := splitSign cs
      if !rest.isEmpty && rest.all Text.isAsciiDigit then
        some (Binary64.signed negative (digitsValue rest))
      else none
    else none

/-- Reads a decimal such as `-12.5e3`. -/
def readDecimal (cs : List Char) : Option DecimalParts :=
  let (negative, cs) := splitSign cs
  let (whole, cs) := spanDigits cs
  let (fraction, cs) := match cs with
    | '.' :: rest => spanDigits rest
    | _ => ([], cs)
  if whole.isEmpty && fraction.isEmpty then none
  else (readExponent cs).map fun e =>
    ⟨negative, digitsValue (whole ++ fraction), e - fraction.length⟩

/-- The double nearest to a decimal, or an infinity or not-a-number by name. -/
def readFloat (s : String) : Option Binary64 :=
  let (negative, word) := splitSign s.toList
  match String.ofList word with
  | "inf" => some (.infinite negative)
  | "nan" => some .nan
  | _ => (readDecimal s.toList).map fun p => Binary64.ofDecimal p.negative p.digits p.power

end FolderTalk.Numeral
