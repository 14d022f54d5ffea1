import FolderTalk.Text.Case
import FolderTalk.Text.Stretch
import FolderTalk.Value
import FolderTalk.Yaml.Scalar

/-!
# The kinds of YAML nodes

A plain scalar without a tag is taken for a number, a truth value, a moment or null when it looks
like one, and for text otherwise. Looking like one does not mean that there is such a value: a
date may have a thirteenth month.
-/

namespace FolderTalk.Yaml

/-- The kinds of nodes. -/
inductive Kind where
  | null | bool | int | float | moment | text | list | map
  /-- The key under which a mapping names others to take entries from. -/
  | merge
  /-- The key that stands for the value of a mapping. -/
  | self
  | unknown
  deriving DecidableEq, Repr

/-! ## What plain scalars look like -/

def isDigit (c : Char) : Bool := '0' ≤ c && c ≤ '9'

def isDigitOrLow (c : Char) : Bool := isDigit c || c == '_'

def isSign (c : Char) : Bool := c == '-' || c == '+'

/-- A text without the sign at its beginning. -/
def unsigned (cs : List Char) : List Char :=
  match cs with
  | c :: rest => if isSign c then rest else cs
  | [] => []

def boolWords : List (String × Bool) :=
  [("yes", true), ("no", false), ("true", true), ("false", false), ("on", true), ("off", false)]

def asciiRaised (cs : List Char) : List Char :=
  cs.map fun c => if 'a' ≤ c && c ≤ 'z' then Char.ofNat (c.toNat - 32) else c

/-- Whether a text is a word in small letters, with one capital, or in capitals. -/
def isSpelling (word cs : List Char) : Bool :=
  cs == word || cs == asciiRaised word
    || cs == asciiRaised (word.take 1) ++ word.drop 1

def looksBool (cs : List Char) : Bool := boolWords.any fun w => isSpelling w.1.toList cs

def looksNull (cs : List Char) : Bool := cs.isEmpty || cs == ['~'] || isSpelling "null".toList cs

/-- Groups of one or two digits below sixty, each after a colon, at least one of them; then
`rest`. -/
def sixties (rest : List Char → Bool) : (groups : Nat) → (seen : Bool) → List Char → Bool
  | 0, _, _ => false
  | fuel + 1, seen, cs =>
    (seen && rest cs) ||
      match cs with
      | ':' :: a :: b :: more =>
        (('0' ≤ a && a ≤ '5') && isDigit b && sixties rest fuel true more)
          || (isDigit a && sixties rest fuel true (b :: more))
      | [':', a] => isDigit a && sixties rest fuel true []
      | _ => false

def looksInt (cs : List Char) : Bool :=
  match unsigned cs with
  | [] => false
  | '0' :: 'b' :: rest => !rest.isEmpty && rest.all fun c => c == '0' || c == '1' || c == '_'
  | '0' :: 'x' :: rest => !rest.isEmpty && rest.all fun c => (hexValue? c).isSome || c == '_'
  | '0' :: rest => rest.all fun c => ('0' ≤ c && c ≤ '7') || c == '_'
  | c :: rest =>
    isDigit c &&
      (rest.all isDigitOrLow
        || sixties List.isEmpty (cs.length + 1) false (rest.dropWhile isDigitOrLow))

/-- Nothing, or an exponent with a sign. -/
def looksExponent (cs : List Char) : Bool :=
  match cs with
  | [] => true
  | e :: s :: rest => (e == 'e' || e == 'E') && isSign s && !rest.isEmpty && rest.all isDigit
  | _ => false

def looksFloat (cs : List Char) : Bool :=
  let fraction (tail : List Char → Bool) : List Char → Bool
    | '.' :: rest => tail (rest.dropWhile isDigitOrLow)
    | _ => false
  match unsigned cs with
  | '.' :: rest =>
    isSpelling "inf".toList rest
      || (cs.head? == some '.' &&
        (["nan", "NaN", "NAN"].contains (String.ofList rest)
          || (isDigit (rest.headD 'x') && looksExponent (rest.dropWhile isDigitOrLow))))
  | c :: rest =>
    isDigit c &&
      (let rest := rest.dropWhile isDigitOrLow
       fraction looksExponent rest || sixties (fraction List.isEmpty) (cs.length + 1) false rest)
  | [] => false

/-! ## Moments -/

/-- The parts of a moment as they are written. -/
structure MomentParts where
  year : Nat
  month : Nat
  day : Nat
  /-- Hour, minute, second and the digits of the fraction. -/
  time : Option (Nat × Nat × Nat × List Char) := none
  /-- The offset from universal time in minutes. -/
  offset : Option Int := none

/-- Between `least` and `most` digits, as many as there are. -/
def digitRun (least most : Nat) (cs : List Char) : Option (List Char × List Char) :=
  let run := (cs.take most).takeWhile isDigit
  if least ≤ run.length then some (run, cs.drop run.length) else none

def number (least most : Nat) (cs : List Char) : Option (Nat × List Char) :=
  (digitRun least most cs).map fun (ds, rest) => (Numeral.digitsValue ds, rest)

def mark (c : Char) : List Char → Option (List Char)
  | d :: rest => if c == d then some rest else none
  | [] => none

/-- An offset at the end of a moment, after optional blanks. -/
def offset? (cs : List Char) : Option (Option Int) :=
  if cs.isEmpty then some none
  else
    match cs.dropWhile isSpaceOrTab with
    | ['Z'] => some (some 0)
    | s :: rest =>
      if !isSign s then none
      else do
        let (hours, rest) ← number 1 2 rest
        let minutes ← match rest with
          | [] => some 0
          | _ => do
            let (minutes, rest) ← number 2 2 (← mark ':' rest)
            if rest.isEmpty then some minutes else none
        return some (Binary64.signed (s == '-') (hours * 60 + minutes))
    | [] => none

/-- The parts of a date, or of a date with a time. -/
def momentParts? (cs : List Char) : Option MomentParts := do
  let (year, rest) ← number 4 4 cs
  let (month, rest) ← number 1 2 (← mark '-' rest)
  let (day, rest) ← number 1 2 (← mark '-' rest)
  if rest.isEmpty then return { year, month, day }
  let rest ←
    if rest.head? == some 'T' || rest.head? == some 't' then some (rest.drop 1)
    else
      let after := rest.dropWhile isSpaceOrTab
      if after.length == rest.length then none else some after
  let (hour, rest) ← number 1 2 rest
  let (minute, rest) ← number 2 2 (← mark ':' rest)
  let (second, rest) ← number 2 2 (← mark ':' rest)
  let (fraction, rest) := match rest with
    | '.' :: more => (more.takeWhile isDigit, more.dropWhile isDigit)
    | _ => ([], rest)
  return { year, month, day, time := some (hour, minute, second, fraction), offset := ← offset? rest }

/-- A date without a time needs two digits for the month and for the day. -/
def looksMoment (cs : List Char) : Bool :=
  (momentParts? cs).any fun p => p.time.isSome || cs.length == 10

/-- The kind of a plain scalar without a tag. -/
def Kind.ofPlain (cs : List Char) : Kind :=
  if looksBool cs then bool
  else if looksFloat cs then float
  else if looksInt cs then int
  else if cs == ['<', '<'] then merge
  else if looksNull cs then null
  else if looksMoment cs then moment
  else if cs == ['='] then self
  else text

/-! ## The values of scalars -/

def invalid {α : Type} (message : String) : Except ReadError α :=
  .error (.unfit (.invalidScalar message))

/-- A numeral of any script in ASCII digits, without the white space around it. -/
def plainNumeral (cs : List Char) : List Char :=
  (Text.trim cs).map fun c => (Text.digitValue? c).elim c fun d => Char.ofNat (48 + d)

/-- The letters of the prefix that digits in a base may have. -/
def prefixLetters : (base : Nat) → List Char
  | 2 => ['b', 'B']
  | 8 => ['o', 'O']
  | 16 => ['x', 'X']
  | _ => []

/-- Digits in a base without the prefix that says so. -/
def withoutPrefix (base : Nat) : List Char → List Char
  | '0' :: c :: rest => if (prefixLetters base).contains c then rest else '0' :: c :: rest
  | cs => cs

/-- The sign and the digits of a whole number in a base. -/
def digitsInBase (base : Nat) (cs : List Char) : Except ReadError (Bool × List Nat) :=
  let (negative, digits) := Numeral.splitSign (plainNumeral cs)
  match (withoutPrefix base digits).mapM hexValue? with
  | some ds => if !ds.isEmpty && ds.all (· < base) then .ok (negative, ds) else refused
  | none => refused
where
  refused : Except ReadError (Bool × List Nat) :=
    invalid ("invalid literal for int() with base " ++ toString base ++ ": "
      ++ Text.quoted (String.ofList cs))

/-- The whole number that a text denotes in a base. -/
def inBase (base : Nat) (cs : List Char) : Except ReadError Int :=
  (digitsInBase base cs).map fun (negative, ds) =>
    Binary64.signed negative (ds.foldl (fun n d => n * base + d) 0)

def decimal (cs : List Char) : Except ReadError Int := do
  let (negative, ds) ← digitsInBase 10 cs
  if ds.length > Numeral.maxDigits then throw (.unfit (.tooManyDigits ds.length))
  return Binary64.signed negative (Numeral.fromDigits ds)

/-- The stretches between colons. -/
def colonParts (cs : List Char) : List (List Char) := Text.divideFrom [':'] 0 [] cs

def withoutLow (cs : List Char) : List Char := cs.filter (· != '_')

def intValue (cs : List Char) : Except ReadError Int := do
  let cs := withoutLow cs
  let n ← match unsigned cs with
    | [] => throw (.unfit .noFirstCharacter)
    | ['0'] => pure 0
    | '0' :: 'b' :: rest => inBase 2 rest
    | '0' :: 'x' :: rest => inBase 16 rest
    | '0' :: rest => inBase 8 ('0' :: rest)
    | cs => do
      if cs.contains ':' then
        let parts ← (colonParts cs).mapM decimal
        pure (parts.foldl (fun n p => n * 60 + p) 0)
      else decimal cs
  return if cs.head? == some '-' then -n else n

/-- The double that a text denotes. -/
def floatOfPart (cs : List Char) : Except ReadError Binary64 :=
  let numeral := plainNumeral cs
  let (negative, word) := Numeral.splitSign numeral
  match String.ofList word with
  | "inf" | "infinity" => .ok (.infinite negative)
  | "nan" => .ok .nan
  | _ =>
    match Numeral.readDecimal numeral with
    | some p => .ok (Binary64.ofDecimal p.negative p.digits p.power)
    | none => invalid ("could not convert string to float: " ++ Text.quoted (String.ofList cs))

/-- How many parts a number in base sixty may have before the unit of the first one is too large
for a double. -/
def maxSixties : Nat := 174

/-- Adds up the parts of a number in base sixty, the last one first. -/
def sumSixties : (unit : Nat) → Binary64 → List Binary64 → Binary64
  | _, sum, [] => sum
  | unit, sum, p :: ps => sumSixties (unit * 60) (sum.add (p.mul (Binary64.ofInt unit))) ps

def floatValue (cs : List Char) : Except ReadError Binary64 := do
  let cs := Text.lower (withoutLow cs)
  if cs.isEmpty then throw (.unfit .noFirstCharacter)
  let magnitude ← match String.ofList (unsigned cs) with
    | ".inf" => pure (Binary64.infinite false)
    | ".nan" => pure Binary64.nan
    | _ =>
      if (unsigned cs).contains ':' then
        let parts ← (colonParts (unsigned cs)).mapM floatOfPart
        if parts.length > maxSixties then throw (.unfit .unitTooLarge)
        pure (sumSixties 1 (Binary64.zero false) parts.reverse)
      else floatOfPart (unsigned cs)
  return if cs.head? == some '-' then magnitude.negate else magnitude

def boolValue (cs : List Char) : Except ReadError Bool :=
  let word := String.ofList (Text.lower cs)
  match boolWords.lookup word with
  | some b => .ok b
  | none => .error (.unfit (.unknownWord word))

def isLeapYear (year : Nat) : Bool := year % 4 == 0 && (year % 100 != 0 || year % 400 == 0)

def daysInMonth (year month : Nat) : Nat :=
  if month == 2 then if isLeapYear year then 29 else 28
  else if month == 4 || month == 6 || month == 9 || month == 11 then 30 else 31

def date (year month day : Nat) : Except ReadError Date :=
  if year == 0 then invalid "year 0 is out of range"
  else if month == 0 || 12 < month then invalid "month must be in 1..12"
  else if day == 0 || daysInMonth year month < day then invalid "day is out of range for month"
  else .ok ⟨year, month, day⟩

/-- The first six digits of a fraction, filled up with zeros. -/
def micros (fraction : List Char) : Nat :=
  let ds := fraction.take 6
  Numeral.digitsValue (ds ++ List.replicate (6 - ds.length) '0')

/-- A span of minutes as whole days and the seconds above them. -/
def spanText (minutes : Int) : String :=
  let days := minutes / 1440
  let seconds := minutes % 1440 * 60
  "datetime.timedelta(days=" ++ toString days
    ++ (if seconds == 0 then "" else ", seconds=" ++ toString seconds) ++ ")"

def momentValue (cs : List Char) : Except ReadError Value :=
  match momentParts? cs with
  | none => .error (.unfit .noMoment)
  | some p =>
    match p.time with
    | none => (date p.year p.month p.day).map .date
    | some (hour, minute, second, fraction) => do
      match p.offset with
      | some minutes =>
        if minutes.natAbs ≥ 1440 then
          invalid ("offset must be a timedelta strictly between -timedelta(hours=24) and "
            ++ "timedelta(hours=24), not " ++ spanText minutes ++ ".")
      | none => pure ()
      let d ← date p.year p.month p.day
      if hour > 23 then invalid "hour must be in 0..23"
      else if minute > 59 then invalid "minute must be in 0..59"
      else if second > 59 then invalid "second must be in 0..59"
      else return .moment ⟨d, hour, minute, second, micros fraction, p.offset⟩

/-- The value of a scalar of a kind. -/
def scalarValue (kind : Kind) (cs : List Char) : Except ReadError Value :=
  match kind with
  | .null => .ok .null
  | .bool => (boolValue cs).map .bool
  | .int => (intValue cs).map .int
  | .float => (floatValue cs).map .float
  | .moment => momentValue cs
  | .text => .ok (.text (String.ofList cs))
  | _ => .error .malformed

end FolderTalk.Yaml
