import FolderTalk.Text.CaseRanges
import FolderTalk.Text.Word

/-!
# Small and capital letters

The full case mappings: one letter may become several, and a capital sigma at the end of a word
becomes the final small sigma.
-/

namespace FolderTalk.Text

def CaseRun.contains (r : CaseRun) (n : Nat) : Bool :=
  r.first ≤ n && n ≤ r.last && (n - r.first) % r.step == 0

/-- The letter that `runs` pairs with `c`, or `c` itself. -/
def shiftCase (runs : List CaseRun) (c : Char) : Char :=
  match runs.find? (·.contains c.toNat) with
  | some r => Char.ofNat (c.toNat + r.shift).toNat
  | none => c

/-- The small form of one character, where its place in the text does not matter. -/
def lowerChar (c : Char) : List Char :=
  if c.toNat < 128 then [if 'A' ≤ c && c ≤ 'Z' then Char.ofNat (c.toNat + 32) else c]
  else if c.toNat == 0x130 then ['i', '\u0307']
  else [shiftCase lowerRuns c]

/-- The capital form of one character. -/
def upperChar (c : Char) : List Char :=
  if c.toNat < 128 then [if 'a' ≤ c && c ≤ 'z' then Char.ofNat (c.toNat - 32) else c]
  else match upperExpansions.lookup c.toNat with
    | some codes => codes.map Char.ofNat
    | none => [shiftCase upperRuns c]

def isCased (c : Char) : Bool :=
  if c.toNat < 128 then isAsciiLetter c else inRanges casedRanges c.toNat

/-- Marks and modifiers that a cased word continues across. -/
def isCaseIgnorable (c : Char) : Bool :=
  if c.toNat < 128 then ['\'', '.', ':', '^', '\x60'].contains c
  else inRanges caseIgnorableRanges c.toNat

/-- Whether the first character that is not case-ignorable is a cased letter. -/
def meetsCased : List Char → Bool
  | [] => false
  | c :: cs => if isCaseIgnorable c then meetsCased cs else isCased c

/-- `lower`, with the text read so far in `before`, last character first. -/
def lowerFrom (before : List Char) : List Char → List Char
  | [] => []
  | c :: cs =>
    let small :=
      if c == 'Σ' then [if meetsCased before && !meetsCased cs then 'ς' else 'σ'] else lowerChar c
    small ++ lowerFrom (c :: before) cs

/-- The text in small letters. -/
def lower (cs : List Char) : List Char := lowerFrom [] cs

/-- The text in capital letters. -/
def upper (cs : List Char) : List Char := cs.flatMap upperChar

/-- The text with its first character in capitals. -/
def capitalize : List Char → List Char
  | [] => []
  | c :: cs => upperChar c ++ cs

/-- `lower` on strings. -/
def toLower (s : String) : String := String.ofList (lower s.toList)

/-- `upper` on strings. -/
def toUpper (s : String) : String := String.ofList (upper s.toList)

end FolderTalk.Text
