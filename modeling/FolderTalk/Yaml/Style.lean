import FolderTalk.Yaml.Kind

/-!
# The styles of YAML scalars

How a scalar is written: plain if it is then read back as what it is, else between single quotes,
and between double quotes if it holds characters that need a backslash.
-/

namespace FolderTalk.Yaml

/-- The ways to write a scalar. -/
inductive Style where
  | plain | single | double
  deriving DecidableEq, Repr

/-- Whether each character is printable ASCII or a line feed. -/
def isSimple (cs : List Char) : Bool :=
  cs.all fun c => c == '\n' || (' ' ≤ c && c ≤ '~')

/-- Whether one of two characters is directly followed by the other one, in the given order. -/
def hasPair (a b : Char) : List Char → Bool
  | x :: y :: rest => (x == a && y == b) || hasPair a b (y :: rest)
  | _ => false

/-- The marks that no plain scalar begins with. -/
def isOpeningMark (c : Char) : Bool := "#,[]\x7b\x7d&*!|>'\"%@\x60".toList.contains c

/-- Whether a later character of a scalar has a meaning of its own in a block. -/
def hasBlockMark : (before : Char) → List Char → Bool
  | _, [] => false
  | before, c :: rest =>
    (c == ':' && endsWord (rest.headD '\x00')) || (c == '#' && endsWord before)
      || hasBlockMark c rest

/-- Whether a scalar has marks that have a meaning of their own in a block. -/
def marksBlock (cs : List Char) : Bool :=
  match cs with
  | [] => false
  | c :: rest =>
    cs.take 3 == ['-', '-', '-'] || cs.take 3 == ['.', '.', '.'] || isOpeningMark c
      || ((c == '?' || c == ':' || c == '-') && endsWord (rest.headD '\x00'))
      || hasBlockMark c rest

/-- Whether a scalar has marks that have a meaning of their own inside a flow collection. -/
def marksFlow (cs : List Char) : Bool :=
  match cs with
  | [] => false
  | c :: rest =>
    marksBlock cs || c == '?' || c == ':'
      || rest.any fun d => isFlowMark d || d == '?' || d == ':'

/-- Whether a text begins or ends with a blank or a line feed. -/
def hasOuterSpace (cs : List Char) : Bool :=
  let isSpace (c : Char) := c == ' ' || c == '\n'
  isSpace (cs.headD 'x') || isSpace (cs.getLastD 'x')

/-- Whether a scalar may be written plain. -/
def allowsPlain (flow : Bool) (cs : List Char) : Bool :=
  if cs.isEmpty then !flow
  else isSimple cs && !cs.contains '\n' && !hasOuterSpace cs
    && !(if flow then marksFlow cs else marksBlock cs)

/-- Whether a scalar may be written between single quotes. -/
def allowsSingle (cs : List Char) : Bool :=
  isSimple cs && !hasPair '\n' ' ' cs && !hasPair ' ' '\n' cs

/-- The style of a scalar of a kind; a key does not go over several lines. -/
def Style.choose (flow asKey : Bool) (kind : Kind) (cs : List Char) : Style :=
  let manyLines := cs.contains '\n'
  if Kind.ofPlain cs == kind && !(asKey && manyLines) && allowsPlain flow cs then plain
  else if allowsSingle cs && !(asKey && manyLines) then single
  else double

end FolderTalk.Yaml
