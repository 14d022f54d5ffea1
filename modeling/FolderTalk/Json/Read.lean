import FolderTalk.Json.Token
import FolderTalk.Number.Numeral

/-!
# Reading JSON text

The tokens are read one by one beside a stack of the lists and mappings that are still open, so
reading is a fold over the tokens. A key that is repeated keeps its first place and its
last value.
-/

namespace FolderTalk.Json

/-- The two kinds of container. -/
inductive Container where
  | list | map
  deriving DecidableEq, Repr

/-- Why a text cannot be read. -/
inductive ReadError where
  /-- The text is not JSON. -/
  | malformed
  /-- A whole number has more digits than are turned into a number. -/
  | tooManyDigits (count : Nat)
  /-- Too many containers stand inside one another. -/
  | tooDeep (innermost : Container)
  deriving DecidableEq, Repr

/-- The most containers that may stand inside one another in a text. -/
def maxDepth : Nat := 985

/-- A container that is still open: its items or entries so far, the latest first, and for a
mapping the key whose value is being read. -/
inductive Frame where
  | list (items : List Value)
  | map (entries : List (Value × Value)) (key : String)

/-- What has to come next. -/
inductive Need where
  | value
  | valueOrClose
  | key
  | keyOrClose
  | colon
  | commaOrClose
  | nothing

/-- Where reading stands: what has to come next, the open containers, the innermost first, and the
value of the whole text once it is complete. -/
structure Progress where
  need : Need := .value
  stack : List Frame := []
  done : Option Value := none

/-- The number that a lexeme denotes. -/
def Lexeme.value (l : Lexeme) : Except ReadError Value :=
  match l.fraction, l.exponent with
  | none, none =>
    if l.whole.length > Numeral.maxDigits then .error (.tooManyDigits l.whole.length)
    else .ok (.int (Binary64.signed l.negative (Numeral.digitsValue l.whole)))
  | fraction, exponent =>
    let digits := fraction.getD []
    let power : Int := match exponent with
      | some (negative, ds) => Binary64.signed negative (Numeral.digitsValue ds)
      | none => 0
    .ok (.float (Binary64.ofDecimal l.negative (Numeral.digitsValue (l.whole ++ digits))
      (power - digits.length)))

/-- Opens a container, unless too many are open. -/
def opened (stack : List Frame) (f : Frame) : Except ReadError (List Frame) :=
  if stack.length < maxDepth then .ok (f :: stack)
  else .error (.tooDeep (match f with | .list _ => .list | .map .. => .map))

/-- The value of a container that is closed. -/
def Frame.value : Frame → Value
  | .list items => .list items.reverse
  | .map entries _ => .map (Entries.ofPairs entries.reverse)

/-- Goes on after a finished value, which is put into the innermost open container. -/
def finished (v : Value) : List Frame → Progress
  | [] => ⟨.nothing, [], some v⟩
  | .list items :: rest => ⟨.commaOrClose, .list (v :: items) :: rest, none⟩
  | .map entries key :: rest => ⟨.commaOrClose, .map ((.text key, v) :: entries) key :: rest, none⟩

/-- A token where a value has to come. -/
def beginValue (stack : List Frame) : Token → Except ReadError Progress
  | .openList => do return ⟨.valueOrClose, ← opened stack (.list []), none⟩
  | .openMap => do return ⟨.keyOrClose, ← opened stack (.map [] ""), none⟩
  | .text s => .ok (finished (.text s) stack)
  | .word v => .ok (finished v stack)
  | .number l => do return finished (← l.value) stack
  | _ => .error .malformed

/-- Takes one token. -/
def Progress.step (p : Progress) (t : Token) : Except ReadError Progress :=
  match p.need, t, p.stack with
  | .valueOrClose, .closeList, f :: rest => .ok (finished f.value rest)
  | .keyOrClose, .closeMap, f :: rest => .ok (finished f.value rest)
  | .commaOrClose, .closeList, .list items :: rest => .ok (finished (Frame.list items).value rest)
  | .commaOrClose, .closeMap, .map entries key :: rest =>
    .ok (finished (Frame.map entries key).value rest)
  | .commaOrClose, .comma, .list _ :: _ => .ok ⟨.value, p.stack, none⟩
  | .commaOrClose, .comma, .map .. :: _ => .ok ⟨.key, p.stack, none⟩
  | .key, .text s, .map entries _ :: rest => .ok ⟨.colon, .map entries s :: rest, none⟩
  | .keyOrClose, .text s, .map entries _ :: rest => .ok ⟨.colon, .map entries s :: rest, none⟩
  | .colon, .colon, _ => .ok ⟨.value, p.stack, none⟩
  | .value, t, stack => beginValue stack t
  | .valueOrClose, t, stack => beginValue stack t
  | _, _, _ => .error .malformed

/-- The value of a JSON text. -/
def read (s : String) : Except ReadError Value := do
  match (← (tokens s.toList).foldlM Progress.step {}).done with
  | some v => return v
  | none => throw .malformed

end FolderTalk.Json
