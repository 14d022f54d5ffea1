import FolderTalk.Text.GlyphRanges
import FolderTalk.Text.Word

/-!
# Quoted text

How a text is shown inside a message: between single quotes, or between double quotes when it
holds single quotes only, with a backslash form for quotes, line ends, tabs and every character
that has no visible form.
-/

namespace FolderTalk.Text

/-- Whether a character has a visible form; the space has one and no other separator. -/
def isVisible (c : Char) : Bool :=
  if c.toNat < 128 then 32 ≤ c.toNat && c.toNat < 127 else !inRanges invisibleRanges c.toNat

/-- At least `width` hexadecimal digits in small letters. -/
def hexDigits (width n : Nat) : List Char :=
  let digits := Nat.toDigits 16 n
  List.replicate (width - digits.length) '0' ++ digits

/-- A character without a visible form, by its code. -/
def hexEscape (c : Char) : List Char :=
  if c.toNat < 0x100 then '\\' :: 'x' :: hexDigits 2 c.toNat
  else if c.toNat < 0x10000 then '\\' :: 'u' :: hexDigits 4 c.toNat
  else '\\' :: 'U' :: hexDigits 8 c.toNat

def quotedChar (quote c : Char) : List Char :=
  if c == quote || c == '\\' then ['\\', c]
  else if c == '\n' then ['\\', 'n']
  else if c == '\r' then ['\\', 'r']
  else if c == '\t' then ['\\', 't']
  else if isVisible c then [c]
  else hexEscape c

/-- The text between quotes. -/
def quoted (s : String) : String :=
  let cs := s.toList
  let quote := if cs.contains '\'' && !cs.contains '"' then '"' else '\''
  String.ofList (quote :: (cs.flatMap (quotedChar quote) ++ [quote]))

end FolderTalk.Text
