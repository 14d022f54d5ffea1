import FolderTalk.Json.Read
import FolderTalk.Json.Write
import FolderTalk.Terminal.Markup
import FolderTalk.Text.Quoted

/-!
# Faults

What can go wrong outside the rules of the program: the file system refuses, a number is too large
for what is done with it, a stored text is nested too deeply. A fault ends the command that meets
it, and error output names it by its kind and its message.
-/

namespace FolderTalk

/-- Why the file system refuses an operation. -/
inductive DiskError where
  | missing | occupied | notDirectory | isDirectory | nameTooLong
  deriving DecidableEq, Repr

/-- The ways in which a command can end early. -/
inductive Fault where
  | disk (e : DiskError) (path : String)
  | nullInPath
  | undecodable
  | homeUnknown
  | infiniteHeight
  | tooManyDigits (count : Nat)
  | tooManyDigitsToWrite
  | nestedTooDeep (innermost : Json.Container)
  | nestedTooDeepToWrite
  | unsupported (kind : String)
  | unsupportedKey (kind : String)
  | delayTooLong
  | unknownLevel (name : String)
  | invalidScalar (message : String)
  | unknownWord (word : String)
  | noMoment
  | noFirstCharacter
  | unitTooLarge
  | noSuchCode
  | oversizedCode
  | markup (e : MarkupError)
  deriving DecidableEq, Repr

def DiskError.kind : DiskError → String
  | missing => "FileNotFoundError"
  | occupied => "FileExistsError"
  | notDirectory => "NotADirectoryError"
  | isDirectory => "IsADirectoryError"
  | nameTooLong => "OSError"

/-- The number and wording of the refusal. -/
def DiskError.reason : DiskError → String
  | missing => "[Errno 2] No such file or directory"
  | occupied => "[Errno 17] File exists"
  | notDirectory => "[Errno 20] Not a directory"
  | isDirectory => "[Errno 21] Is a directory"
  | nameTooLong => "[Errno 36] File name too long"

namespace Fault

def kind : Fault → String
  | disk e _ => e.kind
  | nullInPath | tooManyDigits _ | tooManyDigitsToWrite | unknownLevel _
  | invalidScalar _ | noSuchCode => "ValueError"
  | undecodable => "UnicodeDecodeError"
  | homeUnknown => "RuntimeError"
  | infiniteHeight | delayTooLong | unitTooLarge | oversizedCode => "OverflowError"
  | unknownWord _ => "KeyError"
  | noMoment => "AttributeError"
  | noFirstCharacter => "IndexError"
  | nestedTooDeep _ | nestedTooDeepToWrite => "RecursionError"
  | unsupported _ | unsupportedKey _ => "TypeError"
  | markup _ => "MarkupError"

def message : Fault → String
  | disk e path => e.reason ++ ": " ++ Text.quoted path
  | nullInPath => "embedded null byte"
  | undecodable => "the file is not UTF-8 text"
  | homeUnknown => "Could not determine home directory."
  | infiniteHeight => "cannot convert float infinity to integer"
  | tooManyDigits count =>
    "Exceeds the limit (4300 digits) for integer string conversion: value has " ++ toString count
      ++ " digits; use sys.set_int_max_str_digits() to increase the limit"
  | tooManyDigitsToWrite =>
    "Exceeds the limit (4300 digits) for integer string conversion; "
      ++ "use sys.set_int_max_str_digits() to increase the limit"
  | nestedTooDeep .list =>
    "maximum recursion depth exceeded while decoding a JSON array from a unicode string"
  | nestedTooDeep .map =>
    "maximum recursion depth exceeded while decoding a JSON object from a unicode string"
  | nestedTooDeepToWrite => "maximum recursion depth exceeded while calling a Python object"
  | unsupported kind => "Object of type " ++ kind ++ " is not JSON serializable"
  | unsupportedKey kind => "keys must be str, int, float, bool or None, not " ++ kind
  | delayTooLong => "integer division result too large for a float"
  | invalidScalar message => message
  | markup e => e.message
  | unknownWord word => Text.quoted word
  | noMoment => "'NoneType' object has no attribute 'groupdict'"
  | noFirstCharacter => "string index out of range"
  | unitTooLarge => "int too large to convert to float"
  | noSuchCode => "chr() arg not in range(0x110000)"
  | oversizedCode => "Python int too large to convert to C int"
  | unknownLevel name => "Unknown level: " ++ Text.quoted name

/-- Whether the fault comes from the file system. -/
def isDisk : Fault → Bool
  | disk .. => true
  | _ => false

def ofWriteError : Json.WriteError → Fault
  | .unsupported kind => unsupported kind
  | .unsupportedKey kind => unsupportedKey kind
  | .tooManyDigits => tooManyDigitsToWrite
  | .tooDeep => nestedTooDeepToWrite

end Fault

end FolderTalk
