/-!
# What can be wrong with data

An issue says where in a value something is wrong and what. Each kind of issue has a code and one
wording.
-/

namespace FolderTalk.Schema

/-- One step on the way into a value. -/
inductive Step where
  | key (name : String)
  | index (n : Int)
  deriving DecidableEq, Repr

/-- The kinds of issue. -/
inductive Problem where
  | missing
  | notText
  | notList
  | notInteger
  | unparsableInteger
  | oversizedInteger
  | fractional
  | notFinite
  | notBoolean
  | unparsableBoolean
  | belowMinimum (least : Int)
  | notOneOf (choices : List String)
  | unknownKey
  | keyNotText
  | notRecord (name : String)
  | noTag (field : String)
  | unknownTag (tag field : String) (choices : List String)
  | notTagged
  deriving DecidableEq, Repr

/-- A problem and its place. -/
structure Issue where
  path : List Step
  problem : Problem
  deriving DecidableEq, Repr

def singleQuoted (s : String) : String := "'" ++ s ++ "'"

/-- The choices in quotes, with "or" before the last. -/
def listed (choices : List String) : String :=
  match choices.reverse with
  | [] => ""
  | [only] => singleQuoted only
  | last :: others =>
    ", ".intercalate (others.reverse.map singleQuoted) ++ " or " ++ singleQuoted last

namespace Problem

def code : Problem → String
  | missing => "missing"
  | notText => "string_type"
  | notList => "list_type"
  | notInteger => "int_type"
  | unparsableInteger => "int_parsing"
  | oversizedInteger => "int_parsing_size"
  | fractional => "int_from_float"
  | notFinite => "finite_number"
  | notBoolean => "bool_type"
  | unparsableBoolean => "bool_parsing"
  | belowMinimum _ => "greater_than_equal"
  | notOneOf _ => "literal_error"
  | unknownKey => "extra_forbidden"
  | keyNotText => "invalid_key"
  | notRecord _ => "model_type"
  | noTag _ => "union_tag_not_found"
  | unknownTag .. => "union_tag_invalid"
  | notTagged => "model_attributes_type"

def message : Problem → String
  | missing => "Field required"
  | notText => "Input should be a valid string"
  | notList => "Input should be a valid list"
  | notInteger => "Input should be a valid integer"
  | unparsableInteger => "Input should be a valid integer, unable to parse string as an integer"
  | oversizedInteger => "Unable to parse input string as an integer, exceeded maximum size"
  | fractional => "Input should be a valid integer, got a number with a fractional part"
  | notFinite => "Input should be a finite number"
  | notBoolean => "Input should be a valid boolean"
  | unparsableBoolean => "Input should be a valid boolean, unable to interpret input"
  | belowMinimum least => "Input should be greater than or equal to " ++ toString least
  | notOneOf choices => "Input should be " ++ listed choices
  | unknownKey => "Extra inputs are not permitted"
  | keyNotText => "Keys should be strings"
  | notRecord name => "Input should be a valid dictionary or instance of " ++ name
  | noTag field => "Unable to extract tag using discriminator " ++ singleQuoted field
  | unknownTag tag field choices =>
    "Input tag " ++ singleQuoted tag ++ " found using " ++ singleQuoted field
      ++ " does not match any of the expected tags: "
      ++ ", ".intercalate (choices.map singleQuoted)
  | notTagged => "Input should be a valid dictionary or object to extract fields from"

end Problem

end FolderTalk.Schema
