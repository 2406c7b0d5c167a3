import Showcase.Json.Basic

/-!
# Issues of a record

A record is read from a JSON value field by field. What is wrong with a field is an issue: a fault and the path to the
value that has it. A record that cannot be read is answered with all its issues, in the order of its fields.
-/

namespace Showcase

/-- A step on the path to a value: the name of a member or the place of an item. -/
inductive Step where
  | member (name : JsonString)
  | item (index : Nat)
deriving DecidableEq, Repr

/-- What can be wrong with the value of a field. -/
inductive Fault where
  | missing
  | notText
  | notUnicode
  | emptyText
  | notAmong (choices : List String)
  | notWhole
  | unreadableWhole
  | overlongWhole
  | fraction
  | notFinite
  | notNumber
  | unreadableNumber
  | notTruth
  | unreadableTruth
  | notTable
  | notList
  | emptyList
  | notRecord
  | unexpected
deriving DecidableEq, Repr

/-- The short name of a fault. -/
def Fault.name : Fault → String
  | missing => "missing"
  | notText => "string_type"
  | notUnicode => "string_unicode"
  | emptyText => "string_too_short"
  | notAmong _ => "literal_error"
  | notWhole => "int_type"
  | unreadableWhole => "int_parsing"
  | overlongWhole => "int_parsing_size"
  | fraction => "int_from_float"
  | notFinite => "finite_number"
  | notNumber => "float_type"
  | unreadableNumber => "float_parsing"
  | notTruth => "bool_type"
  | unreadableTruth => "bool_parsing"
  | notTable => "dict_type"
  | notList => "list_type"
  | emptyList => "too_short"
  | notRecord => "model_attributes_type"
  | unexpected => "extra_forbidden"

/-- Choices as a phrase: commas between them and "or" before the last. -/
def choicePhrase : List String → String
  | [] => ""
  | [only] => "'" ++ only ++ "'"
  | [first, last] => "'" ++ first ++ "' or '" ++ last ++ "'"
  | first :: others => "'" ++ first ++ "', " ++ choicePhrase others

/-- A fault told to the sender of the value. -/
def Fault.message : Fault → String
  | missing => "Field required"
  | notText => "Input should be a valid string"
  | notUnicode => "Input should be a valid string, unable to parse raw data as a unicode string"
  | emptyText => "String should have at least 1 character"
  | notAmong choices => "Input should be " ++ choicePhrase choices
  | notWhole => "Input should be a valid integer"
  | unreadableWhole => "Input should be a valid integer, unable to parse string as an integer"
  | overlongWhole => "Unable to parse input string as an integer, exceeded maximum size"
  | fraction => "Input should be a valid integer, got a number with a fractional part"
  | notFinite => "Input should be a finite number"
  | notNumber => "Input should be a valid number"
  | unreadableNumber => "Input should be a valid number, unable to parse string as a number"
  | notTruth => "Input should be a valid boolean"
  | unreadableTruth => "Input should be a valid boolean, unable to interpret input"
  | notTable => "Input should be a valid dictionary"
  | notList => "Input should be a valid list"
  | emptyList => "List should have at least 1 item after validation, not 0"
  | notRecord => "Input should be a valid dictionary or object to extract fields from"
  | unexpected => "Extra inputs are not permitted"

/-- A fault and the path to the value that has it. -/
structure Issue where
  path : List Step
  fault : Fault
deriving DecidableEq, Repr

/-- The issue seen from one step further out. -/
def Issue.under (step : Step) (issue : Issue) : Issue := { issue with path := step :: issue.path }

end Showcase
