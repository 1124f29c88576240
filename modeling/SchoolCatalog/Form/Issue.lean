/-!
# Issues of a form

What may be wrong with a field of a form, where it stands, and how it is reported: a short kind and
a sentence.
-/

namespace SchoolCatalog.Form

/-- What is wrong with a value. -/
inductive Fault where
  | missing
  | notText
  | brokenText
  | tooShort (least : Nat)
  | tooLong (most : Nat)
  | mismatch (pattern : String)
  | blank
  | notAChoice (choices : List String)
  | notWhole
  | unreadableWhole
  | wholeTooLong
  | fractional
  | notFinite
  | notNumber
  | unreadableNumber
  | notFlag
  | unreadableFlag
  | below (least : Int)
  | above (most : Int)
  | notForm (name : String)
  | notFields
  | notFile
  deriving DecidableEq

/-- A fault and the names that lead to the field, the outermost first. -/
structure Issue where
  location : List String
  fault : Fault
  deriving DecidableEq

/-- `'a', 'b' or 'c'`. -/
def choiceText : List String → String
  | [] => ""
  | [c] => "'" ++ c ++ "'"
  | [c, d] => "'" ++ c ++ "' or '" ++ d ++ "'"
  | c :: cs => "'" ++ c ++ "', " ++ choiceText cs

namespace Fault

def kind : Fault → String
  | missing => "missing"
  | notText => "string_type"
  | brokenText => "string_unicode"
  | tooShort _ => "string_too_short"
  | tooLong _ => "string_too_long"
  | mismatch _ => "string_pattern_mismatch"
  | blank => "value_error"
  | notAChoice _ => "literal_error"
  | notWhole => "int_type"
  | unreadableWhole => "int_parsing"
  | wholeTooLong => "int_parsing_size"
  | fractional => "int_from_float"
  | notFinite => "finite_number"
  | notNumber => "float_type"
  | unreadableNumber => "float_parsing"
  | notFlag => "bool_type"
  | unreadableFlag => "bool_parsing"
  | below _ => "greater_than_equal"
  | above _ => "less_than_equal"
  | notForm _ => "model_type"
  | notFields => "model_attributes_type"
  | notFile => "value_error"

def count (n : Nat) : String := toString n ++ (if n = 1 then " character" else " characters")

def message : Fault → String
  | missing => "Field required"
  | notText => "Input should be a valid string"
  | brokenText => "Input should be a valid string, unable to parse raw data as a unicode string"
  | tooShort n => "String should have at least " ++ count n
  | tooLong n => "String should have at most " ++ count n
  | mismatch pattern => "String should match pattern '" ++ pattern ++ "'"
  | blank => "Value error, Field must not be blank"
  | notAChoice choices => "Input should be " ++ choiceText choices
  | notWhole => "Input should be a valid integer"
  | unreadableWhole => "Input should be a valid integer, unable to parse string as an integer"
  | wholeTooLong => "Unable to parse input string as an integer, exceeded maximum size"
  | fractional => "Input should be a valid integer, got a number with a fractional part"
  | notFinite => "Input should be a finite number"
  | notNumber => "Input should be a valid number"
  | unreadableNumber => "Input should be a valid number, unable to parse string as a number"
  | notFlag => "Input should be a valid boolean"
  | unreadableFlag => "Input should be a valid boolean, unable to interpret input"
  | below n => "Input should be greater than or equal to " ++ toString n
  | above n => "Input should be less than or equal to " ++ toString n
  | notForm name => "Input should be a valid dictionary or instance of " ++ name
  | notFields => "Input should be a valid dictionary or object to extract fields from"
  | notFile => "Value error, Expected UploadFile, received: <class 'str'>"

end Fault
end SchoolCatalog.Form
