import LaunchIndex.Value

/-! Complaints about a settings document: each names the key whose value is refused, or which is
itself refused, and the defect. A complaint without a key is about the document. -/

namespace LaunchIndex

/-- What is wrong with an entry of a settings document. -/
inductive Defect where
  | unknownKey
  | keyNotText
  | notText
  | notUnicode
  | notInteger
  | unreadableInteger
  | oversizedInteger
  | fractional
  | notFinite
  | notReal
  | unreadableReal
  | tooFewAttempts
  | negative
  | capBelowInitial
deriving DecidableEq, Repr

namespace Defect

/-- The word for the sort of a defect. -/
def kind : Defect → Text
  | unknownKey => "extra_forbidden"
  | keyNotText => "invalid_key"
  | notText => "string_type"
  | notUnicode => "string_unicode"
  | notInteger => "int_type"
  | unreadableInteger => "int_parsing"
  | oversizedInteger => "int_parsing_size"
  | fractional => "int_from_float"
  | notFinite => "finite_number"
  | notReal => "float_type"
  | unreadableReal => "float_parsing"
  | tooFewAttempts | negative | capBelowInitial => "value_error"

def message : Defect → Text
  | unknownKey => "Extra inputs are not permitted"
  | keyNotText => "Keys should be strings"
  | notText => "Input should be a valid string"
  | notUnicode => "Input should be a valid string, unable to parse raw data as a unicode string"
  | notInteger => "Input should be a valid integer"
  | unreadableInteger => "Input should be a valid integer, unable to parse string as an integer"
  | oversizedInteger => "Unable to parse input string as an integer, exceeded maximum size"
  | fractional => "Input should be a valid integer, got a number with a fractional part"
  | notFinite => "Input should be a finite number"
  | notReal => "Input should be a valid number"
  | unreadableReal => "Input should be a valid number, unable to parse string as a number"
  | tooFewAttempts => "Value error, retry_max_attempts must be at least 1"
  | negative => "Value error, must not be negative"
  | capBelowInitial =>
    "Value error, retry_max_delay_ms must not be less than retry_initial_delay_ms"

end Defect

/-- A defect and the key where it is. -/
structure Complaint where
  key : Option Value
  defect : Defect

end LaunchIndex
