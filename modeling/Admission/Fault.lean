/-!
# Faults

The reasons for which an operation can stop without an answer.  A fault is a cause; its wording is
in `Fault.message` alone.
-/

set_option autoImplicit false

namespace Admission

/-- Why an operation stopped. -/
inductive Fault where
  /-- A pattern asks for more repetitions than can be counted. -/
  | repetitionTooLarge
  /-- A pattern sets the ASCII and the Unicode flag, which exclude each other. -/
  | incompatibleFlags
  /-- A numeral of this many digits is too long to be read as an integer. -/
  | numeralTooLong (digits : Nat)
  /-- An integer is too large to be written in decimal. -/
  | integerTooLarge
  /-- A value of this kind has no written form in a file. -/
  | notSerializable (kind : String)
  /-- A value of this kind cannot be a key in a file. -/
  | notKey (kind : String)
  /-- A number that is not finite has no written form in an answer. -/
  | notFinite
  /-- Values of these kinds have no order. -/
  | incomparable (left right : String)
  /-- A predicate of the host failed with this text. -/
  | hostFailure (text : String)
  /-- The caller of an administrative operation has too little authority. -/
  | authority (event required granted : String)
  /-- No administrative operation has this name. -/
  | unknownOperation (event : String)
  deriving DecidableEq, Repr

namespace Fault

def message : Fault → String
  | .repetitionTooLarge => "the repetition number is too large"
  | .incompatibleFlags => "ASCII and UNICODE flags are incompatible"
  | .numeralTooLong digits =>
    "Exceeds the limit (4300 digits) for integer string conversion: value has "
      ++ Nat.repr digits
      ++ " digits; use sys.set_int_max_str_digits() to increase the limit"
  | .integerTooLarge =>
    "Exceeds the limit (4300 digits) for integer string conversion; "
      ++ "use sys.set_int_max_str_digits() to increase the limit"
  | .notSerializable kind => "Object of type " ++ kind ++ " is not JSON serializable"
  | .notKey kind => "keys must be str, int, float, bool or None, not " ++ kind
  | .notFinite => "Out of range float values are not JSON compliant"
  | .incomparable left right =>
    "'<' not supported between instances of '" ++ left ++ "' and '" ++ right ++ "'"
  | .hostFailure text => text
  | .authority event required granted =>
    event ++ " requires authority " ++ required ++ ", got " ++ granted
  | .unknownOperation event => event

end Fault

end Admission
