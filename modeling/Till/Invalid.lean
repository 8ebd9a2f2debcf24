/-!
# Invalid fields

`Invalid` lists what can be wrong with a field of a request, and `Invalid.message` words it.
-/

namespace Till

/-- What is wrong with a field. -/
inductive Invalid where
  /-- The field is missing or blank. -/
  | required (field : String)
  /-- The text takes more than `most` bytes. -/
  | tooLong (field : String) (most : Nat)
  /-- The number lies outside its bounds. -/
  | outOfRange (field : String) (low high : Int)
  /-- The number is not positive. -/
  | notPositive (field : String)
  /-- The text does not have the required form. -/
  | malformed (field : String) (reason : String)
  /-- The value occurs twice. -/
  | duplicate (field : String) (value : String)
  deriving DecidableEq, Repr

namespace Invalid

/-- The message that tells the caller what is wrong. -/
def message : Invalid → String
  | required field => field ++ " is required"
  | tooLong field most => field ++ " must be at most " ++ toString most ++ " characters"
  | outOfRange field low high =>
    field ++ " must be between " ++ toString low ++ " and " ++ toString high
  | notPositive field => field ++ " must be positive"
  | malformed field reason => field ++ " has invalid format: " ++ reason
  | duplicate field value => field ++ " '" ++ value ++ "' appears more than once"

end Invalid

end Till
