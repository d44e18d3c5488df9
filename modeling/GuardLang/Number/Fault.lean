import GuardLang.Text.Quoted

/-!
# Texts that are no numbers

Why a text cannot be read as a number of some type.
-/

namespace GuardLang

/-- Why a text is refused as a number. -/
inductive NumberFault where
  | notInteger (text : Text)
  | tooManyDigits (count : Nat)
  | belowMinimum (value : Int)
  | aboveMaximum (value : Int)
  | notDecimal (text : Text)
  | overflow (text : Text)
  deriving DecidableEq, Repr

namespace NumberFault

/-- The greatest number of digits of an integer that is read. -/
def maxDigits : Nat := 4300

/-- The number of characters to which a message cuts a text that is no
integer. -/
def shownLength : Nat := 200

/-- The wording, for a number of the type with the given name. -/
def message (type : String) : NumberFault → String
  | notInteger text =>
    "invalid literal for int() with base 10: " ++ String.ofList (text.quoted.take shownLength)
  | tooManyDigits count =>
    "Exceeds the limit (" ++ toString maxDigits ++
      " digits) for integer string conversion: value has " ++ toString count ++
      " digits; use sys.set_int_max_str_digits() to increase the limit"
  | belowMinimum value => toString value ++ " is below the minimum of " ++ type
  | aboveMaximum value => toString value ++ " is above the maximum of " ++ type
  | notDecimal text => "could not convert string to float: " ++ String.ofList text.quoted
  | overflow text => String.ofList text ++ " overflows " ++ type

end NumberFault

end GuardLang
