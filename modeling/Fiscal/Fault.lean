import Fiscal.Number.Text
import Fiscal.Text.Quoted

set_option autoImplicit false

namespace Fiscal

inductive Fault where
  | divisionByZero
  | zeroToNegativePower
  | zeroDiscount
  | powerOverflow
  | rangeOverflow
  | sumOverflow
  | opposedInfinities
  | complexGrowth (rate periods : Float)
  | tooFew (requirement : String)
  | unreadableNumber (text : String)
  | missingFile (path : String)
  | directory (path : String)
  | notDirectory (path : String)
  | missingDirectory (path : String)
  | malformedPath
  | malformedTable (reason : String)
  | listTooLong
  | outOfMemory
  | infiniteWhole
  | wholeTooLarge
  | noName (kind : String)
  | unorderedKeys (first second : String)
  | keyNotText (kind : String)
  | stackOverflow

namespace Fault

def message : Fault → String
  | divisionByZero => "float division by zero"
  | zeroToNegativePower => "0.0 cannot be raised to a negative power"
  | zeroDiscount => "rate of -1 discounts by zero"
  | powerOverflow => "(34, 'Numerical result out of range')"
  | rangeOverflow => "math range error"
  | sumOverflow => "intermediate overflow in fsum"
  | opposedInfinities => "-inf + inf in fsum"
  | complexGrowth rate periods =>
      "rate " ++ Number.exact rate ++ " compounds to a complex value over "
        ++ Number.exact periods ++ " periods"
  | tooFew requirement => requirement
  | unreadableNumber text => "could not convert string to float: " ++ Text.quoted text
  | missingFile path => "[Errno 2] No such file or directory: " ++ Text.quoted path
  | directory path => "[Errno 21] Is a directory: " ++ Text.quoted path
  | notDirectory path => "[Errno 20] Not a directory: " ++ Text.quoted path
  | missingDirectory path =>
      "Cannot save file into a non-existent directory: '" ++ path ++ "'"
  | malformedPath => "embedded null byte"
  | malformedTable reason => reason
  | listTooLong => "Python int too large to convert to C ssize_t"
  | outOfMemory => ""
  | infiniteWhole => "cannot convert float infinity to integer"
  | wholeTooLarge => "int too large to convert to float"
  | noName kind => "unhashable type: '" ++ kind ++ "'"
  | unorderedKeys first second =>
      "'<' not supported between instances of '" ++ first ++ "' and '" ++ second ++ "'"
  | keyNotText kind => "sequence item 0: expected str instance, " ++ kind ++ " found"
  | stackOverflow => "maximum recursion depth exceeded"

def isDivision : Fault → Bool
  | divisionByZero | zeroToNegativePower | zeroDiscount => true
  | _ => false

end Fault

end Fiscal
