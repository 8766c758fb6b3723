import Fiscal.Text.Ranges

set_option autoImplicit false

namespace Fiscal.Text

def blankRanges : Ranges := [
  (0x9, 0xD), (0x1C, 0x20), (0x85, 0x85), (0xA0, 0xA0), (0x1680, 0x1680), (0x2000, 0x200A),
  (0x2028, 0x2029), (0x202F, 0x202F), (0x205F, 0x205F), (0x3000, 0x3000)]

def isBlank (c : Char) : Bool :=
  blankRanges.covers c.toNat

def dropBlanks (chars : List Char) : List Char :=
  chars.dropWhile isBlank

def strip (text : String) : String :=
  String.ofList (dropBlanks (dropBlanks text.toList).reverse).reverse

end Fiscal.Text
