set_option autoImplicit false

namespace Fiscal.Text

/-- A set of characters given by inclusive ranges of code points, in increasing order. -/
abbrev Ranges := List (Nat × Nat)

namespace Ranges

def covers (ranges : Ranges) (code : Nat) : Bool :=
  ranges.any fun range => range.1 ≤ code && code ≤ range.2

def base? (ranges : Ranges) (code : Nat) : Option Nat :=
  (ranges.find? fun range => range.1 ≤ code && code ≤ range.2).map Prod.fst

end Ranges

end Fiscal.Text
