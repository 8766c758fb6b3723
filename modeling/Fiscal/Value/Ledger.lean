import Fiscal.Failure
import Fiscal.Number.Sum
import Fiscal.Program.Expr

set_option autoImplicit false

namespace Fiscal

-- An entry of a ledger; a posted amount other than zero stands on one side.
structure Entry where
  date : String
  debit : Option Float
  credit : Option Float
  description : String

namespace Entry

def ofAmount (date : String) (amount : Float) (description : String) : Entry where
  date := date
  debit := if amount > 0 then some amount else none
  credit := if amount < 0 then some (-amount) else none
  description := description

def sideAmount : Option Float → Float
  | some amount => if amount == 0 then 0 else amount
  | none => 0

def amount (entry : Entry) : Float := sideAmount entry.debit - sideAmount entry.credit

def text (entry : Entry) : String :=
  let side :=
    match entry.debit with
    | some debit => "debit " ++ Number.display debit
    | none => "credit " ++ Number.display (entry.credit.getD 0)
  entry.date ++ " " ++ side ++ ": " ++ entry.description

def sameSide (a b : Option Float) : Bool :=
  match a, b with
  | none, none => true
  | some x, some y => x == y
  | _, _ => false

def same (a b : Entry) : Bool :=
  a.date == b.date && sameSide a.debit b.debit && sameSide a.credit b.credit
    && a.description == b.description

end Entry

abbrev Ledger := List Entry

namespace Ledger

def balance (ledger : Ledger) : Except Failure Float :=
  Fault.lift (Number.exactSum (ledger.map Entry.amount))

end Ledger

abbrev Ledgers := Array Ledger

namespace Ledgers

def entries (ledgers : Ledgers) (ledger : Nat) : Ledger := ledgers.getD ledger []

def post (ledgers : Ledgers) (ledger : Nat) (entry : Entry) : Ledgers :=
  ledgers.modify ledger fun entries => entries ++ [entry]

end Ledgers

end Fiscal
