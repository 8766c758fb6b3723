import Fiscal.Machine.Evaluator

set_option autoImplicit false

namespace Fiscal.Machine

open Eval

variable (parts : Evaluator)

def signedAmount (posting : Posting) : Eval Float := do
  let amount ← parts.number ("amount for '" ++ posting.account ++ "'") posting.amount
  return posting.side.sign amount

def description : Option Expr → Eval String
  | none => return "Entry"
  | some expr => parts.text "entry description" expr

def accountLedger (account : String) : Eval Nat := do
  -- A ledger that a scope outside has bound to the account is not seen.
  match ← lookupLocal? account with
  | some (.ledger ledger) => return ledger
  | _ => newLedger

def post (posting : Posting) : Eval Outcome := do
  let amount ← signedAmount parts posting
  let description ← description parts posting.description
  let ledger ← accountLedger posting.account
  Eval.post ledger (Entry.ofAmount (← get).today amount description)
  define posting.account (.ledger ledger)
  return .nothing

def holdingAmounts (name : String) : List Posting → Eval (List Float)
  | [] => return []
  | holding :: rest => do
      let amount ← signedAmount parts holding
      if amount < 0 then
        failAt
          (.brokenInvariant
            ("PORTFOLIO '" ++ name ++ "' holding '" ++ holding.account ++ "' is negative ("
              ++ Number.brief amount ++ ")")) holding.span
      else
        let amounts ← holdingAmounts name rest
        return amount :: amounts

def declarePortfolio (span : Source.Span) (name : String) (holdings : List Posting) :
    Eval Outcome := do
  let amounts ← holdingAmounts parts name holdings
  let total ← liftFault (Number.exactSum amounts)
  if amounts.isEmpty || total == 0 then
    failAt
      (.brokenInvariant
        ("PORTFOLIO '" ++ name ++ "' needs at least one holding with a positive amount")) span
  else
    let weights := amounts.map (· / total)
    let portfolio ← lift (Portfolio.build amounts weights (some (holdings.map Posting.account)))
    define name (.portfolio portfolio)
    return .nothing

end Fiscal.Machine
