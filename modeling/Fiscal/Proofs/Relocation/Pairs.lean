import Fiscal.Proofs.Relocation.Scopes
import Fiscal.Proofs.Translation.Basic

set_option autoImplicit false

namespace Fiscal.Relocation

open Machine

variable (move : Relocation)

structure LedgersPair (ledgers others : Ledgers) : Prop where
  found : ∀ account, others[move.ledgers.place account]? = ledgers[account]?
  size : others.size = ledgers.size + move.ledgers.gap
  grown : move.first.ledgers.size ≤ ledgers.size
  left : ∀ account, move.first.ledgers.size ≤ account → account < move.second.ledgers.size →
    others[account]? = move.second.ledgers[account]?

structure Pairs (machine twin : Machine) : Prop where
  scopes : move.ScopesPair machine.scopes twin.scopes
  current : twin.current = move.scopes.place machine.current
  ledgers : move.LedgersPair machine.ledgers twin.ledgers
  counted : move.first.functions ≤ machine.functions
  functions : twin.functions = machine.functions + move.functions.gap
  output : ∃ lines, machine.output = lines ++ move.first.output ∧ twin.output = lines ++ move.second.output
  files : twin.files = machine.files
  settings : twin.settings = machine.settings
  today : twin.today = machine.today

theorem ledgers_apart {account : Nat} (new : move.first.ledgers.size ≤ account)
    (known : account < move.second.ledgers.size) (other : Nat) : move.ledgers.place other ≠ account :=
  Shift.apart new known other

namespace LedgersPair

variable {move} {ledgers others : Ledgers} (pair : move.LedgersPair ledgers others)

include pair

theorem entries (account : Nat) : others.entries (move.ledgers.place account) = ledgers.entries account := by
  rw [Ledgers.entries, Ledgers.entries, Array.getD_eq_getD_getElem?, Array.getD_eq_getD_getElem?, pair.found]

theorem fresh : move.ledgers.place ledgers.size = others.size := by
  rw [pair.size]
  exact move.ledgers.place_new pair.grown

theorem push : move.LedgersPair (ledgers.push []) (others.push []) := by
  have size := pair.size
  have grown := pair.grown
  refine ⟨fun account => ?_, ?_, ?_, fun account new known => ?_⟩
  · rw [Array.getElem?_push, Array.getElem?_push, pair.found, ← pair.fresh]
    by_cases same : account = ledgers.size
    · rw [if_pos same, if_pos (congrArg _ same)]
    · rw [if_neg same, if_neg fun placed => same (move.ledgers.place_inj.mp placed)]
  · rw [Array.size_push, Array.size_push]
    omega
  · rw [Array.size_push]
    omega
  · rw [Array.getElem?_push, ← pair.fresh, if_neg (Ne.symm (move.ledgers_apart new known _))]
    exact pair.left account new known

theorem post (ledger : Nat) (entry : Entry) :
    move.LedgersPair (ledgers.post ledger entry) (others.post (move.ledgers.place ledger) entry) := by
  refine ⟨fun account => ?_, ?_, ?_, fun account new known => ?_⟩
  · rw [Ledgers.post, Ledgers.post, Array.getElem?_modify, Array.getElem?_modify, pair.found]
    by_cases same : ledger = account
    · rw [if_pos same, if_pos (congrArg _ same)]
    · rw [if_neg same, if_neg fun placed => same (move.ledgers.place_inj.mp placed)]
  · rw [Ledgers.post, Ledgers.post, Array.size_modify, Array.size_modify]
    exact pair.size
  · rw [Ledgers.post, Array.size_modify]
    exact pair.grown
  · rw [Ledgers.post, Array.getElem?_modify, if_neg (move.ledgers_apart new known _)]
    exact pair.left account new known

end LedgersPair

namespace Pairs

variable {move} {machine twin : Machine} (pairs : move.Pairs machine twin)

include pairs

theorem entering (outer : Nat) : move.Pairs (machine.entering outer) (twin.entering (move.scopes.place outer)) :=
  { pairs with
    scopes := pairs.scopes.enter outer
    current := pairs.scopes.size.trans (move.scopes.place_new pairs.scopes.grown).symm }

theorem returning {inner other : Machine} (left : move.Pairs inner other) :
    move.Pairs (inner.returning machine.current) (other.returning twin.current) :=
  { left with current := pairs.current }

theorem writing (line : String) :
    move.Pairs { machine with output := line :: machine.output } { twin with output := line :: twin.output } := by
  obtain ⟨lines, first, second⟩ := pairs.output
  exact { pairs with output := ⟨line :: lines, congrArg _ first, congrArg _ second⟩ }

theorem counterpart : twin.functions = move.functions.place machine.functions := by
  rw [pairs.functions]
  exact (move.functions.place_new pairs.counted).symm

theorem counting :
    move.Pairs { machine with functions := machine.functions + 1 } { twin with functions := twin.functions + 1 } := by
  refine { pairs with counted := Nat.le_succ_of_le pairs.counted, functions := ?_ }
  rw [pairs.functions]
  exact Nat.add_right_comm _ _ _

end Pairs

def translation (move : Relocation) : Translation where
  law := move.law
  scopes := move.scopes.place
  ledgers := move.ledgers.place
  functions := move.functions.place
  body := id
  value := move.value
  Pairs := move.Pairs
  fails _ := trivial
  code _ := trivial
  loose := trivial
  omits := False
  simple := move.value_simple
  table _ := rfl
  portfolio _ := rfl
  list := move.value_list
  object fields := congrArg Value.object (move.named_eq fields)
  ledger _ := rfl
  function _ := rfl
  lambda _ := rfl
  block _ := rfl
  apart _ _ := move.functions.place_inj.mp
  spans _ := rfl
  rewritten whole := .same _ whole.statements
  bodies _ _ _ _ _ := rfl
  current _ _ pairs := pairs.current
  entries _ _ pairs := pairs.ledgers.entries
  given _ _ pairs := ⟨pairs.files, pairs.settings, pairs.today⟩
  found machine twin scope sound pairs around := by
    have made : move.scope = fun found => ⟨found.bindings.map fun binding => (binding.1, move.value binding.2),
        found.parent.map move.scopes.place⟩ :=
      funext fun found => congrArg (Scope.mk · _) (move.named_eq found.bindings)
    rw [← made]
    exact pairs.scopes.found scope (sees_outward sound sound.current.2 around)
  chain _ _ _ sound pairs around := pairs.scopes.chain_place sound (sees_outward sound sound.current.2 around)
  bound _ _ _ name held sound pairs around _ :=
    { pairs with scopes := pairs.scopes.define (sees_outward sound sound.current.2 around) name held }
  entered _ _ outer _ pairs _ := pairs.entering outer
  returned _ _ _ _ pairs left := pairs.returning left
  written _ _ line pairs := pairs.writing line
  counted _ _ pairs := ⟨pairs.counterpart, pairs.counting⟩
  opened _ _ pairs := ⟨pairs.ledgers.fresh.symm, { pairs with ledgers := pairs.ledgers.push }⟩
  posted _ _ account entry pairs := { pairs with ledgers := pairs.ledgers.post account entry }
  stored _ _ _ pairs := { pairs with files := rfl }

@[simp] theorem translation_body (body : Block) : move.translation.body body = body := rfl

end Fiscal.Relocation
