import Fiscal.Proofs.Number.Order
import Fiscal.Proofs.Session.Made

set_option autoImplicit false

namespace Fiscal

open Machine

namespace Portfolio

structure Checked (portfolio : Portfolio) : Prop where
  lengths : portfolio.assets.length = portfolio.weights.length
  weights : ∀ weight ∈ portfolio.weights, ¬ weight < 0
  total : ∃ total, Number.exactSum portfolio.weights = .ok total ∧ ¬ (total - 1).abs > tolerance

structure Balanced (portfolio : Portfolio) : Prop where
  lengths : portfolio.assets.length = portfolio.weights.length
  weights : ∀ weight ∈ portfolio.weights, 0 ≤ weight
  total : ∃ total, Number.exactSum portfolio.weights = .ok total ∧ (total - 1).abs ≤ tolerance

theorem negativeWeight?_none (weights : List Float) (none : negativeWeight? weights = none) :
    ∀ weight ∈ weights, ¬ weight < 0 := by
  intro weight member negative
  obtain ⟨index, bound, rfl⟩ := List.mem_iff_getElem.mp member
  have pair : (weights[index], index) ∈ weights.zipIdx :=
    List.mem_zipIdx_iff_getElem?.mpr (List.getElem?_eq_getElem bound)
  have unfit := List.find?_eq_none.mp none _ pair
  exact unfit (decide_eq_true negative)

theorem build_checked (assets weights : List Float) (names : Option (List String)) (built : Portfolio)
    (passed : build assets weights names = .ok built) : built.Checked := by
  unfold build at passed
  split at passed
  · cases passed
  · rename_i lengths
    cases found : negativeWeight? weights with
    | some weight =>
        rw [found] at passed
        cases passed
    | none =>
        rw [found] at passed
        cases summed : Number.exactSum weights with
        | error fault =>
            rw [summed] at passed
            cases passed
        | ok total =>
            rw [summed] at passed
            change (if (total - 1).abs > tolerance then _ else _) = _ at passed
            split at passed
            · cases passed
            · rename_i near
              cases passed
              exact ⟨by simpa using lengths, negativeWeight?_none weights found, total, summed, near⟩

theorem checked_total (portfolio : Portfolio) (checked : portfolio.Checked)
    (numbers : ∀ weight ∈ portfolio.weights, Number.isNaN weight = false) :
    ∃ total, Number.exactSum portfolio.weights = .ok total ∧ (total - 1).abs ≤ tolerance := by
  obtain ⟨total, summed, near⟩ := checked.total
  refine ⟨total, summed, ?_⟩
  have known := Number.exactSum_isNaN _ total numbers checked.weights summed
  refine Number.le_of_not_lt tolerance _ (by decide +kernel) ?_ near
  rw [Number.abs_isNaN]
  exact Number.sub_isNaN total 1 known (by decide +kernel)

theorem balanced_iff (portfolio : Portfolio) (checked : portfolio.Checked) :
    portfolio.Balanced ↔ ∀ weight ∈ portfolio.weights, Number.isNaN weight = false := by
  constructor
  · intro balanced weight member
    exact (Number.number_of_le 0 weight (balanced.weights weight member)).2
  · intro numbers
    refine ⟨checked.lengths, fun weight member => ?_, checked_total portfolio checked numbers⟩
    exact Number.le_of_not_lt weight 0 (numbers weight member) (by decide +kernel)
      (checked.weights weight member)

-- What is known about every portfolio that a program can come by.
def Weighed (portfolio : Portfolio) : Prop :=
  portfolio.Checked ∧
    (portfolio.Balanced ↔ ∀ weight ∈ portfolio.weights, Number.isNaN weight = false)

end Portfolio

-- Wherever a portfolio is held, in a scope, in a result or in a value just computed, it has passed its
-- checks, and it is balanced unless one of its weights is no number.
theorem portfolios_weighed (machine : Machine) (value : Value) (built : Portfolio)
    (yields : Session.Yields machine value) (part : value.Part (.portfolio built)) : built.Weighed := by
  obtain ⟨assets, weights, names, passed⟩ := yields_made machine value yields _ part
  have checked := Portfolio.build_checked assets weights names built passed
  exact ⟨checked, built.balanced_iff checked⟩

theorem Value.shown_portfolio (found : Option Value) (shown : List Bool)
    (same : (found.any fun value => match value with
      | .portfolio built => built.weights.map Number.isNaN == shown
      | _ => false) = true) :
    ∃ built, found = some (.portfolio built) ∧ built.weights.map Number.isNaN = shown := by
  cases found with
  | none => cases same
  | some value =>
      cases value with
      | portfolio built => exact ⟨built, rfl, by simpa using same⟩
      | _ => cases same

-- Infinity less infinity is a weight that passes.
theorem portfolio_of_no_number :
    let machine := start .standard ⟨[]⟩ "2024-02-29"
    let source := "LET p = PORTFOLIO\n    [1]\n    [1e999 - 1e999]\nEND"
    let after := (Session.execute ⟨50, 50⟩ none source machine).2
    ∃ built, after.scopes.local? 0 "p" = some (.portfolio built) ∧
      built.weights.map Number.isNaN = [true] ∧ built.Weighed ∧ ¬ built.Balanced := by
  intro machine source after
  have visited : Session.Visited after := .idle after (.executed _ _ _ machine (.start _ _ _))
  obtain ⟨built, found, shown⟩ := Value.shown_portfolio (after.scopes.local? 0 "p") [true]
    (by decide +kernel)
  have yields : Session.Yields after (.portfolio built) :=
    .bound after 0 _ visited (Scopes.holds_of_local _ _ _ _ found)
  have weighed : built.Weighed := portfolios_weighed after _ built yields (.self _)
  refine ⟨built, found, shown, weighed, fun balanced => ?_⟩
  obtain ⟨weight, rest, same, nan, _⟩ := List.map_eq_cons_iff.mp shown
  have number := weighed.2.mp balanced weight (by rw [same]; exact List.mem_cons_self)
  cases number.symm.trans nan

end Fiscal
