import Fiscal.Finance.Schedule
import Fiscal.Proofs.Finance.Exact
import Mathlib.Tactic.FieldSimp
import Mathlib.Tactic.NormNum
import Mathlib.Tactic.Ring

set_option autoImplicit false

namespace Fiscal.Finance

open Scalar

section Rows

variable (principal rate : ℚ) (periods : ℕ)

def levelAmount : ℚ := principal * rate * (1 + rate) ^ periods / ((1 + rate) ^ periods - 1)

-- What is left of a principal with some of the periods paid.
def outstanding (paid : ℕ) : ℚ :=
  principal * ((1 + rate) ^ periods - (1 + rate) ^ paid) / ((1 + rate) ^ periods - 1)

variable {principal rate periods}

theorem levelPayment_rat (base : 1 + rate ≠ 0) (moves : (1 + rate) ^ periods ≠ 1) :
    levelPayment principal rate periods = .ok (levelAmount principal rate periods) := by
  have grown : (1 + rate) ^ periods ≠ 0 := pow_ne_zero periods base
  have moved : (1 + rate) ^ periods - 1 ≠ 0 := sub_ne_zero.mpr moves
  have inverse : (1 + rate) ^ (-(periods : ℤ)) = ((1 + rate) ^ periods)⁻¹ := by
    rw [zpow_neg, zpow_natCast]
  have shrunk : 1 - ((1 + rate) ^ periods)⁻¹ ≠ 0 := by
    rw [sub_ne_zero]
    exact fun same => moves (inv_eq_one.mp same.symm)
  have power : checkedPower (1 + rate) (ofInt (-(periods : ℤ)) : ℚ) =
      .ok ((1 + rate) ^ periods)⁻¹ := by
    rw [ofInt_rat, checkedPower_whole _ _ base, inverse]
  have amount : principal * rate / (1 - ((1 + rate) ^ periods)⁻¹) = levelAmount principal rate periods := by
    unfold levelAmount
    field_simp
  rw [levelPayment, one_rat, power]
  change divide (principal * rate) (1 - ((1 + rate) ^ periods)⁻¹) = _
  rw [divide_rat _ _ shrunk, amount]

theorem outstanding_start (moves : (1 + rate) ^ periods ≠ 1) : outstanding principal rate periods 0 = principal := by
  have moved : (1 + rate) ^ periods - 1 ≠ 0 := sub_ne_zero.mpr moves
  rw [outstanding, pow_zero, mul_div_assoc, div_self moved, mul_one]

theorem outstanding_end : outstanding principal rate periods periods = 0 := by
  rw [outstanding, sub_self, mul_zero, zero_div]

theorem outstanding_step (moves : (1 + rate) ^ periods ≠ 1) (paid : ℕ) :
    outstanding principal rate periods paid -
        (levelAmount principal rate periods - outstanding principal rate periods paid * rate) =
      outstanding principal rate periods (paid + 1) := by
  have moved : (1 + rate) ^ periods - 1 ≠ 0 := sub_ne_zero.mpr moves
  unfold outstanding levelAmount
  rw [pow_succ]
  field_simp
  ring

theorem installments_length (payment rate balance : ℚ) (count : ℕ) :
    (installments payment rate count balance).length = count := by
  induction count generalizing balance with
  | zero => rfl
  | succ count ih => exact congrArg (· + 1) (ih _)

theorem installments_level (payment rate balance : ℚ) (count : ℕ) :
    ∀ row ∈ installments payment rate count balance,
      row.payment = payment ∧ row.payment = row.interest + row.principal := by
  induction count generalizing balance with
  | zero => exact List.forall_mem_nil _
  | succ count ih =>
      refine List.forall_mem_cons.mpr ⟨⟨rfl, ?_⟩, ih _⟩
      exact (add_sub_cancel (balance * rate) payment).symm

-- The rows from some period on bear the interest of what is outstanding and carry what is left of it.
theorem installments_outstanding (moves : (1 + rate) ^ periods ≠ 1) (count paid k : ℕ)
    (row : Installment ℚ)
    (found : (installments (levelAmount principal rate periods) rate count
      (outstanding principal rate periods paid))[k]? = some row) :
    row.interest = outstanding principal rate periods (paid + k) * rate ∧
      row.balance = outstanding principal rate periods (paid + k + 1) := by
  induction count generalizing paid k with
  | zero => cases found
  | succ count ih =>
      rw [installments] at found
      rw [outstanding_step moves] at found
      cases k with
      | zero =>
          cases found
          exact ⟨rfl, rfl⟩
      | succ k =>
          rw [List.getElem?_cons_succ] at found
          have same : paid + 1 + k = paid + (k + 1) := by omega
          exact same ▸ ih (paid + 1) k found

theorem installments_principal (moves : (1 + rate) ^ periods ≠ 1) (count paid : ℕ) :
    ((installments (levelAmount principal rate periods) rate count
        (outstanding principal rate periods paid)).map (·.principal)).sum =
      outstanding principal rate periods paid - outstanding principal rate periods (paid + count) := by
  induction count generalizing paid with
  | zero => exact (sub_self _).symm
  | succ count ih =>
      have step := @outstanding_step principal rate periods moves paid
      rw [installments, step, List.map_cons, List.sum_cons, ih (paid + 1)]
      have same : paid + 1 + count = paid + (count + 1) := by omega
      rw [same, ← step]
      ring

end Rows

-- Level payments repay the principal exactly: what is outstanding after each row is known in closed form, and
-- after the last row it is nothing.
theorem amortize_closes (principal rate : ℚ) (periods : ℕ) (positive : 1 ≤ periods) (base : 1 + rate ≠ 0)
    (moves : (1 + rate) ^ periods ≠ 1) :
    ∃ rows payment, amortize principal rate periods = .ok rows ∧ rows.length = periods ∧
      (∀ row ∈ rows, row.payment = payment ∧ row.payment = row.interest + row.principal) ∧
      (∀ k row, rows[k]? = some row → row.interest = outstanding principal rate periods k * rate ∧
        row.balance = outstanding principal rate periods (k + 1)) ∧
      rows.getLast?.map (·.balance) = some 0 ∧ (rows.map (·.principal)).sum = principal := by
  have start := @outstanding_start principal rate periods moves
  have many : ¬ (periods : ℤ) < 1 := by omega
  let rows := installments (levelAmount principal rate periods) rate periods principal
  have length : rows.length = periods := installments_length _ _ _ _
  have balances (k : ℕ) (row : Installment ℚ) (found : rows[k]? = some row) :
      row.interest = outstanding principal rate periods k * rate ∧
        row.balance = outstanding principal rate periods (k + 1) := by
    have all := @installments_outstanding principal rate periods moves periods 0 k row
    rw [start, Nat.zero_add] at all
    exact all found
  refine ⟨rows, levelAmount principal rate periods, ?_, length, installments_level _ _ _ _,
    balances, ?_, ?_⟩
  · rw [amortize, if_neg many, Int.toNat_natCast, levelPayment_rat base moves]
    rfl
  · have nonempty : rows ≠ [] := List.ne_nil_of_length_pos (by omega)
    obtain ⟨last, found⟩ := Option.isSome_iff_exists.mp (List.getLast?_isSome.mpr nonempty)
    have place : rows[periods - 1]? = some last := by
      rw [← found, List.getLast?_eq_getElem?, length]
    have final := (balances (periods - 1) last place).2
    rw [Nat.sub_add_cancel positive, outstanding_end] at final
    rw [found, Option.map_some, final]
  · have sum := @installments_principal principal rate periods moves periods 0
    rw [start, Nat.zero_add, outstanding_end, sub_zero] at sum
    exact sum

theorem shrinking_loan_closes :
    (1 ≤ 3 ∧ 1 + (-1 / 2 : ℚ) ≠ 0 ∧ (1 + (-1 / 2 : ℚ)) ^ 3 ≠ 1) ∧
      ∃ rows, amortize (7 : ℚ) (-1 / 2) 3 = .ok rows ∧ rows.map (·.balance) = [3, 1, 0] ∧
        (rows.map (·.principal)).sum = 7 := by
  have base : 1 + (-1 / 2 : ℚ) ≠ 0 := by norm_num
  have moves : (1 + (-1 / 2 : ℚ)) ^ 3 ≠ 1 := by norm_num
  refine ⟨⟨by decide, base, moves⟩, ?_⟩
  obtain ⟨rows, payment, made, length, _, balances, _, repaid⟩ :=
    amortize_closes 7 (-1 / 2) 3 (by decide) base moves
  refine ⟨rows, made, ?_, repaid⟩
  match rows, length with
  | [first, second, third], _ =>
      have one := (balances 0 first rfl).2
      have two := (balances 1 second rfl).2
      have three := (balances 2 third rfl).2
      norm_num [outstanding] at one two three
      simp [one, two, three]

end Fiscal.Finance
