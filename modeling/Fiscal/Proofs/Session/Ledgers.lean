import Fiscal.Proofs.Machine.Breaks
import Fiscal.Proofs.Number.Sign
import Fiscal.Proofs.Session.Posting
import Fiscal.Value.Ledger

set_option autoImplicit false

namespace Fiscal.Entry

open Number

structure Balanced (entry : Entry) (amount : Float) : Prop where
  single : entry.debit = none ∨ entry.credit = none
  debit (side : Float) : entry.debit = some side → 0 < side
  credit (side : Float) : entry.credit = some side → 0 < side
  difference : (entry.debit.getD 0 - entry.credit.getD 0 == amount) = true
  amount : (entry.amount == amount) = true

variable {date words : String} {amount : Float}

theorem sideAmount_some (nonzero : (amount == 0) = false) : sideAmount (some amount) = amount := by
  rw [sideAmount, nonzero]
  rfl

theorem balanced_zero (own : Float.Model.UnpackedFloat.Sign) (zero : unpacked amount = .zero own) :
    (ofAmount date amount words).Balanced amount := by
  have number : isNaN amount = false := by
    change (unpacked amount).isNaN = false
    rw [zero]
    rfl
  have noDebit : ¬ amount > 0 := fun above => by
    have beyond := (positive_iff number).mp above
    rw [zero] at beyond
    exact beyond
  have noCredit : ¬ amount < 0 := fun below => by
    have beyond := (negative_iff number).mp below
    rw [zero] at beyond
    exact beyond
  have nothing : ((0 : Float) - 0 == amount) = true := by
    rw [equal_iff, zero]
    rfl
  have entered : ofAmount date amount words = ⟨date, none, none, words⟩ := by
    rw [ofAmount, if_neg noDebit, if_neg noCredit]
  rw [entered]
  exact ⟨.inl rfl, fun _ given => (by cases given), fun _ given => (by cases given), nothing, nothing⟩

theorem balanced_debit (beyond : Beyond .positive (unpacked amount)) :
    (ofAmount date amount words).Balanced amount := by
  have number : isNaN amount = false := beyond_number beyond
  have above : amount > 0 := (positive_iff number).mpr beyond
  have noCredit : ¬ amount < 0 := fun below => by
    have meets := (lt_iff amount 0).mp below
    rw [unpacked_zero, (above_zero beyond _).2] at meets
    cases meets
  have difference : (amount - 0 == amount) = true := by
    rw [equal_iff, unpacked_less_zero beyond]
    exact compare_self _ number
  have nonzero : (amount == 0) = false := by
    refine Bool.eq_false_iff.mpr fun equal => ?_
    have meets := (equal_iff amount 0).mp equal
    rw [unpacked_zero, (above_zero beyond _).2] at meets
    cases meets
  have entered : ofAmount date amount words = ⟨date, some amount, none, words⟩ := by
    rw [ofAmount, if_pos above, if_neg noCredit]
  rw [entered]
  refine ⟨.inr rfl, fun _ given => ?_, fun _ given => (by cases given), difference, ?_⟩
  · cases given
    exact above
  · rw [Entry.amount, sideAmount_some nonzero]
    exact difference

theorem balanced_credit (beyond : Beyond .negative (unpacked amount)) :
    (ofAmount date amount words).Balanced amount := by
  have number : isNaN amount = false := beyond_number beyond
  have below : amount < 0 := (negative_iff number).mpr beyond
  have noDebit : ¬ amount > 0 := fun above => by
    have meets := (lt_iff 0 amount).mp above
    rw [unpacked_zero, (below_zero beyond _).1] at meets
    cases meets
  have turned : Beyond .positive (unpacked (-amount)) := by
    rw [unpacked_negated beyond]
    exact beyond_resigned beyond _
  have difference : ((0 : Float) - -amount == amount) = true := by
    rw [equal_iff, unpacked_zero_less_negated beyond]
    exact compare_self _ number
  have nonzero : (-amount == 0) = false := by
    refine Bool.eq_false_iff.mpr fun equal => ?_
    have meets := (equal_iff (-amount) 0).mp equal
    rw [unpacked_zero, (above_zero turned _).2] at meets
    cases meets
  have entered : ofAmount date amount words = ⟨date, none, some (-amount), words⟩ := by
    rw [ofAmount, if_neg noDebit, if_pos below]
  rw [entered]
  refine ⟨.inl rfl, fun _ given => (by cases given), fun _ given => ?_, difference, ?_⟩
  · cases given
    exact (positive_iff (beyond_number turned)).mpr turned
  · rw [Entry.amount, sideAmount_some nonzero]
    exact difference

theorem balanced (date words : String) (amount : Float) (number : isNaN amount = false) :
    (ofAmount date amount words).Balanced amount := by
  rcases beyond_cases (unpacked amount) number with ⟨own, zero⟩ | above | below
  · exact balanced_zero own zero
  · exact balanced_debit above
  · exact balanced_credit below

end Fiscal.Entry

namespace Fiscal

open Machine Relation

namespace Ledgers

end Ledgers

section Posting

variable {parts : Evaluator} {posting : Posting} {place : Machine}

end Posting

section Runs

variable {step : Ledgers → Ledgers → Prop} {breaks : Breaks} {rounds : Nat}

noncomputable def Evaluator.lawful (law : Law) (parts : Evaluator) : Evaluator :=
  parts.broken ⟨fun _ task machine => ¬ (law.sound machine ∧ law.Asks machine task), fun _ _ _ => False⟩ 0

section Level

variable {depth : Nat}
  (leads : ∀ task machine, Law.made.sound machine → Law.made.Asks machine task →
    ReflTransGen step machine.ledgers
      (final ((Evaluator.breaking breaks rounds depth).answer task machine)).ledgers)

include leads

end Level

end Runs

namespace Session

-- The machine of an execution where it is broken off, or at its end.
noncomputable def stopped (breaks : Breaks) (limits : Limits) (file : Option String) (source : String)
    (machine : Machine) : Machine :=
  match read machine.settings file source with
  | .error _ => machine
  | .ok reading =>
      (runAll (.breaking breaks limits.rounds limits.depth) reading.program.statements (ready source machine)).2.2

section Runs

variable {step : Ledgers → Ledgers → Prop} {parts other : Evaluator}

end Runs

end Session

end Fiscal
