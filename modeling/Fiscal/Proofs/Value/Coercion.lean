import Fiscal.Machine.Expression
import Fiscal.Proofs.Machine.Action
import Fiscal.Proofs.Value.Table

set_option autoImplicit false

namespace Fiscal

namespace Law

variable (law : Law)

theorem holds_numbers (machine : Machine) (values : List Float) :
    law.holds machine (.numbers values) := by
  refine (law.list machine _).mpr fun item member => ?_
  obtain ⟨value, _, rfl⟩ := List.mem_map.mp member
  exact law.simple machine _ rfl

theorem holds_texts (machine : Machine) (values : List String) :
    law.holds machine (.list (values.map Value.text)) := by
  refine (law.list machine _).mpr fun item member => ?_
  obtain ⟨value, _, rfl⟩ := List.mem_map.mp member
  exact law.simple machine _ rfl

theorem holds_row (machine : Machine) (row : Named Float) :
    law.holds machine (.object (row.map fun cell => (cell.1, .number cell.2))) := by
  refine (law.object machine _).mpr fun field member => ?_
  obtain ⟨cell, _, rfl⟩ := List.mem_map.mp member
  exact law.simple machine _ rfl

end Law

theorem Portfolio.build_failure (assets weights : List Float) (names : Option (List String))
    (failure : Failure) (failed : Portfolio.build assets weights names = .error failure) :
    (∃ message, failure = .brokenInvariant message) ∨
      ∃ fault, Number.exactSum weights = .error fault ∧ failure = .fault fault := by
  unfold Portfolio.build at failed
  by_cases lengths : (assets.length != weights.length) = true
  · rw [if_pos lengths] at failed
    cases failed
    exact .inl ⟨_, rfl⟩
  · rw [if_neg lengths] at failed
    cases negative : Portfolio.negativeWeight? weights with
    | some _ =>
        rw [negative] at failed
        cases failed
        exact .inl ⟨_, rfl⟩
    | none =>
        rw [negative] at failed
        cases summed : Number.exactSum weights with
        | error fault =>
            rw [summed] at failed
            cases failed
            exact .inr ⟨fault, rfl, rfl⟩
        | ok total =>
            rw [summed] at failed
            change (if (total - 1).abs > Portfolio.tolerance then _ else _) = _ at failed
            by_cases off : (total - 1).abs > Portfolio.tolerance
            · rw [if_pos off] at failed
              cases failed
              exact .inl ⟨_, rfl⟩
            · rw [if_neg off] at failed
              cases failed

namespace Yields

variable {law : Law} {machine : Machine}

theorem mustBe {α : Type} {good : α → Prop} (what wanted : String) (value : Value) :
    Yields law.fails good (value.mustBe what wanted : Except Failure α) :=
  law.unplaced _

theorem asNumber (what : String) (value : Value) :
    Yields law.fails (fun _ => True) (value.asNumber what) := by
  cases value with
  | number => exact trivial
  | _ => exact mustBe what "a number" _

theorem asInt (what : String) (value : Value) :
    Yields law.fails (fun _ => True) (value.asInt what) := by
  refine (asNumber what value).bind fun amount _ => ?_
  by_cases whole : Number.isWhole amount = true
  · rw [if_pos whole]
    exact trivial
  · rw [if_neg whole]
    exact law.unplaced _

theorem asText (what : String) (value : Value) :
    Yields law.fails (fun _ => True) (value.asText what) := by
  cases value with
  | text => exact trivial
  | _ => exact mustBe what "a string" _

theorem itemNumbers (what : String) (index : Nat) (items : List Value) :
    Yields law.fails (fun _ => True) (Value.itemNumbers what index items) := by
  induction items generalizing index with
  | nil => exact trivial
  | cons item rest ih =>
      cases item with
      | number value => exact (ih (index + 1)).bind fun _ _ => trivial
      | _ => exact law.unplaced _

theorem asNumbers (what : String) (value : Value) :
    Yields law.fails (fun _ => True) (value.asNumbers what) := by
  cases value with
  | cashflow => exact trivial
  | list items => exact itemNumbers what 0 items
  | _ => exact mustBe what "a list of numbers" _

theorem asList (what : String) (value : Value) (held : law.holds machine value) :
    Yields law.fails (law.HoldsAll machine) (value.asList what) := by
  cases value with
  | list items => exact (law.list machine items).mp held
  | _ => exact mustBe what "a list" _

theorem asTable (what : String) (value : Value) :
    Yields law.fails (fun grid => value = .table grid) (value.asTable what) := by
  cases value with
  | table => exact rfl
  | _ => exact mustBe what "a TABLE" _

theorem asCallable (what : String) (value : Value) (held : law.holds machine value) :
    Yields law.fails (law.holds machine) (value.asCallable what) := by
  unfold Value.asCallable
  by_cases callable : value.isCallable = true
  · rw [if_pos callable]
    exact held
  · rw [if_neg callable]
    exact mustBe what "a function or lambda" _

theorem column (grid : Table) (name : String) :
    Yields law.fails (fun _ => True) (grid.column name) := by
  unfold Table.column
  cases grid.columns.get? name with
  | none => exact law.unplaced _
  | some _ => exact trivial

theorem buildTable (columns : Named (List Float)) (distinct : law.Distinct columns.names) :
    Yields law.fails (fun grid => law.holds machine (.table grid)) (Table.build columns) := by
  cases built : Table.build columns with
  | ok grid => exact law.table machine columns grid distinct built
  | error failure =>
      rw [Table.build] at built
      by_cases even : Table.isEven ⟨columns⟩ = true
      · rw [if_pos even] at built
        cases built
      · rw [if_neg even] at built
        cases built
        exact law.unplaced _

theorem buildPortfolio (assets weights : List Float) (names : Option (List String))
    (allowed : ∀ fault, Portfolio.build assets weights names = .error (.fault fault) →
      law.fails (.fault fault)) :
    Yields law.fails (fun built => law.holds machine (.portfolio built))
      (Portfolio.build assets weights names) := by
  cases built : Portfolio.build assets weights names with
  | ok portfolio => exact law.portfolio machine assets weights names portfolio built
  | error failure =>
      rw [built] at allowed
      rcases Portfolio.build_failure assets weights names failure built with
        ⟨message, rfl⟩ | ⟨fault, _, rfl⟩
      · exact law.unplaced _
      · exact allowed fault rfl

theorem noMember (value : Value) (name : String) :
    Yields law.fails (law.holds machine) (.error (value.noMember name)) :=
  law.unplaced _

theorem entryMember (entry : Entry) (name : String) (member : Value)
    (found : Value.entryMember? entry name = some member) : law.holds machine member := by
  refine law.simple machine member ?_
  unfold Value.entryMember? at found
  split at found <;> cases found
  · rfl
  · rfl
  · cases entry.debit <;> rfl
  · cases entry.credit <;> rfl
  · rfl

theorem member (ledgers : Ledgers) (value : Value) (name : String)
    (held : law.holds machine value)
    (allowed : ∀ account fault, value = .ledger account → name = "balance" →
      Number.exactSum ((ledgers.entries account).map Entry.amount) = .error fault →
      law.fails (.fault fault)) :
    Yields law.fails (law.holds machine) (value.member ledgers name) := by
  unfold Value.member
  split
  · exact (column _ _).bind fun cells _ => law.holds_numbers machine cells
  · rename_i _ fields
    cases found : Named.get? fields name with
    | none => exact law.unplaced _
    | some field =>
        exact (law.object machine fields).mp held _ (Named.mem_of_get? fields name field found)
  · exact law.holds_numbers machine _
  · exact law.holds_numbers machine _
  · exact law.holds_texts machine _
  · exact law.holds_numbers machine _
  · rename_i account
    have balance : Yields law.fails (fun _ => True) (ledgers.entries account).balance :=
      ofFault (fun _ _ => trivial) fun fault raised => allowed account fault rfl rfl raised
    exact balance.bind fun _ _ => law.simple machine _ rfl
  · refine (law.list machine _).mpr fun item member => ?_
    obtain ⟨entry, _, rfl⟩ := List.mem_map.mp member
    exact law.simple machine _ rfl
  · rename_i _ posted
    cases found : Value.entryMember? posted name with
    | none => exact law.unplaced _
    | some member => exact entryMember posted name member found
  · exact law.simple machine _ rfl
  · exact law.simple machine _ rfl
  · exact noMember _ _

theorem raise (span : Source.Span) (base exponent : Float)
    (placed : ∀ issue, law.fails (.issue issue (some span))) :
    Yields law.fails (fun _ => True) (Value.raise span base exponent) := by
  unfold Value.raise
  by_cases zero : (base == 0 && exponent < 0) = true
  · rw [if_pos zero]
    exact placed _
  · rw [if_neg zero]
    dsimp only
    split
    · exact trivial
    · split
      · exact placed _
      · exact placed _

theorem compute (span : Source.Span) (op : BinaryOperator) (a b : Float)
    (placed : ∀ issue, law.fails (.issue issue (some span))) :
    Yields law.fails (law.holds machine) (Value.compute span op a b) := by
  cases op with
  | add | subtract | multiply | less | lessEqual | greater | greaterEqual =>
      exact law.simple machine _ rfl
  | divide | modulo =>
      unfold Value.compute
      by_cases zero : (b == 0) = true
      · dsimp only
        rw [if_pos zero]
        exact placed _
      · dsimp only
        rw [if_neg zero]
        exact law.simple machine _ rfl
  | power => exact (raise span a b placed).bind fun _ _ => law.simple machine _ rfl
  | or | and | equal | notEqual => exact placed _

theorem cannotApply (span : Source.Span) (op : BinaryOperator) (left right : Value)
    (placed : ∀ issue, law.fails (.issue issue (some span))) :
    Yields law.fails (law.holds machine) (Value.cannotApply span op left right) :=
  placed _

mutual

theorem combine (span : Source.Span) (op : BinaryOperator) (left right : Value)
    (placed : ∀ issue, law.fails (.issue issue (some span))) :
    Yields law.fails (law.holds machine) (Value.combine span op left right) := by
  unfold Value.combine
  split
  · rename_i xs ys
    by_cases each : Value.isElementwise op = true
    · rw [if_pos each]
      have items := combineItems span op xs ys placed
      cases combined : Value.combineItems span op xs ys with
      | ok results =>
          rw [combined] at items
          exact (law.list machine results).mpr items
      | error failure =>
          rw [combined] at items
          exact items
    · rw [if_neg each]
      exact cannotApply span op _ _ placed
  · by_cases joins : op = .add
    · rw [if_pos joins]
      exact law.simple machine _ rfl
    · rw [if_neg joins]
      exact cannotApply span op _ _ placed
  · exact compute span op _ _ placed
  · exact cannotApply span op _ _ placed

theorem combineItems (span : Source.Span) (op : BinaryOperator) (left right : List Value)
    (placed : ∀ issue, law.fails (.issue issue (some span))) :
    Yields law.fails (law.HoldsAll machine) (Value.combineItems span op left right) := by
  cases left with
  | nil =>
      unfold Value.combineItems
      exact fun item member => by cases member
  | cons x xs =>
      cases right with
      | nil =>
          unfold Value.combineItems
          exact fun item member => by cases member
      | cons y ys =>
          have first := combine span op x y placed
          have rest := combineItems span op xs ys placed
          rw [Value.combineItems]
          cases one : Value.combine span op x y with
          | error failure =>
              rw [one] at first
              exact first
          | ok item =>
              rw [one] at first
              cases others : Value.combineItems span op xs ys with
              | error failure =>
                  rw [others] at rest
                  exact rest
              | ok items =>
                  rw [others] at rest
                  exact List.forall_mem_cons.mpr ⟨first, rest⟩

end

theorem operate (ledgers : Ledgers) (span : Source.Span) (op : BinaryOperator) (left right : Value)
    (placed : ∀ issue, law.fails (.issue issue (some span))) :
    Yields law.fails (law.holds machine) (Value.operate ledgers span op left right) := by
  cases op with
  | equal | notEqual => exact law.simple machine _ rfl
  | _ => exact combine span _ left right placed

theorem indexable (value : Value) (held : law.holds machine value) :
    Yields law.fails (law.HoldsAll machine) (Machine.indexable value) := by
  cases value with
  | list items => exact (law.list machine items).mp held
  | text value =>
      intro item member
      obtain ⟨c, _, rfl⟩ := List.mem_map.mp member
      exact law.simple machine _ rfl
  | cashflow flows => exact (law.list machine _).mp (law.holds_numbers machine flows)
  | _ => exact law.unplaced _

theorem riskSeries (value : Value) : Yields law.fails (fun _ => True) (Machine.riskSeries value) := by
  unfold Machine.riskSeries
  split
  · exact trivial
  · exact asNumbers "VAR series" _

end Yields

namespace Law.Follows

variable {law : Law} {declares : Bool} {machine : Machine}

theorem asList (what : String) (value : Value) (held : law.holds machine value) :
    law.Follows declares law.HoldsAll machine (Eval.lift (value.asList what))
      (Eval.lift (value.asList what)) :=
  .lift (Yields.asList what value held)

theorem asCallable (what : String) (value : Value) (held : law.holds machine value) :
    law.Follows declares law.holds machine (Eval.lift (value.asCallable what))
      (Eval.lift (value.asCallable what)) :=
  .lift (Yields.asCallable what value held)

theorem buildTable (columns : Named (List Float)) (distinct : law.Distinct columns.names) :
    law.Follows declares (fun after grid => law.holds after (.table grid)) machine
      (Eval.lift (Table.build columns)) (Eval.lift (Table.build columns)) :=
  .lift (Yields.buildTable columns distinct)

theorem buildPortfolio (assets weights : List Float) (names : Option (List String))
    (allowed : ∀ fault, Portfolio.build assets weights names = .error (.fault fault) →
      law.fails (.fault fault)) :
    law.Follows declares (fun after built => law.holds after (.portfolio built)) machine
      (Eval.lift (Portfolio.build assets weights names))
      (Eval.lift (Portfolio.build assets weights names)) :=
  .lift (Yields.buildPortfolio assets weights names allowed)

theorem indexable (value : Value) (held : law.holds machine value) :
    law.Follows declares law.HoldsAll machine (Eval.lift (Machine.indexable value))
      (Eval.lift (Machine.indexable value)) :=
  .lift (Yields.indexable value held)

end Law.Follows

end Fiscal
