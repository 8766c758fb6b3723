import Fiscal.Library.Apply
import Fiscal.Proofs.Translation.Basic

set_option autoImplicit false

namespace Fiscal.Translation

variable {move : Translation}

theorem cannotApply_value (span : Source.Span) (op : BinaryOperator) (left right : Value) :
    Value.cannotApply span op (move.value left) (move.value right) =
      (Value.cannotApply span op left right).map move.value := by
  simp [Value.cannotApply, Value.fail, Except.map]

theorem combine_unlike {span : Source.Span} {op : BinaryOperator} {left right : Value}
    (unlike : left.kindName = right.kindName → left.kindName ∉ ["list", "string", "number"]) :
    Value.combine span op left right = Value.cannotApply span op left right := by
  cases left with
  | list | text | number =>
      cases right with
      | list | text | number => first | rfl | exact absurd (by simp [Value.kindName]) (unlike rfl)
      | _ => rfl
  | _ => rfl

theorem combine_unlike_value {span : Source.Span} {op : BinaryOperator} {left right : Value}
    (unlike : left.kindName = right.kindName → left.kindName ∉ ["list", "string", "number"]) :
    Value.combine span op (move.value left) (move.value right) =
      (Value.combine span op left right).map move.value := by
  rw [combine_unlike unlike, combine_unlike (by simpa only [kindName_value] using unlike)]
  exact cannotApply_value span op left right

theorem compute_value (span : Source.Span) (op : BinaryOperator) (a b : Float) :
    (Value.compute span op a b).map move.value = Value.compute span op a b := by
  cases op with
  | add | subtract | multiply => exact congrArg Except.ok (move.value_number _)
  | divide | modulo =>
      unfold Value.compute
      dsimp only
      by_cases zero : (b == 0) = true
      · rw [if_pos zero]
        rfl
      · rw [if_neg zero]
        exact congrArg Except.ok (move.value_number _)
  | power =>
      unfold Value.compute
      dsimp only
      cases Value.raise span a b with
      | ok result => exact congrArg Except.ok (move.value_number result)
      | error failure => rfl
  | less | lessEqual | greater | greaterEqual => exact congrArg Except.ok (move.value_bool _)
  | equal | notEqual | and | or => rfl

mutual

theorem combine_value (span : Source.Span) (op : BinaryOperator) (left right : Value) :
    Value.combine span op (move.value left) (move.value right) =
      (Value.combine span op left right).map move.value := by
  cases left with
  | list items =>
      cases right with
      | list others =>
          have each := combine_values span op items others
          rw [value_list, value_list, Value.combine, Value.combine]
          by_cases elementwise : Value.isElementwise op = true
          · rw [if_pos elementwise, if_pos elementwise, each]
            cases Value.combineItems span op items others with
            | ok results => exact congrArg Except.ok (move.list results).symm
            | error failure => rfl
          · rw [if_neg elementwise, if_neg elementwise]
            rfl
      | _ => exact combine_unlike_value (by simp [Value.kindName])
  | text first =>
      cases right with
      | text second =>
          rw [value_text, value_text, Value.combine]
          by_cases joins : op = .add
          · rw [if_pos joins]
            exact congrArg Except.ok (move.value_text _).symm
          · rw [if_neg joins]
            rfl
      | _ => exact combine_unlike_value (by simp [Value.kindName])
  | number first =>
      cases right with
      | number second =>
          rw [value_number, value_number]
          exact (compute_value span op first second).symm
      | _ => exact combine_unlike_value (by simp [Value.kindName])
  | _ => exact combine_unlike_value (by simp [Value.kindName])

theorem combine_values (span : Source.Span) (op : BinaryOperator) (items others : List Value) :
    Value.combineItems span op (items.map move.value) (others.map move.value) =
      (Value.combineItems span op items others).map (List.map move.value) := by
  cases items with
  | nil => rfl
  | cons item items =>
      cases others with
      | nil => rfl
      | cons other others =>
          have first := combine_value span op item other
          have rest := combine_values span op items others
          rw [List.map_cons, List.map_cons, Value.combineItems, Value.combineItems, first, rest]
          cases Value.combine span op item other with
          | error failure => rfl
          | ok result =>
              cases Value.combineItems span op items others with
              | error failure => rfl
              | ok results => rfl

end

theorem operate_value {ledgers others : Ledgers} {machine : Machine} (entries : move.SameEntries ledgers others)
    (span : Source.Span) (op : BinaryOperator) (left right : Value) (first : move.law.holds machine left)
    (second : move.law.holds machine right) :
    Value.operate others span op (move.value left) (move.value right) =
      (Value.operate ledgers span op left right).map move.value := by
  have same := same_value entries left right first second
  cases op with
  | equal | notEqual =>
      unfold Value.operate
      dsimp only
      rw [same]
      exact congrArg Except.ok (move.value_bool _).symm
  | _ => exact combine_value span _ left right

theorem entryMember_value (posted : Entry) (name : String) (member : Value)
    (found : Value.entryMember? posted name = some member) : move.value member = member := by
  refine move.simple member ?_
  unfold Value.entryMember? at found
  split at found <;> cases found
  · rfl
  · rfl
  · cases posted.debit <;> rfl
  · cases posted.credit <;> rfl
  · rfl

theorem member_plain (ledgers others : Ledgers) (value : Value) (name : String)
    (plain : ∀ fields, value ≠ .object fields) (posted : ∀ account, value ≠ .ledger account) :
    value.member others name = (value.member ledgers name).map move.value := by
  unfold Value.member
  split
  · rename_i grid
    cases grid.column name with
    | ok cells => exact congrArg Except.ok (move.value_numbers cells).symm
    | error failure => rfl
  · exact absurd rfl (plain _)
  · exact congrArg Except.ok (move.value_numbers _).symm
  · exact congrArg Except.ok (move.value_numbers _).symm
  · exact congrArg Except.ok (by rw [value_list, map_value_simple _ _ _ fun _ => rfl])
  · exact congrArg Except.ok (move.value_numbers _).symm
  · exact absurd rfl (posted _)
  · exact absurd rfl (posted _)
  · rename_i entry
    cases found : Value.entryMember? entry name with
    | none => rfl
    | some member => exact congrArg Except.ok (entryMember_value entry name member found).symm
  · exact congrArg Except.ok (move.simple _ rfl).symm
  · exact congrArg Except.ok (move.simple _ rfl).symm
  · rfl

theorem member_list (ledgers : Ledgers) (items : List Value) (name : String) :
    (Value.list items).member ledgers name =
      if name = "length" then .ok (.ofLength items.length) else .error ((Value.list items).noMember name) := by
  by_cases length : name = "length"
  · subst length
    rfl
  · rw [if_neg length]
    unfold Value.member
    split <;> first | rfl | contradiction

theorem member_ledger (ledgers : Ledgers) (account : Nat) (name : String) :
    (Value.ledger account).member ledgers name =
      if name = "balance" then (ledgers.entries account).balance.map Value.number
      else if name = "entries" then .ok (.list ((ledgers.entries account).map Value.entry))
      else .error ((Value.ledger account).noMember name) := by
  by_cases balance : name = "balance"
  · subst balance
    rfl
  · by_cases posted : name = "entries"
    · subst posted
      rfl
    · rw [if_neg balance, if_neg posted]
      unfold Value.member
      split <;> first | rfl | contradiction

theorem member_value {ledgers others : Ledgers} (entries : move.SameEntries ledgers others) (value : Value)
    (name : String) : (move.value value).member others name = (value.member ledgers name).map move.value := by
  cases value with
  | object fields =>
      rw [value_object]
      unfold Value.member
      dsimp only
      rw [get?_named]
      cases Named.get? fields name with
      | none => rfl
      | some field => rfl
  | list items =>
      rw [value_list, member_list, member_list]
      by_cases length : name = "length"
      · rw [if_pos length, if_pos length, List.length_map]
        exact congrArg Except.ok (move.simple _ rfl).symm
      · rw [if_neg length, if_neg length]
        rfl
  | ledger account =>
      rw [move.ledger, member_ledger, member_ledger, entries account]
      by_cases balance : name = "balance"
      · rw [if_pos balance, if_pos balance]
        cases (ledgers.entries account).balance with
        | ok amount => exact congrArg Except.ok (move.value_number amount).symm
        | error fault => rfl
      · rw [if_neg balance, if_neg balance]
        by_cases posted : name = "entries"
        · rw [if_pos posted, if_pos posted]
          exact congrArg Except.ok (by rw [value_list, map_value_simple _ _ _ fun _ => rfl])
        · rw [if_neg posted, if_neg posted]
          rfl
  | table | portfolio =>
      simp only [move.table, move.portfolio]
      exact member_plain ledgers others _ name (by simp) (by simp)
  | cashflow | text | entry | null | number | bool | builtin =>
      rw [move.simple _ rfl]
      exact member_plain ledgers others _ name (by simp) (by simp)
  | function | lambda | block =>
      simp only [move.function, move.lambda, move.block]
      rfl

theorem indexable_value (value : Value) :
    Machine.indexable (move.value value) = (Machine.indexable value).map (List.map move.value) := by
  cases value with
  | list items =>
      rw [value_list]
      rfl
  | text | cashflow =>
      rw [move.simple _ rfl]
      exact congrArg Except.ok (move.map_value_simple _ _ fun _ => rfl).symm
  | _ => simp [Machine.indexable, Value.kindName, Except.map]

theorem sliced_value (target : Value) (start count : Nat) :
    Machine.sliced (move.value target) start count = move.value (Machine.sliced target start count) := by
  cases target with
  | cashflow flows =>
      rw [value_cashflow]
      exact (move.value_numbers _).symm
  | _ => simp [Machine.sliced]

theorem memberKey_value (target key : Value) :
    Machine.memberKey? (move.value target) (move.value key) = Machine.memberKey? target key := by
  cases target with
  | object | table => cases key <;> simp [Machine.memberKey?]
  | _ => simp [Machine.memberKey?]

theorem riskSeries_value (value : Value) : Machine.riskSeries (move.value value) = Machine.riskSeries value := by
  cases value with
  | portfolio built => rw [move.portfolio]
  | list items =>
      have numbers := asNumbers_value move "VAR series" (.list items)
      rw [value_list] at numbers ⊢
      exact numbers
  | _ => simp [Machine.riskSeries, Value.asNumbers, Value.mustBe, Value.kindName]

theorem named_row (row : Named Float) :
    move.named (row.map fun cell => (cell.1, .number cell.2)) = row.map fun cell => (cell.1, Value.number cell.2) := by
  rw [named, List.map_map]
  exact List.map_congr_left fun cell _ => congrArg (Prod.mk cell.1) (move.value_number cell.2)

theorem loopItems_value (value : Value) :
    Machine.loopItems? (move.value value) = (Machine.loopItems? value).map (List.map move.value) := by
  cases value with
  | list items =>
      rw [value_list]
      rfl
  | text | cashflow =>
      rw [move.simple _ rfl]
      exact congrArg some (move.map_value_simple _ _ fun _ => rfl).symm
  | table grid =>
      rw [move.table]
      refine congrArg some ?_
      rw [List.map_map]
      refine List.map_congr_left fun row _ => ?_
      exact ((move.value_object _).trans (congrArg Value.object (named_row row))).symm
  | _ => simp [Machine.loopItems?]

theorem modelArguments_value (model result : Value) (bindings : Named Value) :
    Machine.modelArguments (move.value model) (move.value result) (move.named bindings) =
      (Machine.modelArguments model result bindings).map move.value := by
  have count : Machine.parameterCount? (move.value model) = Machine.parameterCount? model := by
    cases model <;> simp [Machine.parameterCount?]
  unfold Machine.modelArguments
  rw [count]
  split <;> simp

section Builtins

variable {ledgers others : Ledgers}

theorem length_value (entries : move.SameEntries ledgers others) (value : Value) :
    Library.length others (move.value value) = Library.length ledgers value := by
  cases value with
  | ledger account =>
      rw [move.ledger]
      exact congrArg (fun posted => Except.ok (List.length posted)) (entries account)
  | _ => simp [Library.length, Value.kindName]

theorem aggregateValue_value (aggregate : Library.Aggregate) (values : Value) :
    aggregate.apply (move.value values) = (aggregate.apply values).map move.value := by
  unfold Library.Aggregate.apply
  rw [asNumbers_value]
  cases values.asNumbers (aggregate.name ++ "() argument") with
  | error failure => rfl
  | ok numbers =>
      cases computed : aggregate.compute numbers with
      | error failure => simp [bind, Except.bind, Except.map, computed]
      | ok result => simp [bind, Except.bind, Except.map, computed, pure, Except.pure]

theorem aggregate_value (values operation : Value) :
    Library.aggregate (move.value values) (move.value operation) =
      (Library.aggregate values operation).map move.value := by
  unfold Library.aggregate
  rw [asText_value]
  cases operation.asText "AGGREGATE operation" with
  | error failure => rfl
  | ok word =>
      dsimp only [bind, Except.bind]
      cases Library.Aggregate.ofOperation? (Text.upper word) with
      | none => rfl
      | some aggregate => exact aggregateValue_value aggregate values

theorem append_value (items item : Value) :
    Library.append (move.value items) (move.value item) = (Library.append items item).map move.value := by
  unfold Library.append
  rw [asList_value]
  cases items.asList "append() first argument" with
  | error failure => rfl
  | ok listed => simp [bind, Except.bind, Except.map, pure, Except.pure]

theorem concat_value (first second : Value) :
    Library.concat (move.value first) (move.value second) = (Library.concat first second).map move.value := by
  cases first with
  | text front =>
      cases second with
      | text back =>
          rw [value_text, value_text]
          exact congrArg Except.ok (move.value_text _).symm
      | _ => simp [Library.concat, Value.asList, Value.mustBe, Value.kindName, bind, Except.bind, Except.map]
  | list front =>
      rw [value_list]
      change ((move.value second).asList "concat() second argument" >>= fun back =>
        pure (Value.list (front.map move.value ++ back))) =
          ((second.asList "concat() second argument" >>= fun back => pure (Value.list (front ++ back))).map move.value)
      rw [asList_value]
      cases second.asList "concat() second argument" with
      | error failure => rfl
      | ok back => simp [bind, Except.bind, Except.map, pure, Except.pure]
  | _ => simp [Library.concat, Value.asList, Value.mustBe, Value.kindName, bind, Except.bind, Except.map]

theorem wholes_values (what : String) (values : List Value) :
    Library.wholes what (values.map move.value) = Library.wholes what values := by
  induction values with
  | nil => rfl
  | cons value rest ih => rw [List.map_cons, Library.wholes, Library.wholes, asInt_value, ih]

theorem progression_value (first stop step : Int) :
    (Library.progression first stop step).map move.value = Library.progression first stop step := by
  unfold Library.progression
  split
  · rfl
  · dsimp only
    split
    · rfl
    · split
      · rfl
      · exact congrArg Except.ok (move.value_numbers _)

theorem range_values (bounds : List Value) :
    Library.range (bounds.map move.value) = (Library.range bounds).map move.value := by
  unfold Library.range
  rw [List.length_map, wholes_values]
  by_cases counted : (bounds.length < 1 || 3 < bounds.length) = true
  · rw [if_pos counted]
    rfl
  · rw [if_neg counted]
    cases Library.wholes "range() argument" bounds with
    | error failure => rfl
    | ok numbers =>
        dsimp only [bind, Except.bind]
        split
        · exact (progression_value _ _ _).symm
        · exact (progression_value _ _ _).symm
        · exact (progression_value _ _ _).symm
        · rfl

theorem returns_value (values : Value) :
    Library.returns (move.value values) = (Library.returns values).map move.value := by
  unfold Library.returns
  rw [asNumbers_value]
  cases values.asNumbers "returns() argument" with
  | error failure => rfl
  | ok series =>
      dsimp only [bind, Except.bind]
      cases Fault.lift (Finance.simpleReturns series) with
      | error failure => rfl
      | ok results => exact congrArg Except.ok (move.value_numbers results).symm

theorem volatility_value (values : Value) :
    Library.volatility (move.value values) = (Library.volatility values).map move.value := by
  unfold Library.volatility
  rw [asNumbers_value]
  cases values.asNumbers "volatility() argument" with
  | error failure => rfl
  | ok series =>
      dsimp only [bind, Except.bind]
      cases Fault.lift (Finance.volatility series) with
      | error failure => rfl
      | ok result => exact congrArg Except.ok (move.value_number result).symm

theorem tableJoin_value (left right : Value) :
    Library.tableJoin (move.value left) (move.value right) = (Library.tableJoin left right).map move.value := by
  unfold Library.tableJoin
  rw [asTable_value, asTable_value]
  cases left.asTable "table_join() first argument" with
  | error failure => rfl
  | ok first =>
      cases right.asTable "table_join() second argument" with
      | error failure => rfl
      | ok second =>
          dsimp only [bind, Except.bind]
          cases Table.build (first.columns.putAll second.columns) with
          | error failure => rfl
          | ok joined => exact congrArg Except.ok (move.table joined).symm

theorem columns_value (table : Value) :
    Library.columns (move.value table) = (Library.columns table).map move.value := by
  unfold Library.columns
  rw [asTable_value]
  cases table.asTable "columns() argument" with
  | error failure => rfl
  | ok grid =>
      refine congrArg Except.ok ?_
      rw [value_list, map_value_simple _ _ _ fun _ => rfl]

end Builtins

end Fiscal.Translation
