import Fiscal.Proofs.Library.Apply
import Fiscal.Proofs.Translation.Action

set_option autoImplicit false

namespace Fiscal.Translation

open Machine

variable (move : Translation)

theorem apply_wrongCount (call : Value → List Value → Eval Value) (builtin : Builtin) (arguments : List Value)
    (count : Nat) (arity : builtin.arity? = some count) (wrong : arguments.length ≠ count) :
    builtin.apply call arguments =
      Eval.lift (Library.wrongCount builtin.name (toString count) arguments.length) := by
  have given : builtin.arity?.getD 0 = count := by
    rw [arity]
    rfl
  unfold Builtin.apply
  split
  all_goals first
    | rw [given]
    | exact absurd (Option.some.inj arity) wrong
    | cases arity

theorem marked_map {α β : Type} (place : α → β) (items : List α) (marks : List Bool) :
    Library.marked (items.map place) marks = (Library.marked items marks).map place := by
  induction items generalizing marks with
  | nil => rfl
  | cons item rest ih =>
      cases marks with
      | nil => rfl
      | cons mark marks =>
          have others := ih marks
          unfold Library.marked at others ⊢
          cases mark with
          | true => exact congrArg (place item :: ·) others
          | false => exact others

namespace Agrees

variable {move} {machine twin : Machine}

theorem asList (what : String) (value : Value) (knows : move.law.holds machine value) :
    move.Agrees (List.map move.value) move.KnowsAll machine twin (Eval.lift (value.asList what))
      (Eval.lift ((move.value value).asList what)) :=
  lift (move.asList_value what value) (Yields.asList what value knows)

theorem asCallable (what : String) (value : Value) (knows : move.law.holds machine value) :
    move.Agrees move.value move.law.holds machine twin (Eval.lift (value.asCallable what))
      (Eval.lift ((move.value value).asCallable what)) :=
  lift (move.asCallable_value what value) (Yields.asCallable what value knows)

theorem buildTable (columns : Named (List Float)) :
    move.Agrees move.value move.law.holds machine twin (return .table (← Eval.lift (Table.build columns)))
      (return .table (← Eval.lift (Table.build columns))) :=
  (liftOk _).bindSame fun grid _ _ _ built => .pureSame _ (move.table grid) fun _ =>
    move.law.table _ _ grid (.inr move.loose) built

section Callbacks

variable {call : Value → List Value → Eval Value}
  (calls : ∀ callee arguments machine twin, move.law.holds machine callee → move.KnowsAll machine arguments →
    move.Agrees move.value move.law.holds machine twin (call callee arguments)
      (call (move.value callee) (arguments.map move.value)))

include calls

theorem mapItems (function : Value) (items : List Value) (callee : move.law.holds machine function)
    (known : move.KnowsAll machine items) :
    move.Agrees (List.map move.value) move.KnowsAll machine twin (Library.mapItems call function items)
      (Library.mapItems call (move.value function) (items.map move.value)) := by
  induction items generalizing machine twin with
  | nil => exact .pure _ fun _ value member => by cases member
  | cons item rest ih =>
      obtain ⟨knownItem, knownRest⟩ := List.forall_mem_cons.mp known
      have one : move.KnowsAll machine [item] := List.forall_mem_singleton.mpr knownItem
      refine (calls function [item] machine twin callee one).bind fun result _ _ kept knownResult => ?_
      refine (ih (kept _ callee) fun value member => kept _ (knownRest value member)).bind
        fun results _ _ keptAgain knownResults => ?_
      exact .pure _ fun _ => List.forall_mem_cons.mpr ⟨keptAgain _ knownResult, knownResults⟩

theorem acceptItems (function : Value) (items : List Value) (callee : move.law.holds machine function)
    (known : move.KnowsAll machine items) :
    move.Agrees id Law.Any machine twin (Library.acceptItems call function items)
      (Library.acceptItems call (move.value function) (items.map move.value)) := by
  induction items generalizing machine twin with
  | nil => exact .pure _ fun _ => trivial
  | cons item rest ih =>
      obtain ⟨knownItem, knownRest⟩ := List.forall_mem_cons.mp known
      have one : move.KnowsAll machine [item] := List.forall_mem_singleton.mpr knownItem
      refine (calls function [item] machine twin callee one).bind fun result _ _ kept _ => ?_
      refine (ih (kept _ callee) fun value member => kept _ (knownRest value member)).bindSame
        fun results _ _ _ _ => ?_
      rw [isTruthy_value]
      exact .pure _ fun _ => trivial

theorem foldItems (function joined : Value) (items : List Value) (callee : move.law.holds machine function)
    (knownJoined : move.law.holds machine joined) (known : move.KnowsAll machine items) :
    move.Agrees move.value move.law.holds machine twin (Library.foldItems call function joined items)
      (Library.foldItems call (move.value function) (move.value joined) (items.map move.value)) := by
  induction items generalizing machine twin joined with
  | nil => exact .pure _ fun _ => knownJoined
  | cons item rest ih =>
      obtain ⟨knownItem, knownRest⟩ := List.forall_mem_cons.mp known
      have both : move.KnowsAll machine [joined, item] :=
        List.forall_mem_cons.mpr ⟨knownJoined, List.forall_mem_singleton.mpr knownItem⟩
      refine (calls function [joined, item] machine twin callee both).bind fun next _ _ kept knownNext => ?_
      exact ih next (kept _ callee) knownNext fun value member => kept _ (knownRest value member)

theorem map (items function : Value) (knownItems : move.law.holds machine items)
    (knownFunction : move.law.holds machine function) :
    move.Agrees move.value move.law.holds machine twin (Library.map call items function)
      (Library.map call (move.value items) (move.value function)) := by
  refine (asCallable _ function knownFunction).bind fun callee _ _ kept known => ?_
  refine (asList _ items (kept _ knownItems)).bind fun listed _ _ keptAgain knownListed => ?_
  refine (mapItems calls callee listed (keptAgain _ known) knownListed).bind fun results _ _ _ knownResults => ?_
  rw [← value_list]
  exact .pure _ fun _ => (move.law.list _ results).mpr knownResults

theorem filter (items function : Value) (knownItems : move.law.holds machine items)
    (knownFunction : move.law.holds machine function) :
    move.Agrees move.value move.law.holds machine twin (Library.filter call items function)
      (Library.filter call (move.value items) (move.value function)) := by
  refine (asCallable _ function knownFunction).bind fun callee _ _ kept known => ?_
  refine (asList _ items (kept _ knownItems)).bind fun listed _ _ keptAgain knownListed => ?_
  refine (acceptItems calls callee listed (keptAgain _ known) knownListed).bindSame fun marks _ _ keptLast _ => ?_
  rw [marked_map, ← value_list]
  refine .pure _ fun _ => (move.law.list _ _).mpr fun value member => ?_
  obtain ⟨pair, chosen, rfl⟩ := List.mem_map.mp member
  exact keptLast _ (knownListed pair.1 (List.of_mem_zip (List.mem_filter.mp chosen).1).1)

theorem reduceFrom (function : Value) (initial : Option Value) (items : List Value)
    (callee : move.law.holds machine function) (started : ∀ value, initial = some value → move.law.holds machine value)
    (known : move.KnowsAll machine items) :
    move.Agrees move.value move.law.holds machine twin (Library.reduceFrom call function initial items)
      (Library.reduceFrom call (move.value function) (initial.map move.value) (items.map move.value)) := by
  cases initial with
  | some value => exact foldItems calls function value items callee (started value rfl) known
  | none =>
      cases items with
      | nil => exact .throw _
      | cons first rest =>
          obtain ⟨knownFirst, knownRest⟩ := List.forall_mem_cons.mp known
          exact foldItems calls function first rest callee knownFirst knownRest

theorem reduce (items function : Value) (initial : Option Value) (knownItems : move.law.holds machine items)
    (knownFunction : move.law.holds machine function)
    (started : ∀ value, initial = some value → move.law.holds machine value) :
    move.Agrees move.value move.law.holds machine twin (Library.reduce call items function initial)
      (Library.reduce call (move.value items) (move.value function) (initial.map move.value)) := by
  refine (asList _ items knownItems).bind fun listed _ _ kept knownListed => ?_
  refine (asCallable _ function (kept _ knownFunction)).bind fun callee _ _ keptAgain known => ?_
  exact reduceFrom calls callee initial listed known
    (fun value same => keptAgain _ (kept _ (started value same)))
    fun value member => keptAgain _ (knownListed value member)

theorem tableFilter (table column accept : Value) (knownAccept : move.law.holds machine accept) :
    move.Agrees move.value move.law.holds machine twin (Library.tableFilter call table column accept)
      (Library.tableFilter call (move.value table) (move.value column) (move.value accept)) := by
  refine (liftSame (move.asTable_value _ table)).bindSame fun grid _ _ kept _ => ?_
  refine (asCallable _ accept (kept _ knownAccept)).bind fun callee _ _ _ knownCallee => ?_
  refine (liftSame (move.asText_value _ column)).bindSame fun name _ _ keptName _ => ?_
  refine (liftSame rfl).bindSame fun cells after next keptCells _ => ?_
  have numbers : move.KnowsAll after (cells.map Value.number) := fun value member => by
    obtain ⟨x, _, rfl⟩ := List.mem_map.mp member
    exact move.law.simple _ _ rfl
  have accepted : move.Agrees id Law.Any after next (Library.acceptItems call callee (cells.map Value.number))
      (Library.acceptItems call (move.value callee) ((cells.map Value.number).map move.value)) :=
    acceptItems calls callee _ (keptCells _ (keptName _ knownCallee)) numbers
  rw [move.map_value_simple _ _ fun _ => rfl] at accepted
  exact accepted.bindSame fun mask _ _ _ _ => buildTable _

theorem mapNumbers (what : String) (function : Value) (numbers : List Float) (callee : move.law.holds machine function) :
    move.Agrees id Law.Any machine twin (Library.mapNumbers call what function numbers)
      (Library.mapNumbers call what (move.value function) numbers) := by
  induction numbers generalizing machine twin with
  | nil => exact .pure _ fun _ => trivial
  | cons x rest ih =>
      have one : move.KnowsAll machine [.number x] := List.forall_mem_singleton.mpr (move.law.simple _ _ rfl)
      have called := calls function [.number x] machine twin callee one
      rw [List.map_singleton, value_number] at called
      refine called.bind fun result _ _ kept _ => ?_
      refine (liftSame (move.asNumber_value what result)).bindSame fun _ _ _ keptAgain _ => ?_
      exact (ih (keptAgain _ (kept _ callee))).bindSame fun _ _ _ _ _ => .pure _ fun _ => trivial

theorem columnApply (table column function : Value) (knownFunction : move.law.holds machine function) :
    move.Agrees move.value move.law.holds machine twin (Library.columnApply call table column function)
      (Library.columnApply call (move.value table) (move.value column) (move.value function)) := by
  refine (liftSame (move.asTable_value _ table)).bindSame fun grid _ _ kept _ => ?_
  refine (asCallable _ function (kept _ knownFunction)).bind fun callee _ _ _ knownCallee => ?_
  refine (liftSame (move.asText_value _ column)).bindSame fun name _ _ keptName _ => ?_
  refine (liftSame rfl).bindSame fun cells _ _ keptCells _ => ?_
  refine (mapNumbers calls _ callee cells (keptCells _ (keptName _ knownCallee))).bindSame fun results _ _ _ _ => ?_
  exact buildTable _

end Callbacks

theorem len (value : Value) :
    move.Agrees move.value move.law.holds machine twin (Library.len value) (Library.len (move.value value)) := by
  refine assuming fun _ pairs => .get ?_
  refine (liftSame (length_value (move.entries machine twin pairs) value)).bindSame fun count _ _ _ _ => ?_
  exact .plain _ rfl

theorem shownLine (values : List Value) :
    move.Agrees id Law.Any machine twin (Library.shownLine values)
      (Library.shownLine (values.map move.value)) := by
  refine assuming fun _ pairs => .get ?_
  have texts : (values.map move.value).map (Value.shown twin.ledgers) = values.map (Value.shown machine.ledgers) := by
    rw [List.map_map]
    exact List.map_congr_left fun value _ => shown_value (move.entries machine twin pairs) value
  dsimp only
  rw [texts]
  exact .pure _ fun _ => trivial

theorem display (values : List Value) (known : move.KnowsAll machine values) :
    move.Agrees move.value move.law.holds machine twin (Library.display values)
      (Library.display (values.map move.value)) := by
  refine (shownLine values).bindSame fun line _ _ kept _ => ?_
  refine (write line).bindSame fun _ after _ keptAgain _ => ?_
  cases values with
  | nil => exact .plain _ rfl
  | cons first rest => exact .pure _ fun _ => keptAgain _ (kept _ (known first List.mem_cons_self))

theorem assertion (condition : Value) (message : Option Value) :
    move.Agrees move.value move.law.holds machine twin (Library.assertion condition message)
      (Library.assertion (move.value condition) (message.map move.value)) := by
  unfold Library.assertion
  rw [isTruthy_value]
  by_cases passed : condition.isTruthy = true
  · rw [if_pos passed, if_pos passed]
    exact .plain _ rfl
  · rw [if_neg passed, if_neg passed]
    cases message with
    | none => exact .throw _
    | some message => exact (shown message).bindSame fun _ _ _ _ _ => .throw _

theorem raise (values : List Value) :
    move.Agrees move.value move.law.holds machine twin (Library.raise values)
      (Library.raise (values.map move.value)) :=
  (shownLine values).bindSame fun _ _ _ _ _ => .throw _

-- The model reads numbers that the calling scope sees, and these are the same on both sides.
theorem numberOrZero (name : String) :
    move.Agrees id Law.Any machine twin (Library.numberOrZero name) (Library.numberOrZero name) := by
  refine assuming fun sound pairs => .get ?_
  rw [move.current machine twin pairs, get_place sound pairs .refl name]
  cases machine.scopes.get? machine.current name with
  | none => exact .pure _ fun _ => trivial
  | some value => cases value <;> simp <;> exact .pure _ fun _ => trivial

theorem valuationModel :
    move.Agrees move.value move.law.holds machine twin Library.valuationModel Library.valuationModel := by
  refine (numberOrZero "rate").bindSame fun rate _ _ _ _ => ?_
  refine (numberOrZero "growth").bindSame fun growth _ _ _ _ => ?_
  exact (write _).bindSame fun _ _ _ _ _ => .plain _ rfl

theorem loadCsv (path : Value) :
    move.Agrees move.value move.law.holds machine twin (Library.loadCsv path) (Library.loadCsv (move.value path)) := by
  refine (liftSame (move.asText_value _ path)).bindSame fun name _ _ _ _ => ?_
  refine assuming fun _ pairs => .get ?_
  rw [(move.given _ _ pairs).1]
  refine (liftSame rfl).bindSame fun text _ _ _ _ => ?_
  refine (liftSame rfl).bindSame fun columns _ _ _ _ => ?_
  exact buildTable _

theorem writeFile (path text : String) :
    move.Agrees id Law.Any machine twin (Library.writeFile path text) (Library.writeFile path text) := by
  intro sound pairs
  have written : twin.files.write path text = machine.files.write path text := by
    rw [(move.given machine twin pairs).1]
  change move.Ends id Law.Any machine
    ((Eval.liftFault (machine.files.write path text) >>= fun files => set { machine with files := files }) machine)
    ((Eval.liftFault (twin.files.write path text) >>= fun files => set { twin with files := files }) twin)
  rw [written]
  cases machine.files.write path text with
  | ok files => exact .ok () _ _ (.store _ machine files) trivial (move.stored machine twin files pairs)
  | error fault => exact .error _ machine twin pairs

theorem requireDirectory (path : String) :
    move.Agrees id Law.Any machine twin (Library.requireDirectory path) (Library.requireDirectory path) := by
  refine assuming fun _ pairs => .get ?_
  rw [(move.given _ _ pairs).1]
  split
  · exact .pure _ fun _ => trivial
  · exact .throw _

theorem saveCsv (table path : Value) :
    move.Agrees move.value move.law.holds machine twin (Library.saveCsv table path)
      (Library.saveCsv (move.value table) (move.value path)) := by
  refine (liftSame (move.asTable_value _ table)).bindSame fun grid _ _ _ _ => ?_
  refine (liftSame (move.asText_value _ path)).bindSame fun name _ _ _ _ => ?_
  refine (requireDirectory name).bindSame fun _ _ _ _ _ => ?_
  exact (writeFile name _).bindSame fun _ _ _ _ _ => .plain _ rfl

theorem readText (path : Value) :
    move.Agrees move.value move.law.holds machine twin (Library.readText path) (Library.readText (move.value path)) := by
  refine (liftSame (move.asText_value _ path)).bindSame fun name _ _ _ _ => ?_
  refine assuming fun _ pairs => .get ?_
  rw [(move.given _ _ pairs).1]
  exact (liftSame rfl).bindSame fun _ _ _ _ _ => .plain _ rfl

theorem writeText (path value : Value) :
    move.Agrees move.value move.law.holds machine twin (Library.writeText path value)
      (Library.writeText (move.value path) (move.value value)) := by
  refine (liftSame (move.asText_value _ path)).bindSame fun name _ _ _ _ => ?_
  refine (shown value).bindSame fun text _ _ _ _ => ?_
  exact (writeFile _ text).bindSame fun _ _ _ _ _ => .plain _ rfl

section Apply

variable {call : Value → List Value → Eval Value} {builtin : Builtin} {arguments : List Value}

theorem counted {count : Nat} (arity : builtin.arity? = some count)
    (right : arguments.length = count → move.Agrees move.value move.law.holds machine twin
      (builtin.apply call arguments) (builtin.apply call (arguments.map move.value))) :
    move.Agrees move.value move.law.holds machine twin (builtin.apply call arguments)
      (builtin.apply call (arguments.map move.value)) := by
  by_cases same : arguments.length = count
  · exact right same
  · have also : (arguments.map move.value).length ≠ count := by rwa [List.length_map]
    rw [apply_wrongCount call builtin arguments count arity same,
      apply_wrongCount call builtin _ count arity also, List.length_map]
    exact .throw _

theorem takingOne (arity : builtin.arity? = some 1) (known : move.KnowsAll machine arguments)
    (body : ∀ value, move.law.holds machine value → move.Agrees move.value move.law.holds machine twin
      (builtin.apply call [value]) (builtin.apply call [move.value value])) :
    move.Agrees move.value move.law.holds machine twin (builtin.apply call arguments)
      (builtin.apply call (arguments.map move.value)) := by
  refine counted arity fun one => ?_
  obtain ⟨value, rfl⟩ := List.length_eq_one_iff.mp one
  exact body value (known value List.mem_cons_self)

theorem takingTwo (arity : builtin.arity? = some 2) (known : move.KnowsAll machine arguments)
    (body : ∀ first second, move.law.holds machine first → move.law.holds machine second →
      move.Agrees move.value move.law.holds machine twin (builtin.apply call [first, second])
        (builtin.apply call [move.value first, move.value second])) :
    move.Agrees move.value move.law.holds machine twin (builtin.apply call arguments)
      (builtin.apply call (arguments.map move.value)) := by
  refine counted arity fun two => ?_
  rcases arguments with _ | ⟨first, _ | ⟨second, _ | _⟩⟩ <;> cases two
  obtain ⟨knownFirst, knownRest⟩ := List.forall_mem_cons.mp known
  exact body first second knownFirst (knownRest second List.mem_cons_self)

theorem takingThree (arity : builtin.arity? = some 3) (known : move.KnowsAll machine arguments)
    (body : ∀ first second third, move.law.holds machine third →
      move.Agrees move.value move.law.holds machine twin (builtin.apply call [first, second, third])
        (builtin.apply call [move.value first, move.value second, move.value third])) :
    move.Agrees move.value move.law.holds machine twin (builtin.apply call arguments)
      (builtin.apply call (arguments.map move.value)) := by
  refine counted arity fun three => ?_
  rcases arguments with _ | ⟨first, _ | ⟨second, _ | ⟨third, _ | _⟩⟩⟩ <;> cases three
  exact body first second third (known third (by simp))

theorem wrongCount (name expected : String) (arguments : List Value) :
    move.Agrees move.value move.law.holds machine twin
      (Eval.lift (Library.wrongCount name expected arguments.length))
      (Eval.lift (Library.wrongCount name expected (arguments.map move.value).length)) := by
  rw [List.length_map]
  exact .throw _

theorem apply (calls : ∀ callee arguments machine twin, move.law.holds machine callee →
      move.KnowsAll machine arguments → move.Agrees move.value move.law.holds machine twin (call callee arguments)
        (call (move.value callee) (arguments.map move.value)))
    (known : move.KnowsAll machine arguments) :
    move.Agrees move.value move.law.holds machine twin (builtin.apply call arguments)
      (builtin.apply call (arguments.map move.value)) := by
  have faults : move.law.AllowsFaults := fun fault => move.fails _
  cases builtin with
  | len => exact takingOne rfl known fun value _ => len value
  | sum | average | least | greatest =>
      exact takingOne rfl known fun values _ =>
        lift (aggregateValue_value _ values) (Yields.aggregateValue faults _ values)
  | returns =>
      exact takingOne rfl known fun values _ => lift (returns_value values) (Yields.returns faults values)
  | volatility =>
      exact takingOne rfl known fun values _ => lift (volatility_value values) (Yields.volatility faults values)
  | typeOf =>
      refine takingOne rfl known fun value _ => ?_
      change move.Agrees _ _ _ _ (Pure.pure _) (Pure.pure (Value.text (move.value value).kindName))
      rw [kindName_value]
      exact .plain _ rfl
  | columns => exact takingOne rfl known fun table _ => lift (columns_value table) (Yields.columns table)
  | loadCsv => exact takingOne rfl known fun path _ => loadCsv path
  | readText => exact takingOne rfl known fun path _ => readText path
  | append =>
      exact takingTwo rfl known fun items item knownItems knownItem =>
        lift (append_value items item) (Yields.append items item knownItems knownItem)
  | concat =>
      exact takingTwo rfl known fun first second knownFirst knownSecond =>
        lift (concat_value first second) (Yields.concat first second knownFirst knownSecond)
  | aggregate =>
      exact takingTwo rfl known fun values operation _ _ =>
        lift (aggregate_value values operation) (Yields.aggregate faults values operation)
  | map => exact takingTwo rfl known fun items function => map calls items function
  | filter => exact takingTwo rfl known fun items function => filter calls items function
  | tableJoin =>
      exact takingTwo rfl known fun left right knownLeft _ =>
        lift (tableJoin_value left right) (Yields.tableJoin left right knownLeft)
  | saveCsv => exact takingTwo rfl known fun table path _ _ => saveCsv table path
  | writeText => exact takingTwo rfl known fun path value _ _ => writeText path value
  | tableFilter => exact takingThree rfl known (tableFilter calls)
  | columnApply => exact takingThree rfl known (columnApply calls)
  | range => exact lift (range_values arguments) (Yields.range faults arguments)
  | display => exact display arguments known
  | raise => exact raise arguments
  | valuationModel => exact valuationModel
  | reduce =>
      rcases arguments with _ | ⟨items, _ | ⟨function, _ | ⟨initial, _ | ⟨more, rest⟩⟩⟩⟩
      · exact wrongCount _ _ []
      · exact wrongCount _ _ [items]
      · exact reduce calls items function none (known items (by simp)) (known function (by simp))
          fun _ none => by cases none
      · exact reduce calls items function (some initial) (known items (by simp)) (known function (by simp))
          fun value same => by
            cases same
            exact known initial (by simp)
      · exact wrongCount _ _ (items :: function :: initial :: more :: rest)
  | assertion =>
      rcases arguments with _ | ⟨condition, _ | ⟨message, _ | ⟨more, rest⟩⟩⟩
      · exact wrongCount _ _ []
      · exact assertion condition none
      · exact assertion condition (some message)
      · exact wrongCount _ _ (condition :: message :: more :: rest)

end Apply

end Agrees

end Fiscal.Translation
