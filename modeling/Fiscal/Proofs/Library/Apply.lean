import Fiscal.Proofs.Value.Coercion

set_option autoImplicit false

namespace Fiscal

open Machine

namespace Law

def AllowsFaults (law : Law) : Prop := ∀ fault, law.fails (.fault fault)

end Law

namespace Yields

variable {law : Law} {machine : Machine}

theorem anyFault {α : Type} (faults : law.AllowsFaults) (computed : Except Fault α) :
    Yields law.fails (fun _ => True) (Fault.lift computed) :=
  ofFault (fun _ _ => trivial) fun fault _ => faults fault

theorem readTable (faults : law.AllowsFaults) (path text : String) :
    Yields law.fails (fun columns => law.Distinct columns.names) (Fault.lift (Csv.read path text)) :=
  ofFault (fun _ found => .inl (Csv.read_distinct found)) fun fault _ => faults fault

theorem wrongCount {α : Type} {good : α → Prop} (name expected : String) (found : Nat) :
    Yields law.fails good (Library.wrongCount name expected found : Except Failure α) :=
  law.unplaced _

theorem length (ledgers : Ledgers) (value : Value) :
    Yields law.fails (fun _ => True) (Library.length ledgers value) := by
  cases value with
  | list | text | table | cashflow | ledger => exact trivial
  | _ => exact law.unplaced _

theorem aggregateNumber (faults : law.AllowsFaults) (aggregate : Library.Aggregate)
    (numbers : List Float) : Yields law.fails (fun _ => True) (aggregate.compute numbers) := by
  unfold Library.Aggregate.compute
  split
  · exact anyFault faults _
  · exact law.unplaced _
  · exact (anyFault faults _).bind fun _ _ => trivial
  · exact trivial
  · exact trivial

theorem aggregateValue (faults : law.AllowsFaults) (aggregate : Library.Aggregate) (values : Value) :
    Yields law.fails (law.holds machine) (aggregate.apply values) := by
  refine (asNumbers _ values).bind fun numbers _ => ?_
  exact (aggregateNumber faults aggregate numbers).bind fun _ _ => law.simple machine _ rfl

theorem aggregate (faults : law.AllowsFaults) (values operation : Value) :
    Yields law.fails (law.holds machine) (Library.aggregate values operation) := by
  refine (asText _ operation).bind fun word _ => ?_
  dsimp only
  cases Library.Aggregate.ofOperation? (Text.upper word) with
  | some aggregate => exact aggregateValue faults aggregate values
  | none => exact law.unplaced _

theorem append (items item : Value) (heldItems : law.holds machine items)
    (heldItem : law.holds machine item) :
    Yields law.fails (law.holds machine) (Library.append items item) := by
  refine (asList _ items heldItems).bind fun listed held => ?_
  refine (law.list machine _).mpr fun value member => ?_
  rcases List.mem_append.mp member with old | new
  · exact held value old
  · cases List.mem_singleton.mp new
    exact heldItem

theorem concat (first second : Value) (heldFirst : law.holds machine first)
    (heldSecond : law.holds machine second) :
    Yields law.fails (law.holds machine) (Library.concat first second) := by
  unfold Library.concat
  split
  · exact law.simple machine _ rfl
  · refine (asList _ first heldFirst).bind fun front heldFront => ?_
    refine (asList _ second heldSecond).bind fun back heldBack => ?_
    refine (law.list machine _).mpr fun value member => ?_
    rcases List.mem_append.mp member with left | right
    · exact heldFront value left
    · exact heldBack value right

theorem wholes (what : String) (values : List Value) :
    Yields law.fails (fun _ => True) (Library.wholes what values) := by
  induction values with
  | nil => exact trivial
  | cons value rest ih => exact (asInt what value).bind fun _ _ => ih.bind fun _ _ => trivial

theorem progression (faults : law.AllowsFaults) (first stop step : Int) :
    Yields law.fails (law.holds machine) (Library.progression first stop step) := by
  unfold Library.progression
  split
  · exact law.unplaced _
  · dsimp only
    split
    · exact faults _
    · split
      · exact faults _
      · exact law.holds_numbers machine _

theorem range (faults : law.AllowsFaults) (bounds : List Value) :
    Yields law.fails (law.holds machine) (Library.range bounds) := by
  unfold Library.range
  by_cases counted : (bounds.length < 1 || 3 < bounds.length) = true
  · rw [if_pos counted]
    exact wrongCount _ _ _
  · rw [if_neg counted]
    refine (wholes _ bounds).bind fun numbers _ => ?_
    split
    · exact progression faults _ _ _
    · exact progression faults _ _ _
    · exact progression faults _ _ _
    · exact wrongCount _ _ _

theorem returns (faults : law.AllowsFaults) (values : Value) :
    Yields law.fails (law.holds machine) (Library.returns values) := by
  refine (asNumbers _ values).bind fun series _ => ?_
  exact (anyFault faults _).bind fun _ _ => law.holds_numbers machine _

theorem volatility (faults : law.AllowsFaults) (values : Value) :
    Yields law.fails (law.holds machine) (Library.volatility values) := by
  refine (asNumbers _ values).bind fun series _ => ?_
  exact (anyFault faults _).bind fun _ _ => law.simple machine _ rfl

theorem tableJoin (left right : Value) (heldLeft : law.holds machine left) :
    Yields law.fails (law.holds machine) (Library.tableJoin left right) := by
  refine (asTable _ left).bind fun first same => ?_
  refine (asTable _ right).bind fun second _ => ?_
  have built : Yields law.fails (fun grid => law.holds machine (.table grid))
      (Table.build (first.columns.putAll second.columns)) :=
    buildTable _ ((Law.distinct_columns heldLeft same).putAll _)
  exact built.bind fun _ held => held

theorem columns (table : Value) :
    Yields law.fails (law.holds machine) (Library.columns table) := by
  refine (asTable _ table).bind fun grid _ => ?_
  exact law.holds_texts machine _

end Yields

namespace Law.Follows

variable {law : Law} {machine : Machine}

section Callbacks

variable {call other : Value → List Value → Eval Value}
  (calls : ∀ callee arguments machine, law.holds machine callee → law.HoldsAll machine arguments →
    law.Follows false law.holds machine (call callee arguments) (other callee arguments))

include calls

theorem mapItems (function : Value) (items : List Value) (callee : law.holds machine function)
    (held : law.HoldsAll machine items) :
    law.Follows false law.HoldsAll machine (Library.mapItems call function items)
      (Library.mapItems other function items) := by
  induction items generalizing machine with
  | nil => exact .pure _ fun _ value member => by cases member
  | cons item rest ih =>
      obtain ⟨heldItem, heldRest⟩ := List.forall_mem_cons.mp held
      have one : law.HoldsAll machine [item] := fun value member => by
        cases List.mem_singleton.mp member
        exact heldItem
      refine (calls function [item] machine callee one).bind fun result after kept heldResult => ?_
      refine (ih (kept _ callee) fun value member => kept _ (heldRest value member)).bind
        fun results last keptAgain heldResults => ?_
      exact .pure _ fun _ => List.forall_mem_cons.mpr ⟨keptAgain _ heldResult, heldResults⟩

theorem acceptItems (function : Value) (items : List Value) (callee : law.holds machine function)
    (held : law.HoldsAll machine items) :
    law.Follows false Any machine (Library.acceptItems call function items)
      (Library.acceptItems other function items) := by
  induction items generalizing machine with
  | nil => exact .pure _ fun _ => trivial
  | cons item rest ih =>
      obtain ⟨heldItem, heldRest⟩ := List.forall_mem_cons.mp held
      have one : law.HoldsAll machine [item] := fun value member => by
        cases List.mem_singleton.mp member
        exact heldItem
      refine (calls function [item] machine callee one).bind fun result after kept _ => ?_
      refine (ih (kept _ callee) fun value member => kept _ (heldRest value member)).bind
        fun results last _ _ => ?_
      exact .pure _ fun _ => trivial

theorem foldItems (function joined : Value) (items : List Value)
    (callee : law.holds machine function) (heldJoined : law.holds machine joined)
    (held : law.HoldsAll machine items) :
    law.Follows false law.holds machine (Library.foldItems call function joined items)
      (Library.foldItems other function joined items) := by
  induction items generalizing machine joined with
  | nil => exact .pure _ fun _ => heldJoined
  | cons item rest ih =>
      obtain ⟨heldItem, heldRest⟩ := List.forall_mem_cons.mp held
      have both : law.HoldsAll machine [joined, item] := by
        refine List.forall_mem_cons.mpr ⟨heldJoined, fun value member => ?_⟩
        cases List.mem_singleton.mp member
        exact heldItem
      refine (calls function [joined, item] machine callee both).bind fun next after kept heldNext => ?_
      exact ih next (kept _ callee) heldNext fun value member => kept _ (heldRest value member)

theorem map (items function : Value) (heldItems : law.holds machine items)
    (heldFunction : law.holds machine function) :
    law.Follows false law.holds machine (Library.map call items function)
      (Library.map other items function) := by
  refine (asCallable _ function heldFunction).bind fun callee after kept held => ?_
  refine (asList _ items (kept _ heldItems)).bind
    fun listed last keptAgain heldListed => ?_
  refine (mapItems calls callee listed (keptAgain _ held) heldListed).bind
    fun results final _ heldResults => ?_
  exact .pure _ fun _ => (law.list final results).mpr heldResults

theorem filter (items function : Value) (heldItems : law.holds machine items)
    (heldFunction : law.holds machine function) :
    law.Follows false law.holds machine (Library.filter call items function)
      (Library.filter other items function) := by
  refine (asCallable _ function heldFunction).bind fun callee after kept held => ?_
  refine (asList _ items (kept _ heldItems)).bind
    fun listed last keptAgain heldListed => ?_
  refine (acceptItems calls callee listed (keptAgain _ held) heldListed).bind
    fun marks final keptLast _ => ?_
  refine .pure _ fun _ => (law.list final _).mpr fun value member => ?_
  obtain ⟨pair, chosen, rfl⟩ := List.mem_map.mp member
  exact keptLast _ (heldListed pair.1 (List.of_mem_zip (List.mem_filter.mp chosen).1).1)

theorem reduceFrom (function : Value) (initial : Option Value) (items : List Value)
    (callee : law.holds machine function) (started : ∀ value, initial = some value → law.holds machine value)
    (held : law.HoldsAll machine items) :
    law.Follows false law.holds machine (Library.reduceFrom call function initial items)
      (Library.reduceFrom other function initial items) := by
  cases initial with
  | some value => exact foldItems calls function value items callee (started value rfl) held
  | none =>
      cases items with
      | nil => exact .throw _ (law.unplaced _)
      | cons first rest =>
          obtain ⟨heldFirst, heldRest⟩ := List.forall_mem_cons.mp held
          exact foldItems calls function first rest callee heldFirst heldRest

theorem reduce (items function : Value) (initial : Option Value) (heldItems : law.holds machine items)
    (heldFunction : law.holds machine function)
    (started : ∀ value, initial = some value → law.holds machine value) :
    law.Follows false law.holds machine (Library.reduce call items function initial)
      (Library.reduce other items function initial) := by
  refine (asList _ items heldItems).bind fun listed after kept heldListed => ?_
  refine (asCallable _ function (kept _ heldFunction)).bind
    fun callee last keptAgain held => ?_
  exact reduceFrom calls callee initial listed held
    (fun value same => keptAgain _ (kept _ (started value same)))
    fun value member => keptAgain _ (heldListed value member)

theorem tableFilter (table column accept : Value) (heldTable : law.holds machine table)
    (heldAccept : law.holds machine accept) :
    law.Follows false law.holds machine (Library.tableFilter call table column accept)
      (Library.tableFilter other table column accept) := by
  refine (lifted (Yields.asTable _ table)).bind fun grid _ kept same => ?_
  refine (asCallable _ accept (kept _ heldAccept)).bind
    fun callee _ _ heldCallee => ?_
  refine (lifted (Yields.asText _ column)).bind fun name _ keptName _ => ?_
  refine (lifted (Yields.column grid name)).bind fun cells after keptCells _ => ?_
  have numbers : law.HoldsAll after (cells.map Value.number) :=
    (law.list after _).mp (law.holds_numbers after cells)
  refine (acceptItems calls callee _ (keptCells _ (keptName _ heldCallee)) numbers).bind
    fun mask _ _ _ => ?_
  have distinct : law.Distinct (grid.keepRows mask).names := by
    rw [Table.names_keepRows]
    exact distinct_columns heldTable same
  exact (buildTable _ distinct).bind fun _ _ _ held => .pure _ fun _ => held

theorem mapNumbers (what : String) (function : Value) (numbers : List Float)
    (callee : law.holds machine function) :
    law.Follows false Any machine (Library.mapNumbers call what function numbers)
      (Library.mapNumbers other what function numbers) := by
  induction numbers generalizing machine with
  | nil => exact .pure _ fun _ => trivial
  | cons x rest ih =>
      have one : law.HoldsAll machine [.number x] := fun value member => by
        cases List.mem_singleton.mp member
        exact law.simple machine _ rfl
      refine (calls function [.number x] machine callee one).bind fun result _ kept _ => ?_
      refine (lifted (Yields.asNumber what result)).bind fun _ _ keptAgain _ => ?_
      exact (ih (keptAgain _ (kept _ callee))).bind fun _ _ _ _ => .pure _ fun _ => trivial

theorem columnApply (table column function : Value) (heldTable : law.holds machine table)
    (heldFunction : law.holds machine function) :
    law.Follows false law.holds machine (Library.columnApply call table column function)
      (Library.columnApply other table column function) := by
  refine (lifted (Yields.asTable _ table)).bind fun grid _ kept same => ?_
  refine (asCallable _ function (kept _ heldFunction)).bind
    fun callee _ _ heldCallee => ?_
  refine (lifted (Yields.asText _ column)).bind fun name _ keptName _ => ?_
  refine (lifted (Yields.column grid name)).bind fun cells _ keptCells _ => ?_
  refine (mapNumbers calls _ callee cells (keptCells _ (keptName _ heldCallee))).bind
    fun results _ _ _ => ?_
  exact (buildTable _ ((distinct_columns heldTable same).put _ _)).bind fun _ _ _ held => .pure _ fun _ => held

end Callbacks

end Law.Follows

namespace Law.Follows

variable {law : Law} {declares : Bool} {machine : Machine}

theorem liftFault {α : Type} (faults : law.AllowsFaults) (computed : Except Fault α) :
    law.Follows declares Any machine (Eval.liftFault computed) (Eval.liftFault computed) :=
  .lift (Yields.anyFault faults computed)

theorem len (value : Value) :
    law.Follows declares law.holds machine (Library.len value) (Library.len value) :=
  .get ((lifted (Yields.length _ value)).bind fun _ _ _ _ => .pure _ fun _ =>
    law.simple _ _ rfl)

theorem shownLine (values : List Value) :
    law.Follows declares Any machine (Library.shownLine values) (Library.shownLine values) :=
  .get (.pure _ fun _ => trivial)

theorem display (values : List Value) (held : law.HoldsAll machine values) :
    law.Follows declares law.holds machine (Library.display values) (Library.display values) := by
  refine (shownLine values).bind fun line _ kept _ => ?_
  refine (write line).bind fun _ after keptAgain _ => ?_
  refine .pure _ fun _ => ?_
  cases values with
  | nil => exact law.simple after _ rfl
  | cons first rest => exact keptAgain _ (kept _ (held first List.mem_cons_self))

theorem assertion (condition : Value) (message : Option Value) :
    law.Follows declares law.holds machine (Library.assertion condition message)
      (Library.assertion condition message) := by
  unfold Library.assertion
  by_cases passed : condition.isTruthy = true
  · rw [if_pos passed]
    exact .pure _ fun _ => law.simple machine _ rfl
  · rw [if_neg passed]
    cases message with
    | none => exact .throw _ (law.unplaced _)
    | some message => exact (shown message).bind fun _ _ _ _ => .throw _ (law.unplaced _)

theorem raise (values : List Value) :
    law.Follows declares law.holds machine (Library.raise values) (Library.raise values) :=
  (shownLine values).bind fun _ _ _ _ => .throw _ (law.unplaced _)

theorem numberOrZero (name : String) :
    law.Follows declares Any machine (Library.numberOrZero name) (Library.numberOrZero name) := by
  refine .get ?_
  split
  · exact .pure _ fun _ => trivial
  · exact .pure _ fun _ => trivial

theorem valuationModel :
    law.Follows declares law.holds machine Library.valuationModel Library.valuationModel := by
  refine (numberOrZero "rate").bind fun rate _ _ _ => ?_
  refine (numberOrZero "growth").bind fun growth _ _ _ => ?_
  exact (write _).bind fun _ _ _ _ => .pure _ fun _ => law.simple _ _ rfl

theorem loadCsv (faults : law.AllowsFaults) (path : Value) :
    law.Follows declares law.holds machine (Library.loadCsv path) (Library.loadCsv path) := by
  refine (lifted (Yields.asText _ path)).bind fun name _ _ _ => .get ?_
  refine (liftFault faults _).bind fun text _ _ _ => ?_
  refine (lifted (Yields.readTable faults name text)).bind fun columns _ _ distinct => ?_
  exact (buildTable _ distinct).bind fun _ _ _ held => .pure _ fun _ => held

theorem writeFile (faults : law.AllowsFaults) (path text : String) :
    law.Follows declares Any machine (Library.writeFile path text) (Library.writeFile path text) := by
  constructor
  · exact fun _ => .inl rfl
  · intro _
    change law.Ends declares Any machine ((Eval.liftFault (machine.files.write path text) >>=
      fun files => set { machine with files := files }) machine)
    cases machine.files.write path text with
    | ok files => exact ⟨.store _ machine files, trivial⟩
    | error fault => exact ⟨.rest _ _, faults fault⟩

theorem requireDirectory (faults : law.AllowsFaults) (path : String) :
    law.Follows declares Any machine (Library.requireDirectory path)
      (Library.requireDirectory path) := by
  refine .get ?_
  split
  · exact .pure _ fun _ => trivial
  · exact .throw _ (faults _)

theorem saveCsv (faults : law.AllowsFaults) (table path : Value) :
    law.Follows declares law.holds machine (Library.saveCsv table path)
      (Library.saveCsv table path) := by
  refine (lifted (Yields.asTable _ table)).bind fun grid _ _ _ => ?_
  refine (lifted (Yields.asText _ path)).bind fun name _ _ _ => ?_
  refine (requireDirectory faults name).bind fun _ _ _ _ => ?_
  exact (writeFile faults name _).bind fun _ _ _ _ => .pure _ fun _ => law.simple _ _ rfl

theorem readText (faults : law.AllowsFaults) (path : Value) :
    law.Follows declares law.holds machine (Library.readText path) (Library.readText path) := by
  refine (lifted (Yields.asText _ path)).bind fun name _ _ _ => .get ?_
  exact (liftFault faults _).bind fun _ _ _ _ => .pure _ fun _ => law.simple _ _ rfl

theorem writeText (faults : law.AllowsFaults) (path value : Value) :
    law.Follows declares law.holds machine (Library.writeText path value)
      (Library.writeText path value) := by
  refine (lifted (Yields.asText _ path)).bind fun name _ _ _ => ?_
  refine (shown value).bind fun text _ _ _ => ?_
  exact (writeFile faults _ text).bind fun _ _ _ _ => .pure _ fun _ => law.simple _ _ rfl

theorem apply (call other : Value → List Value → Eval Value) (faults : law.AllowsFaults)
    (calls : ∀ callee arguments machine, law.holds machine callee → law.HoldsAll machine arguments →
      law.Follows false law.holds machine (call callee arguments) (other callee arguments))
    (builtin : Builtin) (arguments : List Value) (held : law.HoldsAll machine arguments) :
    law.Follows false law.holds machine (builtin.apply call arguments)
      (builtin.apply other arguments) := by
  unfold Builtin.apply
  split
  all_goals try simp only [HoldsAll, List.forall_mem_cons] at held
  · exact len _
  · exact lift (Yields.aggregateValue faults .sum _)
  · exact lift (Yields.aggregateValue faults .average _)
  · exact lift (Yields.aggregateValue faults .least _)
  · exact lift (Yields.aggregateValue faults .greatest _)
  · exact lift (Yields.append _ _ held.1 held.2.1)
  · exact lift (Yields.concat _ _ held.1 held.2.1)
  · exact lift (Yields.range faults _)
  · exact lift (Yields.aggregate faults _ _)
  · exact map calls _ _ held.1 held.2.1
  · exact filter calls _ _ held.1 held.2.1
  · exact reduce calls _ _ none held.1 held.2.1 fun _ same => by cases same
  · exact reduce calls _ _ _ held.1 held.2.1 fun _ same => by
      cases same
      exact held.2.2.1
  · exact lift (Yields.wrongCount "REDUCE" _ _)
  · exact lift (Yields.returns faults _)
  · exact lift (Yields.volatility faults _)
  · exact display _ held
  · exact assertion _ none
  · exact assertion _ _
  · exact lift (Yields.wrongCount "ASSERT" _ _)
  · exact raise _
  · exact .pure _ fun _ => law.simple machine _ rfl
  · exact lift (Yields.columns _)
  · exact tableFilter calls _ _ _ held.1 held.2.2.1
  · exact lift (Yields.tableJoin _ _ held.1)
  · exact columnApply calls _ _ _ held.1 held.2.2.1
  · exact valuationModel
  · exact loadCsv faults _
  · exact saveCsv faults _ _
  · exact readText faults _
  · exact writeText faults _ _
  · exact lift (Yields.wrongCount _ _ _)

end Law.Follows

end Fiscal
