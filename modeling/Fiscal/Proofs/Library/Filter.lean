import Fiscal.Machine.Run
import Fiscal.Proofs.Machine.Moves
import Fiscal.Proofs.Value.Table
import Mathlib.Data.List.Forall2

set_option autoImplicit false

namespace Fiscal

section Places

variable {α β : Type}

def places (mask : List Bool) : List Nat := (List.range mask.length).filter fun index => mask[index]?.any id

theorem places_cons (keep : Bool) (mask : List Bool) :
    places (keep :: mask) = (if keep then [0] else []) ++ (places mask).map Nat.succ := by
  rw [places, List.length_cons, List.range_succ_eq_map, List.filter_cons, List.filter_map]
  cases keep <;> rfl

theorem places_lt (mask : List Bool) : ∀ place ∈ places mask, place < mask.length :=
  fun _ member => List.mem_range.mp (List.mem_filter.mp member).1

theorem marked_places (items : List α) (mask : List Bool) (fits : items.length = mask.length) :
    Library.marked items mask = (places mask).filterMap (items[·]?) := by
  induction items generalizing mask with
  | nil =>
      cases mask with
      | nil => rfl
      | cons => cases fits
  | cons item items ih =>
      cases mask with
      | nil => cases fits
      | cons keep mask =>
          have others := ih mask (Nat.succ.inj fits)
          rw [places_cons, List.filterMap_append, List.filterMap_map]
          change Library.marked (item :: items) (keep :: mask) = _ ++ (places mask).filterMap (items[·]?)
          rw [← others]
          cases keep <;> rfl

theorem getElem?_filterMap (found : α → Option β) (items : List α) (all : ∀ item ∈ items, (found item).isSome = true)
    (index : Nat) : (items.filterMap found)[index]? = items[index]?.bind found := by
  induction items generalizing index with
  | nil => rfl
  | cons item items ih =>
      obtain ⟨here, others⟩ := List.forall_mem_cons.mp all
      obtain ⟨value, same⟩ := Option.isSome_iff_exists.mp here
      rw [List.filterMap_cons, same]
      cases index with
      | zero => exact same.symm
      | succ index => exact ih others index

end Places

namespace Table

variable {grid : Table}

theorem get?_row (index : Nat) (columns : Named (List Float))
    (cells : ∀ column ∈ columns, ∃ cell, column.2[index]? = some cell) (name : String) :
    Named.get? (row ⟨columns⟩ index) name = (Named.get? columns name).bind (·[index]?) := by
  induction columns with
  | nil => rfl
  | cons first rest ih =>
      obtain ⟨⟨cell, found⟩, others⟩ := List.forall_mem_cons.mp cells
      have later := ih others
      unfold row at later ⊢
      rw [List.filterMap_cons, found]
      change (if first.1 = name then some cell else _) = (if first.1 = name then some first.2 else _).bind _
      by_cases same : first.1 = name
      · rw [if_pos same, if_pos same]
        exact found.symm
      · rw [if_neg same, if_neg same]
        exact later

theorem keepRows_places (wellFormed : grid.WellFormed) {mask : List Bool} (fits : mask.length = grid.rowCount) :
    grid.keepRows mask = grid.columns.map fun column => (column.1, (places mask).filterMap (column.2[·]?)) :=
  List.map_congr_left fun column member =>
    congrArg (column.1, ·) (marked_places column.2 mask ((wellFormed.length column member).trans fits.symm))

theorem length_rows (grid : Table) : grid.rows.length = grid.rowCount := by
  rw [rows, List.length_map, List.length_range]

theorem build_of_wellFormed (wellFormed : grid.WellFormed) : build grid.columns = .ok grid :=
  if_pos (even_iff.mpr wellFormed.length)

section Kept

variable (wellFormed : grid.WellFormed) {mask : List Bool} (fits : mask.length = grid.rowCount)

include wellFormed fits

theorem cell_of_place (column : String × List Float) (member : column ∈ grid.columns) :
    ∀ place ∈ places mask, (column.2[place]?).isSome = true := by
  intro place set
  have within : place < grid.rowCount := fits ▸ places_lt mask place set
  obtain ⟨cell, found⟩ := wellFormed.full.cells place within column member
  exact Option.isSome_iff_exists.mpr ⟨cell, found⟩

theorem length_kept (column : String × List Float) (member : column ∈ grid.keepRows mask) :
    column.2.length = (places mask).length := by
  rw [keepRows_places wellFormed fits] at member
  obtain ⟨whole, among, rfl⟩ := List.mem_map.mp member
  rw [List.length_filterMap_eq_countP]
  exact List.countP_eq_length.mpr (cell_of_place wellFormed fits whole among)

theorem kept_wellFormed : WellFormed ⟨grid.keepRows mask⟩ := by
  refine ⟨?_, fun first one second other => ?_⟩
  · exact (names_keepRows grid mask).symm ▸ wellFormed.1
  · exact (length_kept wellFormed fits first one).trans (length_kept wellFormed fits second other).symm

theorem kept_row {index place : Nat} (set : (places mask)[index]? = some place) :
    row ⟨grid.keepRows mask⟩ index = grid.row place := by
  rw [row, keepRows_places wellFormed fits, List.filterMap_map]
  refine List.filterMap_congr fun column member => ?_
  change Option.map _ ((places mask).filterMap (column.2[·]?))[index]? = _
  rw [getElem?_filterMap _ _ (cell_of_place wellFormed fits column member), set]
  rfl

theorem rows_kept (some : grid.columns ≠ []) : rows ⟨grid.keepRows mask⟩ = (places mask).map grid.row := by
  have count : rowCount ⟨grid.keepRows mask⟩ = (places mask).length := by
    obtain ⟨first, rest, split⟩ := List.exists_cons_of_ne_nil some
    have here : (first.1, Library.marked first.2 mask) ∈ grid.keepRows mask :=
      List.mem_map_of_mem (split ▸ List.mem_cons_self)
    have lengths := (kept_wellFormed wellFormed fits).length _ here
    exact lengths.symm.trans (length_kept wellFormed fits _ here)
  refine List.ext_getElem? fun index => ?_
  rw [rows, List.getElem?_map, List.getElem?_map, count]
  by_cases within : index < (places mask).length
  · have set := List.getElem?_eq_getElem within
    rw [List.getElem?_range within, set]
    exact congrArg Option.some (kept_row wellFormed fits set)
  · have beyond := Nat.le_of_not_lt within
    rw [List.getElem?_eq_none (by simpa using beyond), List.getElem?_eq_none beyond]
    rfl

end Kept

theorem cells_of_rows (wellFormed : grid.WellFormed) {name : String} {cells : List Float}
    (found : grid.columns.get? name = some cells) :
    List.Forall₂ (fun row x => Named.get? row name = some x) grid.rows cells := by
  have length : cells.length = grid.rowCount := wellFormed.length _ (Named.mem_of_get? _ _ _ found)
  refine List.forall₂_iff_get.mpr ⟨?_, fun index one two => ?_⟩
  · rw [length_rows, length]
  · have within : index < grid.rowCount := length ▸ two
    have cell := get?_row index grid.columns (wellFormed.full.cells index within) name
    rw [found] at cell
    simpa [rows] using cell.trans (List.getElem?_eq_getElem two)

end Table

theorem Eval.bind_error_iff {α β : Type} {machine after : Machine} (action : Eval α) (next : α → Eval β)
    (failure : Failure) :
    (action >>= next) machine = .error failure after ↔
      action machine = .error failure after ∨
        ∃ value middle, action machine = .ok value middle ∧ next value middle = .error failure after := by
  change EStateM.bind action next machine = _ ↔ _
  unfold EStateM.bind
  cases action machine with
  | ok value middle => simp
  | error failed middle => simp

section Answers

variable (call : Value → List Value → Eval Value) (accept : Value) (column : String)

inductive Answers : List (Named Float) → Machine → List Value → Machine → Prop where
  | none (machine : Machine) : Answers [] machine [] machine
  | next (row : Named Float) (rows : List (Named Float)) (x : Float) (machine middle after : Machine) (answer : Value)
      (answers : List Value) (cell : row.get? column = some x)
      (answered : call accept [.number x] machine = .ok answer middle) (others : Answers rows middle answers after) :
      Answers (row :: rows) machine (answer :: answers) after

inductive Fails : List (Named Float) → Machine → Failure → Machine → Prop where
  | here (row : Named Float) (rows : List (Named Float)) (x : Float) (machine after : Machine) (failure : Failure)
      (cell : row.get? column = some x) (failed : call accept [.number x] machine = .error failure after) :
      Fails (row :: rows) machine failure after
  | later (row : Named Float) (rows : List (Named Float)) (x : Float) (machine middle after : Machine) (answer : Value)
      (failure : Failure) (cell : row.get? column = some x)
      (answered : call accept [.number x] machine = .ok answer middle) (others : Fails rows middle failure after) :
      Fails (row :: rows) machine failure after

variable {call accept column} {rows : List (Named Float)} {cells : List Float} {machine after : Machine}

theorem acceptItems_ok (here : List.Forall₂ (fun row x => Named.get? row column = some x) rows cells)
    {mask : List Bool} (ran : Library.acceptItems call accept (cells.map .number) machine = .ok mask after) :
    ∃ answers, Answers call accept column rows machine answers after ∧ mask = answers.map Value.isTruthy ∧
      answers.length = rows.length := by
  induction here generalizing machine mask with
  | nil =>
      cases ran
      exact ⟨[], .none _, rfl, rfl⟩
  | @cons row x rows cells cell _ ih =>
      obtain ⟨answer, middle, answered, rest⟩ := Eval.bind_ok ran
      obtain ⟨marks, last, others, ended⟩ := Eval.bind_ok rest
      cases ended
      obtain ⟨answers, asked, rfl, count⟩ := ih others
      exact ⟨answer :: answers, .next _ _ x _ _ _ _ _ cell answered asked, rfl, congrArg (· + 1) count⟩

theorem acceptItems_error_iff (here : List.Forall₂ (fun row x => Named.get? row column = some x) rows cells)
    (failure : Failure) :
    Library.acceptItems call accept (cells.map .number) machine = .error failure after ↔
      Fails call accept column rows machine failure after := by
  induction here generalizing machine with
  | nil =>
      constructor
      · intro ran
        cases ran
      · intro failed
        cases failed
  | @cons row x rows cells cell _ ih =>
      rw [List.map_cons, Library.acceptItems, Eval.bind_error_iff]
      constructor
      · rintro (failed | ⟨answer, middle, answered, rest⟩)
        · exact .here _ _ x _ _ _ cell failed
        · rcases (Eval.bind_error_iff _ _ _).mp rest with others | ⟨_, _, _, ended⟩
          · exact .later _ _ x _ _ _ _ _ cell answered (ih.mp others)
          · cases ended
      · intro failed
        cases failed with
        | here _ _ y _ _ _ known failed =>
            cases cell.symm.trans known
            exact .inl failed
        | later _ _ y _ middle _ answer _ known answered others =>
            cases cell.symm.trans known
            exact .inr ⟨answer, middle, answered, (Eval.bind_error_iff _ _ _).mpr (.inl (ih.mpr others))⟩

end Answers

-- A table filter that succeeds has asked its predicate about every row once, in their order, and gives a table of the
-- same columns with the rows for which the answer was truthy, in their order and whole. It fails just if the predicate
-- fails on a row, in the same way, and asks no further.
theorem table_filter_keeps_rows (call : Value → List Value → Eval Value) (grid : Table) (wellFormed : grid.WellFormed)
    (column : String) (known : column ∈ grid.columns.names) (accept : Value) (callable : accept.isCallable = true)
    (machine : Machine) :
    let filtered := Builtin.tableFilter.apply call [.table grid, .text column, accept] machine
    (∀ value after, filtered = .ok value after →
      ∃ answers kept, Answers call accept column grid.rows machine answers after ∧ value = .table kept ∧
        kept.WellFormed ∧ kept.columns.names = grid.columns.names ∧
        kept.rows =
          ((List.range grid.rowCount).filter fun index => answers[index]?.any Value.isTruthy).map grid.row) ∧
    ∀ failure after, filtered = .error failure after ↔
      Fails call accept column grid.rows machine failure after := by
  intro filtered
  obtain ⟨cells, found⟩ := Option.isSome_iff_exists.mp ((Named.get?_isSome_iff _ _).mpr known)
  have here := Table.cells_of_rows wellFormed found
  have ran : filtered = (Library.acceptItems call accept (cells.map Value.number) >>= fun mask => do
      return Value.table (← Eval.lift (Table.build (grid.keepRows mask)))) machine := by
    change (Eval.lift (accept.asCallable "table_filter() predicate") >>= fun accept =>
      Eval.lift (grid.column column) >>= _ : Eval Value) machine = _
    rw [Value.asCallable, if_pos callable, Table.column, found]
    rfl
  -- With a mark for every row what is kept is a table, so that only the predicate can fail.
  have built (mask : List Bool) (answers : List Value) (marks : mask = answers.map Value.isTruthy)
      (count : answers.length = grid.rows.length) :
      mask.length = grid.rowCount ∧ Table.build (grid.keepRows mask) = .ok ⟨grid.keepRows mask⟩ := by
    have fits : mask.length = grid.rowCount := by rw [marks, List.length_map, count, Table.length_rows]
    exact ⟨fits, Table.build_of_wellFormed (Table.kept_wellFormed wellFormed fits)⟩
  refine ⟨fun value after succeeded => ?_, fun failure after => ?_⟩
  · obtain ⟨mask, middle, asked, rest⟩ := Eval.bind_ok (ran ▸ succeeded)
    obtain ⟨answers, answered, marks, count⟩ := acceptItems_ok here asked
    obtain ⟨fits, kept⟩ := built mask answers marks count
    rw [kept] at rest
    cases rest
    refine ⟨answers, _, answered, rfl, Table.kept_wellFormed wellFormed fits, Table.names_keepRows grid mask, ?_⟩
    have some : grid.columns ≠ [] := by
      rintro empty
      rw [empty] at known
      cases known
    rw [Table.rows_kept wellFormed fits some, places, fits]
    refine congrArg (List.map _) (List.filter_congr fun index _ => ?_)
    rw [marks, List.getElem?_map, Option.any_map]
    rfl
  · rw [ran, Eval.bind_error_iff, acceptItems_error_iff here]
    refine or_iff_left ?_
    rintro ⟨mask, middle, asked, rest⟩
    obtain ⟨answers, _, marks, count⟩ := acceptItems_ok here asked
    rw [(built mask answers marks count).2] at rest
    cases rest

theorem filtered_such (result : EStateM.Result Failure Machine Value) (test : Table → Machine → Bool)
    (found : (match result with | .ok (.table kept) after => test kept after | _ => false) = true) :
    ∃ kept after, result = .ok (.table kept) after ∧ test kept after = true := by
  split at found
  · exact ⟨_, _, rfl, found⟩
  · cases found

theorem rows_printed_and_filtered :
    let call (function : Value) (arguments : List Value) := (Evaluator.ofDepth 9 9).call function arguments none
    let grid : Table := ⟨[("a", [0, 2, 3]), ("b", [4, 5, 6])]⟩
    let machine := Machine.start .standard ⟨[]⟩ "2024-02-29"
    let shown (cell : String × Float) : String := cell.1 ++ Number.display cell.2
    ∃ answers kept after, Answers call (.builtin .display) "a" grid.rows machine answers after ∧
      Builtin.tableFilter.apply call [.table grid, .text "a", .builtin .display] machine = .ok (.table kept) after ∧
      after.output = ["3", "2", "0"] ∧ kept.rows.map (·.map shown) = [["a2", "b5"], ["a3", "b6"]] := by
  intro call grid machine shown
  have wellFormed : grid.WellFormed := ⟨by decide, by decide +kernel⟩
  obtain ⟨kept, after, ran, facts⟩ := filtered_such
    (Builtin.tableFilter.apply call [.table grid, .text "a", .builtin .display] machine)
    (fun kept after => after.output == ["3", "2", "0"] && kept.rows.map (·.map shown) == [["a2", "b5"], ["a3", "b6"]])
    (by decide +kernel)
  obtain ⟨printed, rows⟩ := Bool.and_eq_true_iff.mp facts
  obtain ⟨filtered, _⟩ := table_filter_keeps_rows call grid wellFormed "a" (by decide) (.builtin .display) rfl machine
  obtain ⟨answers, _, answered, _⟩ := filtered _ _ ran
  exact ⟨answers, kept, after, answered, ran, eq_of_beq printed, eq_of_beq rows⟩

end Fiscal
