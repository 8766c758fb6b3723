import Fiscal.Csv.Table
import Fiscal.Proofs.Scope.Binding

set_option autoImplicit false

namespace Fiscal

namespace Table

variable {grid : Table}

theorem names_keepRows (grid : Table) (mask : List Bool) : (grid.keepRows mask).names = grid.columns.names := by
  rw [keepRows, Named.names, Named.names, List.map_map]
  rfl

theorem even_iff : grid.isEven = true ↔ ∀ column ∈ grid.columns, column.2.length = grid.rowCount := by
  simp [isEven]

theorem build_wellFormed {columns : Named (List Float)} (distinct : columns.names.Nodup)
    (built : build columns = .ok grid) : grid.WellFormed := by
  unfold build at built
  dsimp only at built
  split at built
  · rename_i even
    cases built
    have lengths := even_iff.mp even
    exact ⟨distinct, fun first one second other => (lengths first one).trans (lengths second other).symm⟩
  · cases built

structure Full (grid : Table) : Prop where
  columns : ∀ column ∈ grid.columns, column.2.length = grid.rowCount
  cells : ∀ index < grid.rowCount, ∀ column ∈ grid.columns, ∃ cell, column.2[index]? = some cell
  rows : ∀ index < grid.rowCount, (grid.row index).names = grid.columns.names

theorem WellFormed.length (wellFormed : grid.WellFormed) :
    ∀ column ∈ grid.columns, column.2.length = grid.rowCount := by
  obtain ⟨columns⟩ := grid
  intro column member
  cases columns with
  | nil => cases member
  | cons first rest => exact wellFormed.2 column member first List.mem_cons_self

theorem names_row (index : Nat) (columns : Named (List Float))
    (cells : ∀ column ∈ columns, ∃ cell, column.2[index]? = some cell) :
    (row ⟨columns⟩ index).names = columns.names := by
  induction columns with
  | nil => rfl
  | cons first rest ih =>
      obtain ⟨⟨cell, found⟩, others⟩ := List.forall_mem_cons.mp cells
      have later := ih others
      unfold row at later ⊢
      rw [List.filterMap_cons, found]
      exact congrArg (first.1 :: ·) later

theorem WellFormed.full (wellFormed : grid.WellFormed) : grid.Full := by
  have lengths := wellFormed.length
  have cells : ∀ index < grid.rowCount, ∀ column ∈ grid.columns, ∃ cell, column.2[index]? = some cell := by
    intro index bound column member
    rw [← lengths column member] at bound
    exact ⟨column.2[index], List.getElem?_eq_getElem bound⟩
  exact ⟨lengths, cells, fun index bound => names_row index grid.columns (cells index bound)⟩

end Table

namespace Csv

theorem readColumns_distinct (path : String) (entries : List (String × List String))
    (columns read : Named (List Float)) (distinct : columns.names.Nodup)
    (ran : readColumns path columns entries = .ok read) : read.names.Nodup := by
  induction entries generalizing columns with
  | nil =>
      cases ran
      exact distinct
  | cons entry rest ih =>
      rw [readColumns] at ran
      split at ran
      · cases ran
      · cases numbers : readColumn entry.2 with
        | error fault =>
            rw [numbers] at ran
            cases ran
        | ok cells =>
            rw [numbers] at ran
            exact ih _ (Named.nodup_put columns _ cells distinct) ran

theorem read_distinct {path text : String} {columns : Named (List Float)} (found : read path text = .ok columns) :
    columns.names.Nodup := by
  unfold read at found
  cases parsed : records text with
  | error fault =>
      rw [parsed] at found
      cases found
  | ok rows =>
      rw [parsed] at found
      cases rows with
      | nil =>
          cases found
          exact .nil
      | cons heading rows => exact readColumns_distinct path _ [] columns .nil found

end Csv

end Fiscal
