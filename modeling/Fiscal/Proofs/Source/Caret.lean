import Fiscal.Source.Diagnostic
import Mathlib.Data.List.Basic

set_option autoImplicit false

namespace Fiscal

theorem Text.length_padLeft (width : Nat) (text : String) : (padLeft width text).length = max width text.length := by
  rw [padLeft, String.length_append, String.length_ofList, List.length_replicate]
  omega

namespace Source.Diagnostic

def gutter (number : Nat) : String := Text.padLeft 3 (toString number) ++ " | "

def shownAt (number column : Nat) : Nat := (gutter number).length + (column - 1)

def margin (column : Nat) : List Char := [' ', ' ', ' ', ' ', '|', ' '] ++ List.replicate (column - 1) ' '

theorem digits_le_three (number : Nat) : (toString number).length ≤ 3 ↔ number < 1000 := by
  rw [Nat.toString_eq_ofList_toDigits, String.length_ofList]
  exact Nat.length_toDigits_le_iff (by decide) (by decide)

theorem length_gutter (number : Nat) : (gutter number).length = 6 + ((toString number).length - 3) := by
  rw [gutter, String.length_append, Text.length_padLeft]
  change max 3 _ + 3 = _
  omega

theorem length_margin (column : Nat) : (margin column).length = 6 + (column - 1) := by
  rw [margin, List.length_append, List.length_replicate]
  rfl

theorem caret_not_in_margin (column : Nat) : '^' ∉ margin column := by
  intro member
  rcases List.mem_append.mp member with bar | blank
  · revert bar
    decide
  · exact absurd (List.eq_of_mem_replicate blank) (by decide)

variable (span : Span) (line : String)

theorem sourceRow_shownAt (column : Nat) :
    (sourceRow span line).toList[shownAt span.start.line column]? = line.toList[column - 1]? := by
  change (gutter span.start.line ++ line).toList[_]? = _
  rw [String.toList_append, shownAt, ← String.length_toList, List.getElem?_append_right (Nat.le_add_right _ _),
    Nat.add_sub_cancel_left]

theorem caretRow_margin :
    (caretRow span line).toList = margin span.start.column ++ List.replicate (caretCount span line) '^' := by
  have bar : "    | ".toList = [' ', ' ', ' ', ' ', '|', ' '] := by decide +kernel
  simp only [caretRow, margin, bar, String.toList_append, String.toList_ofList]

theorem first_caret : (caretRow span line).toList.idxOf '^' = 6 + (span.start.column - 1) := by
  obtain ⟨more, some⟩ : ∃ more, caretCount span line = more + 1 :=
    ⟨_, (Nat.sub_add_cancel (Nat.le_max_left 1 _)).symm⟩
  rw [caretRow_margin, List.idxOf_append_of_notMem (caret_not_in_margin _), some, List.replicate_succ,
    List.idxOf_cons_self, length_margin, Nat.add_zero]

theorem carets_after_first :
    (caretRow span line).toList.drop ((caretRow span line).toList.idxOf '^') =
      List.replicate (caretCount span line) '^' := by
  rw [first_caret, caretRow_margin, ← length_margin, List.drop_left]

theorem render_rows (issue : Issue) :
    ∃ hints, (hints = "" ∨ ∃ rows, hints = "\n" ++ rows) ∧
      render ⟨issue, some span, some line⟩ =
        headline ⟨issue, some span, some line⟩ ++ "\n" ++ "  |" ++ "\n" ++ sourceRow span line ++ "\n" ++
          caretRow span line ++ hints := by
  have rows : render ⟨issue, some span, some line⟩ = String.intercalate "\n"
      (headline ⟨issue, some span, some line⟩ :: "  |" :: sourceRow span line :: caretRow span line ::
        issue.hints.map hintRow) := rfl
  rw [rows, String.intercalate_cons_cons, String.intercalate_cons_cons, String.intercalate_cons_cons]
  cases issue.hints.map hintRow with
  | nil =>
      refine ⟨"", .inl rfl, ?_⟩
      rw [String.intercalate_singleton, String.append_empty]
      simp only [String.append_assoc]
  | cons hint more =>
      refine ⟨"\n" ++ String.intercalate "\n" (hint :: more), .inr ⟨_, rfl⟩, ?_⟩
      rw [String.intercalate_cons_cons]
      simp only [String.append_assoc]

-- Below the row that shows the line there is a row with as many carets as the span has columns on the line, at least
-- one. The first stands where the line shows the column at which the span starts just if the number of the line has
-- no more than three digits, and otherwise further left by the digits it has more.
theorem carets_aligned_iff (issue : Issue) :
    let row := sourceRow span line
    let carets := (caretRow span line).toList
    let first := carets.idxOf '^'
    let column := span.start.column
    let shown := shownAt span.start.line
    (∃ hints, (hints = "" ∨ ∃ rows, hints = "\n" ++ rows) ∧
      render ⟨issue, some span, some line⟩ =
        headline ⟨issue, some span, some line⟩ ++ "\n" ++ "  |" ++ "\n" ++ row ++ "\n" ++ caretRow span line ++ hints) ∧
    (∀ other, row.toList[shown other]? = line.toList[other - 1]?) ∧
    (span.start.line = span.stop.line → carets.drop first = List.replicate (max 1 (span.stop.column - column)) '^') ∧
    (span.start.line ≠ span.stop.line → carets.drop first = List.replicate (max 1 (line.length + 1 - column)) '^') ∧
    (first = shown column ↔ span.start.line < 1000) ∧
    first + ((toString span.start.line).length - 3) = shown column := by
  intro row carets first column shown
  have place : shown column = first + ((toString span.start.line).length - 3) := by
    change (gutter span.start.line).length + (span.start.column - 1) = (caretRow span line).toList.idxOf '^' + _
    rw [length_gutter, first_caret]
    omega
  refine ⟨render_rows span line issue, sourceRow_shownAt span line, fun same => ?_, fun other => ?_, ?_, place.symm⟩
  · exact (carets_after_first span line).trans (by rw [caretCount, caretStop, if_pos same])
  · exact (carets_after_first span line).trans (by rw [caretCount, caretStop, if_neg other])
  · rw [place, ← digits_le_three]
    omega

-- The fifth column of line 1000 is marked one place too far left.
theorem caret_left_of_column :
    let span : Span := ⟨⟨1000, 5, 1003, none⟩, ⟨1000, 6, 1004, none⟩⟩
    let first := (caretRow span "LET = 1").toList.idxOf '^'
    (sourceRow span "LET = 1").toList[shownAt 1000 5]? = some '=' ∧ first + 1 = shownAt 1000 5 ∧
      (sourceRow span "LET = 1").toList[first]? = some ' ' := by
  intro span first
  obtain ⟨_, shows, _, _, _, apart⟩ := carets_aligned_iff span "LET = 1" .invalidTarget
  have fourth : (toString span.start.line).length - 3 = 1 := by decide +kernel
  exact ⟨shows 5, (congrArg (first + ·) fourth.symm).trans apart, by decide +kernel⟩

end Source.Diagnostic

end Fiscal
