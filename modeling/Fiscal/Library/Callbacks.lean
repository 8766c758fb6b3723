import Fiscal.Library.Lists
import Fiscal.Machine.Basic

set_option autoImplicit false

namespace Fiscal.Library

section

variable (call : Value → List Value → Eval Value)

def mapItems (function : Value) : List Value → Eval (List Value)
  | [] => return []
  | item :: rest => do
      let result ← call function [item]
      let results ← mapItems function rest
      return result :: results

def acceptItems (function : Value) : List Value → Eval (List Bool)
  | [] => return []
  | item :: rest => do
      let result ← call function [item]
      let results ← acceptItems function rest
      return result.isTruthy :: results

def foldItems (function : Value) : Value → List Value → Eval Value
  | joined, [] => return joined
  | joined, item :: rest => do
      let next ← call function [joined, item]
      foldItems function next rest

def marked {α : Type} (items : List α) (marks : List Bool) : List α :=
  ((items.zip marks).filter Prod.snd).map Prod.fst

def map (items function : Value) : Eval Value := do
  let function ← Eval.lift (function.asCallable "MAP() second argument")
  let items ← Eval.lift (items.asList "MAP() first argument")
  return .list (← mapItems call function items)

def filter (items function : Value) : Eval Value := do
  let function ← Eval.lift (function.asCallable "FILTER() second argument")
  let items ← Eval.lift (items.asList "FILTER() first argument")
  return .list (marked items (← acceptItems call function items))

def reduceFrom (function : Value) (initial : Option Value) (items : List Value) : Eval Value :=
  match initial, items with
  | some initial, items => foldItems call function initial items
  | none, first :: rest => foldItems call function first rest
  | none, [] =>
      throw (.invalidRange "REDUCE() on an empty list needs an initial value")

def reduce (items function : Value) (initial : Option Value) : Eval Value := do
  let items ← Eval.lift (items.asList "REDUCE() first argument")
  let function ← Eval.lift (function.asCallable "REDUCE() second argument")
  reduceFrom call function initial items

def tableFilter (table column accept : Value) : Eval Value := do
  let grid ← Eval.lift (table.asTable "table_filter() first argument")
  let accept ← Eval.lift (accept.asCallable "table_filter() predicate")
  let name ← Eval.lift (column.asText "table_filter() column")
  let cells ← Eval.lift (grid.column name)
  let mask ← acceptItems call accept (cells.map Value.number)
  return .table (← Eval.lift (Table.build (grid.keepRows mask)))

def mapNumbers (what : String) (function : Value) : List Float → Eval (List Float)
  | [] => return []
  | x :: rest => do
      let result ← call function [.number x]
      let result ← Eval.lift (result.asNumber what)
      let results ← mapNumbers what function rest
      return result :: results

def columnApply (table column function : Value) : Eval Value := do
  let grid ← Eval.lift (table.asTable "column_apply() first argument")
  let function ← Eval.lift (function.asCallable "column_apply() function")
  let name ← Eval.lift (column.asText "column_apply() column")
  let cells ← Eval.lift (grid.column name)
  let cells ← mapNumbers call ("column_apply() result for '" ++ name ++ "'") function cells
  return .table (← Eval.lift (Table.build (grid.columns.put name cells)))

end

def tableJoin (left right : Value) : Except Failure Value := do
  let first ← left.asTable "table_join() first argument"
  let second ← right.asTable "table_join() second argument"
  let joined ← Table.build (first.columns.putAll second.columns)
  return .table joined

def columns (table : Value) : Except Failure Value := do
  let grid ← table.asTable "columns() argument"
  return .list (grid.columns.names.map Value.text)

end Fiscal.Library
