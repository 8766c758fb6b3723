set_option autoImplicit false

namespace Fiscal

inductive Builtin where
  | len
  | sum
  | average
  | least
  | greatest
  | append
  | concat
  | range
  | aggregate
  | map
  | filter
  | reduce
  | returns
  | volatility
  | display
  | assertion
  | raise
  | typeOf
  | columns
  | tableFilter
  | tableJoin
  | columnApply
  | valuationModel
  | loadCsv
  | saveCsv
  | readText
  | writeText
  deriving DecidableEq, Repr

namespace Builtin

def all : List Builtin := [
  len, sum, average, least, greatest, append, concat, range, aggregate, map, filter, reduce,
  returns, volatility, display, assertion, raise, typeOf, columns, tableFilter, tableJoin,
  columnApply, valuationModel, loadCsv, saveCsv, readText, writeText]

def name : Builtin → String
  | len => "len"
  | sum => "sum"
  | average => "avg"
  | least => "min"
  | greatest => "max"
  | append => "append"
  | concat => "concat"
  | range => "range"
  | aggregate => "AGGREGATE"
  | map => "MAP"
  | filter => "FILTER"
  | reduce => "REDUCE"
  | returns => "returns"
  | volatility => "volatility"
  | display => "show"
  | assertion => "ASSERT"
  | raise => "ERROR"
  | typeOf => "type_of"
  | columns => "columns"
  | tableFilter => "table_filter"
  | tableJoin => "table_join"
  | columnApply => "column_apply"
  | valuationModel => "valuation_model"
  | loadCsv => "load_csv"
  | saveCsv => "save_csv"
  | readText => "read_text"
  | writeText => "write_text"

def arity? : Builtin → Option Nat
  | range | reduce | display | assertion | raise | valuationModel => none
  | append | concat | aggregate | map | filter | tableJoin | saveCsv | writeText => some 2
  | tableFilter | columnApply => some 3
  | len | sum | average | least | greatest | returns | volatility | typeOf | columns | loadCsv
  | readText => some 1

def summary : Builtin → String
  | len => "Length of a list, string, table or cashflow"
  | sum => "Sum of a list of numbers"
  | average => "Mean of a list of numbers"
  | least => "Smallest number in a list"
  | greatest => "Largest number in a list"
  | append => "New list with an item added"
  | concat => "Join two lists or two strings"
  | range => "range(end) or range(start, end[, step])"
  | aggregate => "AGGREGATE(list, SUM|AVG|MIN|MAX)"
  | map => "Apply a function to every element"
  | filter => "Keep elements the predicate accepts"
  | reduce => "REDUCE(list, fn[, initial])"
  | returns => "Period-over-period returns"
  | volatility => "Root mean square of returns"
  | display => "Print values and return the first"
  | assertion => "ASSERT(condition[, message])"
  | raise => "Stop with a user error"
  | typeOf => "Name of a value's kind"
  | columns => "Column names of a table"
  | tableFilter => "Rows whose column value passes the predicate"
  | tableJoin => "Merge the columns of two tables"
  | columnApply => "Replace a column with fn applied to each value"
  | valuationModel => "rate * growth, read from the calling scope"
  | loadCsv => "Read a CSV file with a header row"
  | saveCsv => "Write a table as CSV"
  | readText => "Read a file as a string"
  | writeText => "Write a value to a file"

def ofName? (name : String) : Option Builtin :=
  all.find? fun builtin => builtin.name == name

end Builtin

end Fiscal
