import Fiscal.Session

set_option autoImplicit false

namespace Fiscal.Command

structure Transcript where
  out : String
  err : String
  deriving DecidableEq, Repr

namespace Transcript

def empty : Transcript := ⟨"", ""⟩

def append (first second : Transcript) : Transcript :=
  ⟨first.out ++ second.out, first.err ++ second.err⟩

instance : Append Transcript := ⟨append⟩

def lines (texts : List String) : String := String.join (texts.map (· ++ "\n"))

def print (texts : List String) : Transcript := ⟨lines texts, ""⟩

def complain (texts : List String) : Transcript := ⟨"", lines texts⟩

def ofReport (report : Report) : Transcript :=
  print report.output ++
    (if report.success then empty
    else complain (report.diagnostics.map Source.Diagnostic.render))

end Transcript

end Fiscal.Command
