import Fiscal.Source.Issue
import Fiscal.Source.Span

set_option autoImplicit false

namespace Fiscal

open Source

inductive Failure where
  -- An issue of the program, with its place once that is known.
  | issue (issue : Issue) (span : Option Span)
  -- A fault that no part of the program has taken over.
  | fault (fault : Fault)
  -- Calls and expressions are nested beyond the limit.
  | tooDeep
  -- A loop has used up its allowance of rounds.
  | unfinished

namespace Failure

def located (span : Span) : Failure → Failure
  | .issue cause none => .issue cause (some span)
  | failure => failure

def typeMismatch (complaint : String) : Failure := .issue (.typeMismatch complaint) none

def invalidRange (complaint : String) : Failure := .issue (.invalidRange complaint) none

def brokenInvariant (complaint : String) : Failure := .issue (.brokenInvariant complaint) none

def undefinedVariable (name : String) : Failure := .issue (.undefinedVariable name) none

end Failure

def Fault.lift {α : Type} : Except Fault α → Except Failure α
  | .ok value => .ok value
  | .error fault => .error (.fault fault)

end Fiscal
