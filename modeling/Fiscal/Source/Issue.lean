import Fiscal.Fault

set_option autoImplicit false

namespace Fiscal.Source

inductive Issue where
  | unexpectedCharacter (c : Char)
  | unterminatedString
  | unterminatedMultilineString
  | unterminatedComment
  | invalidEscape (c : Option Char)
  | invalidNumber (text : String)
  | unclosedGroup (name : String)
  | unopenedGroup (name : String)
  | unexpectedToken (expected found : String)
  | unexpectedEnd (expected : String)
  | invalidTarget
  | financeArity (name expected : String) (found : Nat)
  | duplicateColumn (name : String)
  | unknownQualifier (name : String)
  | tooManyArguments
  | undefinedVariable (name : String)
  | typeMismatch (complaint : String)
  | divisionByZero
  | invalidRange (complaint : String)
  | unknownColumn (name : String)
  | arityMismatch (callee expected : String) (found : Nat)
  | brokenInvariant (complaint : String)
  | unknownDeclaration (what name : String)
  | callFailed (name : String) (cause : Fault)
  | tooDeep
  | raised (message : String)

inductive IssueKind where
  | lexical
  | grammar
  | undefinedVariable
  | typeMismatch
  | divisionByZero
  | invalidRange
  | unknownColumn
  | arityMismatch
  | brokenInvariant
  | unknownDeclaration
  | runtime
  deriving DecidableEq, Repr

def IssueKind.name : IssueKind → String
  | lexical => "LexicalError"
  | grammar => "ParseError"
  | undefinedVariable => "UndefinedVariable"
  | typeMismatch => "TypeMismatch"
  | divisionByZero => "DivisionByZero"
  | invalidRange => "InvalidRange"
  | unknownColumn => "UnknownColumn"
  | arityMismatch => "ArityMismatch"
  | brokenInvariant => "DomainInvariantViolation"
  | unknownDeclaration => "UnknownScenarioOrModel"
  | runtime => "RuntimeError"

namespace Issue

def kind : Issue → IssueKind
  | unexpectedCharacter _ | unterminatedString | unterminatedMultilineString
  | unterminatedComment | invalidEscape _ | invalidNumber _ | unclosedGroup _
  | unopenedGroup _ => .lexical
  | unexpectedToken .. | unexpectedEnd _ | invalidTarget | financeArity .. | duplicateColumn _
  | unknownQualifier _ | tooManyArguments => .grammar
  | undefinedVariable _ => .undefinedVariable
  | typeMismatch _ => .typeMismatch
  | divisionByZero => .divisionByZero
  | invalidRange _ => .invalidRange
  | unknownColumn _ => .unknownColumn
  | arityMismatch .. => .arityMismatch
  | brokenInvariant _ => .brokenInvariant
  | unknownDeclaration .. => .unknownDeclaration
  | callFailed .. | tooDeep | raised _ => .runtime

def code : Issue → String
  | unexpectedCharacter _ => "E001"
  | unterminatedString => "E002"
  | unterminatedMultilineString => "E003"
  | unterminatedComment => "E004"
  | invalidEscape _ => "E005"
  | invalidNumber _ => "E006"
  | unclosedGroup _ => "E007"
  | unopenedGroup _ => "E008"
  | unexpectedToken .. => "E101"
  | unexpectedEnd _ => "E102"
  | invalidTarget => "E103"
  | financeArity .. => "E104"
  | duplicateColumn _ => "E105"
  | unknownQualifier _ => "E106"
  | tooManyArguments => "E107"
  | undefinedVariable _ => "E401"
  | typeMismatch _ => "E402"
  | divisionByZero => "E403"
  | invalidRange _ => "E404"
  | unknownColumn _ => "E405"
  | arityMismatch .. => "E406"
  | brokenInvariant _ => "E407"
  | unknownDeclaration .. => "E408"
  | callFailed .. => "E409"
  | tooDeep => "E409"
  | raised _ => "E410"

def message : Issue → String
  | unexpectedCharacter c => "unexpected character '" ++ c.toString ++ "'"
  | unterminatedString => "unterminated string literal"
  | unterminatedMultilineString =>
      "unterminated multi-line string (expected closing \"\"\")"
  | unterminatedComment => "unterminated block comment (expected closing ###)"
  | invalidEscape c => "invalid escape sequence '\\" ++ (c.map Char.toString).getD "" ++ "'"
  | invalidNumber text => "invalid number literal '" ++ text ++ "'"
  | unclosedGroup name => "unclosed " ++ name
  | unopenedGroup name => name ++ " closed but never opened"
  | unexpectedToken expected found => "expected " ++ expected ++ ", found " ++ found
  | unexpectedEnd expected => "unexpected end of file, expected " ++ expected
  | invalidTarget => "invalid assignment target"
  | financeArity name expected found =>
      name ++ " expects " ++ expected ++ " argument(s), got " ++ toString found
  | duplicateColumn name => "duplicate column '" ++ name ++ "' in TABLE literal"
  | unknownQualifier name => "unknown scope qualifier '" ++ name ++ "'"
  | tooManyArguments => "can't have more than 255 arguments"
  | undefinedVariable name => "undefined variable '" ++ name ++ "'"
  | typeMismatch complaint => complaint
  | divisionByZero => "division by zero"
  | invalidRange complaint => complaint
  | unknownColumn name => "unknown column '" ++ name ++ "'"
  | arityMismatch callee expected found =>
      callee ++ " expects " ++ expected ++ " argument(s) but got " ++ toString found
  | brokenInvariant complaint => complaint
  | unknownDeclaration what name => "unknown " ++ what ++ " '" ++ name ++ "'"
  | callFailed name cause => "error calling function '" ++ name ++ "': " ++ cause.message
  | tooDeep => "maximum recursion depth exceeded"
  | raised message => message

def hints : Issue → List String
  | unterminatedString => ["string literals must be closed with matching quotes"]
  | invalidEscape _ => ["valid escape sequences: \\n, \\t, \\r, \\\", \\', \\\\, \\0"]
  | invalidTarget => ["only plain variable names can be assigned"]
  | unknownQualifier _ => ["valid qualifiers are 'global' and 'parent'"]
  | tooDeep => ["check that recursive functions reach a base case"]
  | _ => []

end Issue

end Fiscal.Source
