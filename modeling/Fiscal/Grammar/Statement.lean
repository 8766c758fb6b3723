import Fiscal.Grammar.Expression
import Fiscal.Files.Path

set_option autoImplicit false

namespace Fiscal.Grammar

open Source

def resumesAt : TokenKind → Bool
  | .letKeyword | .setKeyword | .ifKeyword | .printKeyword | .logKeyword | .runKeyword
  | .portfolioKeyword | .scenarioKeyword | .dedent => true
  | _ => false

-- Goes to the end of the line or to a resuming token.
def resume (remaining : Nat) (cursor : Cursor) : Cursor :=
  -- A reading that has not moved since `remaining` tokens were ahead would stay there forever.
  let cursor :=
    if cursor.ahead.length = remaining && cursor.kind != .dedent then cursor.advance else cursor
  cursor.skip fun previous current => previous.kind != .newline && !resumesAt current.kind

def report (diagnostic : Diagnostic) : Reading Unit :=
  modify fun cursor => { cursor with reports := diagnostic :: cursor.reports }

def terminated (statement : Stmt) : Reading Stmt := do
  expectLineEnd
  return statement

section Rules

variable (inner : Rules)

def nextInBlock (statements : List Stmt) : Reading (List Stmt × Bool) :=
  nextLine statements do
    if ← atAny [.dedent, .endOfFile] then return (statements, false)
    else
      let statement ← inner.statement
      return (statement :: statements, true)

def block : Reading Block := do
  skipNewlines
  let first ← expect .indent "indented block"
  let statements ← repeating [] (nextInBlock inner)
  let _ ← expect .dedent "end of block"
  return ⟨← spanFrom first.span.start, statements.reverse⟩

def closeConstruct (construct : String) : Reading Unit := do
  expectEnd construct
  expectLineEnd

def binding : Reading (String × Expr) := do
  let name ← expectName "variable name"
  let _ ← expect .equal "'='"
  let value ← expression inner
  expectLineEnd
  return (name, value)

def letStatement : Reading Stmt := do
  let first ← advance
  let (name, value) ← binding inner
  return .define (← spanFrom first.span.start) name value

def setStatement : Reading Stmt := do
  let first ← advance
  let (name, value) ← binding inner
  return .assign (← spanFrom first.span.start) name value

def printStatement : Reading Stmt := do
  let first ← advance
  let values ← joined (expression inner)
  expectLineEnd
  return .print (← spanFrom first.span.start) values (first.kind == .logKeyword)

def acceptElseIf : Reading Bool := do
  let cursor ← get
  if cursor.kind == .elseIfKeyword then
    let _ ← advance
    return true
  else if cursor.kind == .elseKeyword && cursor.kindAhead 0 == .ifKeyword then
    let _ ← advance
    let _ ← advance
    return true
  else return false

def conditional : Reading (Expr × Block) := do
  let condition ← expression inner
  let _ ← accept .thenKeyword
  let body ← block inner
  return (condition, body)

def nextBranch (branches : List (Branch Stmt)) : Reading (List (Branch Stmt) × Bool) := do
  skipNewlines
  let start := (← get).current.span.start
  if ← acceptElseIf then
    let (condition, body) ← conditional inner
    let branch : Branch Stmt := ⟨← spanFrom start, condition, body⟩
    return (branch :: branches, true)
  else return (branches, false)

def ifStatement : Reading Stmt := do
  let first ← advance
  let (condition, body) ← conditional inner
  let branches ← repeating [] (nextBranch inner)
  let otherwise ← optionalAfter .elseKeyword (block inner)
  closeConstruct "IF"
  return .choose (← spanFrom first.span.start) condition body branches.reverse otherwise

def whileStatement : Reading Stmt := do
  let first ← advance
  let condition ← expression inner
  let _ ← acceptAny [.doKeyword, .thenKeyword]
  let body ← block inner
  closeConstruct "WHILE"
  return .repeatWhile (← spanFrom first.span.start) condition body

def rangeLoop (first : Token) (name : String) (start : Expr) : Reading Stmt := do
  let last ← expression inner
  let step ← optionalAfter .stepKeyword (expression inner)
  let _ ← accept .doKeyword
  let body ← block inner
  closeConstruct "FOR"
  return .forRange (← spanFrom first.span.start) name start last step body

def itemLoop (first : Token) (name : String) (items : Expr) : Reading Stmt := do
  let _ ← accept .doKeyword
  let body ← block inner
  closeConstruct "FOR"
  return .forEach (← spanFrom first.span.start) name items body

def forStatement : Reading Stmt := do
  let first ← advance
  let name ← expectName "loop variable"
  let _ ← expect .inKeyword "'IN'"
  let start ← expression inner
  if ← accept .toKeyword then rangeLoop inner first name start
  else itemLoop inner first name start

def returnStatement : Reading Stmt := do
  let first ← advance
  let value ← unlessAny [.newline, .dedent, .endOfFile] (expression inner)
  expectLineEnd
  return .giveBack (← spanFrom first.span.start) value

def functionStatement : Reading Stmt := do
  let first ← advance
  let name ← expectName "function name"
  let _ ← expect .leftParen "'('"
  let names ← parameters
  let _ ← expect .rightParen "')'"
  let body ← block inner
  closeConstruct "FUNCTION"
  return .function (← spanFrom first.span.start) name names body

def importStatement : Reading Stmt := do
  let first ← advance
  let token ← expect .string "import path string"
  let path := match token.payload with
    | .text value => value
    | _ => ""
  let given ← optionalAfter .asKeyword (expectName "import alias")
  expectLineEnd
  return .importPath (← spanFrom first.span.start) path (given.getD (Files.stem path))

def scenarioStatement : Reading Stmt := do
  let first ← advance
  let name ← expectName "scenario name"
  let _ ← accept .colon
  let body ← block inner
  closeConstruct "SCENARIO"
  return .scenario (← spanFrom first.span.start) name body

def runStatement : Reading Stmt := do
  let first ← advance
  let scenario ← expectName "scenario name"
  let _ ← expect .onKeyword "'ON'"
  let model ← expectName "model name"
  expectLineEnd
  return .run (← spanFrom first.span.start) scenario model

def simulateStatement : Reading Stmt := do
  let first ← advance
  let scenario ← expectName "scenario name"
  let _ ← accept .runsKeyword
  let runs ← unlessAny [.newline, .stepKeyword, .endOfFile, .dedent] (expression inner)
  let step ← optionalAfter .stepKeyword (expression inner)
  expectLineEnd
  return .simulate (← spanFrom first.span.start) scenario runs step

def description : Reading (Option Expr) := do
  let token := (← get).current
  match token.kind, token.payload with
  | .string, .text value | .multilineString, .text value =>
      let _ ← advance
      return some (.literal token.span (.text value))
  | _, _ => return none

def posting (side : Side) : Reading Posting := do
  let first ← advance
  let account ← expectName "account name"
  let amount ← expression inner
  let description ← description
  return ⟨← spanFrom first.span.start, side, account, amount, description⟩

def nextHolding (holdings : List Posting) : Reading (List Posting × Bool) :=
  nextLine holdings do
    if ← at? .dedent then return (holdings, false)
    else
      match Side.ofKind? (← kindHere) with
      | none => unexpected "DEBIT or CREDIT holding"
      | some side =>
          let holding ← posting inner side
          expectLineEnd
          return (holding :: holdings, true)

def portfolioStatement : Reading Stmt := do
  let first ← advance
  let name ← expectName "portfolio name"
  let _ ← accept .colon
  skipNewlines
  let _ ← expect .indent "indented PORTFOLIO holdings"
  let holdings ← repeating [] (nextHolding inner)
  let _ ← expect .dedent "end of PORTFOLIO holdings"
  closeConstruct "PORTFOLIO"
  return .portfolio (← spanFrom first.span.start) name holdings.reverse

def statementForm : Reading Stmt := do
  skipNewlines
  let cursor ← get
  match cursor.kind with
  | .indent => return .block (← block inner)
  | .scenarioKeyword => scenarioStatement inner
  | .runKeyword => runStatement
  | .simulateKeyword => simulateStatement inner
  | .debitKeyword => terminated (.post (← posting inner .debit))
  | .creditKeyword => terminated (.post (← posting inner .credit))
  | .letKeyword => letStatement inner
  | .setKeyword => setStatement inner
  | .printKeyword | .logKeyword => printStatement inner
  | .ifKeyword => ifStatement inner
  | .whileKeyword => whileStatement inner
  | .forKeyword => forStatement inner
  | .returnKeyword => returnStatement inner
  | .functionKeyword => functionStatement inner
  | .importKeyword => importStatement
  | kind =>
      if kind == .portfolioKeyword && (cursor.kindAhead 0).isName then portfolioStatement inner
      else terminated (.evaluate (← expression inner))

-- One statement, or a placeholder for one that could not be read.
def statement : Reading Stmt := do
  let start ← get
  tryCatch (statementForm inner) fun
    | .unfinished => throw .unfinished
    | .refused diagnostic => do
        report diagnostic
        modify (resume start.ahead.length)
        return .invalid (← spanFrom start.current.span.start) diagnostic.message

end Rules

namespace Rules

def exhausted : Rules where
  expression := throw .unfinished
  binary _ := throw .unfinished
  unary := throw .unfinished
  statement := throw .unfinished

def deepen (inner : Rules) : Rules where
  expression := Grammar.expression inner
  binary := Grammar.binary inner
  unary := Grammar.unary inner
  statement := Grammar.statement inner

def ofDepth : Nat → Rules
  | 0 => exhausted
  | depth + 1 => (ofDepth depth).deepen

/-- The rules on a host whose stack has room for so many frames, and behind them those with ever less
room. -/
def withFrames : Nat → List Rules
  | 0 => []
  | frames + 1 =>
      let inside := withFrames frames
      -- From an expression to one in brackets inside it the host makes seven calls, give or take
      -- one; from a statement to one in a block inside it, four; to an operand, one.
      let after (calls : Nat) : Rules := inside[calls - 1]?.getD exhausted
      { expression := Grammar.expression (after 7)
        binary := Grammar.binary (after 1)
        unary := Grammar.unary (after 1)
        statement := Grammar.statement (after 4) } :: inside

def within (frames : Nat) : Rules := (withFrames frames).head?.getD exhausted

end Rules

def strayDedent : Reading Unit := do
  let token ← advance
  report ⟨.unexpectedToken "statement" "DEDENT", some token.span, (← get).lineOf token⟩

-- One statement more at the top; a stray end of block adds none.
def nextAtTop (rules : Rules) (statements : List Stmt) : Reading (List Stmt) := do
  if ← at? .dedent then
    strayDedent
    return statements
  else
    let statement ← rules.statement
    return statement :: statements

def programRound (rules : Rules) (maxErrors : Int) (statements : List Stmt) :
    Reading (List Stmt × Bool) := do
  if (← get).atEnd then return (statements, false)
  else
    let statements ← nextAtTop rules statements
    -- With enough issues reported the rest of the file is left unread.
    if maxErrors ≤ (← get).reports.length then return (statements, false)
    else
      skipNewlines
      return (statements, true)

def statements (rules : Rules) (maxErrors : Int) : Reading (List Stmt) := do
  skipNewlines
  let statements ← repeating [] (programRound rules maxErrors)
  return statements.reverse

structure Outcome where
  program : Program
  reports : List Diagnostic

def readProgram (maxErrors : Int) (lines : Option (List String)) (first : Token)
    (rest : List Token) : EStateM.Result Halt Cursor (List Stmt) :=
  statements (Rules.ofDepth (rest.length + 2)) maxErrors (Cursor.start first rest lines)

/-- Parses a list of tokens that ends with the end of the file. The source lines, if known, are
quoted in reports. -/
def parse (maxErrors : Int) (lines : Option (List String)) : List Token → Outcome
  | [] => ⟨⟨default, []⟩, []⟩
  | first :: rest =>
      match readProgram maxErrors lines first rest with
      | .ok statements cursor =>
          ⟨⟨cursor.spanFrom first.span.start, statements⟩, cursor.reports.reverse⟩
      | .error halt cursor =>
          ⟨⟨cursor.spanFrom first.span.start, []⟩, (halt.diagnostics ++ cursor.reports).reverse⟩

/-- Parses tokens as `parse` does, on a host whose stack has room for so many frames. -/
def parseWithin (frames : Nat) (maxErrors : Int) (lines : Option (List String)) :
    List Token → Except Fault Outcome
  | [] => .ok ⟨⟨default, []⟩, []⟩
  | first :: rest =>
      match statements (Rules.within frames) maxErrors (Cursor.start first rest lines) with
      | .ok statements cursor =>
          .ok ⟨⟨cursor.spanFrom first.span.start, statements⟩, cursor.reports.reverse⟩
      | .error .unfinished _ => .error .stackOverflow
      | .error halt cursor =>
          .ok ⟨⟨cursor.spanFrom first.span.start, []⟩, (halt.diagnostics ++ cursor.reports).reverse⟩

end Fiscal.Grammar
