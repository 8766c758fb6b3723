import Fiscal.Text.Upper

set_option autoImplicit false

namespace Fiscal

inductive TokenKind where
  | leftParen
  | rightParen
  | leftBracket
  | rightBracket
  | leftBrace
  | rightBrace
  | comma
  | dot
  | colon
  | plus
  | minus
  | star
  | slash
  | percent
  | caret
  | arrow
  | equal
  | equalEqual
  | bang
  | bangEqual
  | greater
  | greaterEqual
  | less
  | lessEqual
  | andAnd
  | orOr
  | identifier
  | number
  | string
  | multilineString
  | money
  | date
  | letKeyword
  | setKeyword
  | ifKeyword
  | thenKeyword
  | elseIfKeyword
  | elseKeyword
  | endKeyword
  | whileKeyword
  | doKeyword
  | forKeyword
  | inKeyword
  | toKeyword
  | stepKeyword
  | printKeyword
  | logKeyword
  | returnKeyword
  | functionKeyword
  | importKeyword
  | asKeyword
  | trueKeyword
  | falseKeyword
  | nullKeyword
  | andKeyword
  | orKeyword
  | notKeyword
  | tableKeyword
  | cashflowKeyword
  | timeseriesKeyword
  | scenarioKeyword
  | runKeyword
  | onKeyword
  | simulateKeyword
  | runsKeyword
  | portfolioKeyword
  | entryKeyword
  | debitKeyword
  | creditKeyword
  | ledgerKeyword
  | fromKeyword
  | npvKeyword
  | irrKeyword
  | pvKeyword
  | fvKeyword
  | waccKeyword
  | capmKeyword
  | varKeyword
  | smaKeyword
  | emaKeyword
  | amortizeKeyword
  | indent
  | dedent
  | newline
  | invalid
  | endOfFile
  deriving DecidableEq, Repr

namespace TokenKind

def name : TokenKind → String
  | leftParen => "LEFT_PAREN"
  | rightParen => "RIGHT_PAREN"
  | leftBracket => "LEFT_BRACKET"
  | rightBracket => "RIGHT_BRACKET"
  | leftBrace => "LEFT_BRACE"
  | rightBrace => "RIGHT_BRACE"
  | comma => "COMMA"
  | dot => "DOT"
  | colon => "COLON"
  | plus => "PLUS"
  | minus => "MINUS"
  | star => "STAR"
  | slash => "SLASH"
  | percent => "PERCENT"
  | caret => "CARET"
  | arrow => "ARROW"
  | equal => "EQUAL"
  | equalEqual => "EQUAL_EQUAL"
  | bang => "BANG"
  | bangEqual => "BANG_EQUAL"
  | greater => "GREATER"
  | greaterEqual => "GREATER_EQUAL"
  | less => "LESS"
  | lessEqual => "LESS_EQUAL"
  | andAnd => "AND_AND"
  | orOr => "OR_OR"
  | identifier => "IDENTIFIER"
  | number => "NUMBER"
  | string => "STRING"
  | multilineString => "MULTILINE_STRING"
  | money => "MONEY"
  | date => "DATE"
  | letKeyword => "LET"
  | setKeyword => "SET"
  | ifKeyword => "IF"
  | thenKeyword => "THEN"
  | elseIfKeyword => "ELSEIF"
  | elseKeyword => "ELSE"
  | endKeyword => "END"
  | whileKeyword => "WHILE"
  | doKeyword => "DO"
  | forKeyword => "FOR"
  | inKeyword => "IN"
  | toKeyword => "TO"
  | stepKeyword => "STEP"
  | printKeyword => "PRINT"
  | logKeyword => "LOG"
  | returnKeyword => "RETURN"
  | functionKeyword => "FUNCTION"
  | importKeyword => "IMPORT"
  | asKeyword => "AS"
  | trueKeyword => "TRUE"
  | falseKeyword => "FALSE"
  | nullKeyword => "NULL"
  | andKeyword => "AND"
  | orKeyword => "OR"
  | notKeyword => "NOT"
  | tableKeyword => "TABLE"
  | cashflowKeyword => "CASHFLOW"
  | timeseriesKeyword => "TIMESERIES"
  | scenarioKeyword => "SCENARIO"
  | runKeyword => "RUN"
  | onKeyword => "ON"
  | simulateKeyword => "SIMULATE"
  | runsKeyword => "RUNS"
  | portfolioKeyword => "PORTFOLIO"
  | entryKeyword => "ENTRY"
  | debitKeyword => "DEBIT"
  | creditKeyword => "CREDIT"
  | ledgerKeyword => "LEDGER"
  | fromKeyword => "FROM"
  | npvKeyword => "NPV"
  | irrKeyword => "IRR"
  | pvKeyword => "PV"
  | fvKeyword => "FV"
  | waccKeyword => "WACC"
  | capmKeyword => "CAPM"
  | varKeyword => "VAR"
  | smaKeyword => "SMA"
  | emaKeyword => "EMA"
  | amortizeKeyword => "AMORTIZE"
  | indent => "INDENT"
  | dedent => "DEDENT"
  | newline => "NEWLINE"
  | invalid => "ERROR"
  | endOfFile => "EOF"

def keywords : List (String × TokenKind) := [
  ("let", .letKeyword),
  ("set", .setKeyword),
  ("if", .ifKeyword),
  ("then", .thenKeyword),
  ("elseif", .elseIfKeyword),
  ("else", .elseKeyword),
  ("end", .endKeyword),
  ("while", .whileKeyword),
  ("do", .doKeyword),
  ("for", .forKeyword),
  ("in", .inKeyword),
  ("to", .toKeyword),
  ("step", .stepKeyword),
  ("print", .printKeyword),
  ("log", .logKeyword),
  ("return", .returnKeyword),
  ("function", .functionKeyword),
  ("func", .functionKeyword),
  ("import", .importKeyword),
  ("as", .asKeyword),
  ("true", .trueKeyword),
  ("false", .falseKeyword),
  ("null", .nullKeyword),
  ("and", .andKeyword),
  ("or", .orKeyword),
  ("not", .notKeyword),
  ("table", .tableKeyword),
  ("cashflow", .cashflowKeyword),
  ("timeseries", .timeseriesKeyword),
  ("scenario", .scenarioKeyword),
  ("run", .runKeyword),
  ("on", .onKeyword),
  ("simulate", .simulateKeyword),
  ("runs", .runsKeyword),
  ("portfolio", .portfolioKeyword),
  ("entry", .entryKeyword),
  ("debit", .debitKeyword),
  ("credit", .creditKeyword),
  ("ledger", .ledgerKeyword),
  ("from", .fromKeyword),
  ("npv", .npvKeyword),
  ("irr", .irrKeyword),
  ("pv", .pvKeyword),
  ("fv", .fvKeyword),
  ("wacc", .waccKeyword),
  ("capm", .capmKeyword),
  ("var", .varKeyword),
  ("sma", .smaKeyword),
  ("ema", .emaKeyword),
  ("amortize", .amortizeKeyword)]

def ofWord? (word : String) : Option TokenKind :=
  keywords.lookup (Text.lowerAscii word)

def financeArity? : TokenKind → Option (Nat × Nat)
  | npvKeyword => some (2, 2)
  | irrKeyword => some (1, 1)
  | pvKeyword => some (2, 4)
  | fvKeyword => some (2, 4)
  | waccKeyword => some (5, 5)
  | capmKeyword => some (3, 3)
  | varKeyword => some (2, 2)
  | smaKeyword => some (2, 2)
  | emaKeyword => some (2, 2)
  | amortizeKeyword => some (3, 3)
  | _ => none

-- Identifiers and the keywords that may stand for one.
def isName : TokenKind → Bool
  | identifier | ledgerKeyword | entryKeyword | fromKeyword | runsKeyword
  | timeseriesKeyword => true
  | kind => kind.financeArity?.isSome

def isLiteral : TokenKind → Bool
  | number | string | multilineString | money | date | identifier | invalid => true
  | _ => false

def isLayout : TokenKind → Bool
  | newline | indent | dedent => true
  | _ => false

end TokenKind

def standardCurrencies : List String := [
  "USD", "EUR", "GBP", "JPY", "CHF", "CAD", "AUD", "NZD", "CNY", "HKD",
  "SGD", "INR", "KRW", "PHP", "SEK", "NOK", "DKK", "MXN", "BRL", "ZAR"]

end Fiscal
