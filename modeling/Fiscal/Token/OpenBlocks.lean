import Fiscal.Token.Scan

set_option autoImplicit false

namespace Fiscal.Token

def opensBlock : TokenKind → Bool
  | .ifKeyword | .whileKeyword | .forKeyword | .functionKeyword | .scenarioKeyword
  | .portfolioKeyword | .cashflowKeyword => true
  | _ => false

-- The change one token makes, given the kind before it; an IF right after ELSE continues the
-- block that is open already.
def blockChange (before : Option TokenKind) (kind : TokenKind) : Int :=
  if opensBlock kind && !(kind == .ifKeyword && before == some .elseKeyword) then 1
  else if kind == .endKeyword then -1
  else 0

def blockBalance (before : Option TokenKind) : List TokenKind → Int
  | [] => 0
  | kind :: rest => blockChange before kind + blockBalance (some kind) rest

def isUnclosed (diagnostic : Source.Diagnostic) : Bool :=
  match diagnostic.issue with
  | .unclosedGroup _ => true
  | _ => false

def Stream.openBlocks (stream : Stream) : Int :=
  blockBalance none (stream.tokens.map Token.kind)
    + (stream.reports.filter isUnclosed).length

def openBlocks (source : String) : Except Fault Int :=
  (scan 4 [] none source).map Stream.openBlocks

end Fiscal.Token
