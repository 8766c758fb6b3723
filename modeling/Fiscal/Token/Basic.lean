import Fiscal.Source.Span
import Fiscal.Number.Text
import Fiscal.Text.Quoted
import Fiscal.Token.Kind

set_option autoImplicit false

namespace Fiscal

structure Money where
  currency : String
  amount : Float

def Money.text (money : Money) : String :=
  Number.brief money.amount ++ " " ++ money.currency

namespace Token

inductive Payload where
  | none
  | text (value : String)
  | number (value : Float)
  | money (value : Money)

def Payload.shown : Payload → String
  | .none => "None"
  | .text value => Text.quoted value
  | .number value => Number.exact value
  | .money value =>
      "Money(currency=" ++ Text.quoted value.currency ++ ", amount="
        ++ Number.exact value.amount ++ ")"

end Token

structure Token where
  kind : TokenKind
  payload : Token.Payload
  lexeme : String
  span : Source.Span

namespace Token

def shown (token : Token) : String :=
  if token.kind.isLiteral then token.kind.name ++ "(" ++ token.payload.shown ++ ")"
  else token.kind.name

end Token

end Fiscal
