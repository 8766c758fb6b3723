import Fiscal.Grammar.Statement
import Fiscal.Proofs.Program.Bare
import Fiscal.Proofs.Scope.Binding

set_option autoImplicit false

namespace Fiscal.Grammar

def Halt.bare : Halt → Halt
  | refused diagnostic => refused diagnostic.bare
  | unfinished => unfinished

def Cursor.bare (cursor : Cursor) : Cursor where
  previous := cursor.previous.bare
  current := cursor.current.bare
  ahead := cursor.ahead.map Token.bare
  lines := none
  reports := cursor.reports.map (·.bare)

section Law

variable {α β : Type}

def stripped (strip : α → α) : EStateM.Result Halt Cursor α → EStateM.Result Halt Cursor α
  | .ok value after => .ok (strip value) after.bare
  | .error halt after => .error halt.bare after.bare

-- On the tokens without places the other reading gives what the first one gives, stripped.
def Blind (strip : α → α) (cursor : Cursor) (reading other : Reading α) : Prop :=
  other cursor.bare = stripped strip (reading cursor)

abbrev Even (cursor : Cursor) (reading other : Reading α) : Prop := Blind (fun value => value) cursor reading other

namespace Blind

variable {strip : α → α} {stripNext : β → β} {cursor : Cursor} {reading other : Reading α}
  {next nextOther : α → Reading β}

theorem bind (first : Blind strip cursor reading other)
    (rest : ∀ value after, Blind stripNext after (next value) (nextOther (strip value))) :
    Blind stripNext cursor (reading >>= next) (other >>= nextOther) := by
  unfold Blind at first
  change EStateM.bind other nextOther cursor.bare = stripped stripNext (EStateM.bind reading next cursor)
  unfold EStateM.bind
  cases ran : reading cursor with
  | ok value after =>
      rw [first, ran]
      exact rest value after
  | error halt after =>
      rw [first, ran]
      rfl

theorem pure (value : α) : Blind strip cursor (Pure.pure value) (Pure.pure (strip value)) := rfl

theorem give {value stripped : α} (same : stripped = strip value) :
    Blind strip cursor (Pure.pure value) (Pure.pure stripped) := by
  rw [same]
  exact pure value

theorem plain (blind : Blind strip cursor reading other) (none : ∀ value, strip value = value) :
    Even cursor reading other := by
  have same : strip = fun value => value := funext none
  rwa [same] at blind

theorem get {next nextOther : Cursor → Reading α} (rest : Blind strip cursor (next cursor) (nextOther cursor.bare)) :
    Blind strip cursor (get >>= next) (get >>= nextOther) :=
  rest

theorem refuse {one two : Source.Diagnostic} (same : two = one.bare) :
    Blind strip cursor (throw (.refused one)) (throw (.refused two)) := by
  rw [same]
  rfl

theorem unexpected (expected : String) :
    Blind strip cursor (unexpected expected) (Grammar.unexpected expected) := by
  refine .get (.refuse ?_)
  unfold Cursor.unexpected
  change (if cursor.atEnd = true then _ else _) = _
  split <;> rfl

theorem failAt (issue : Source.Issue) (span : Source.Span) (token : Token) :
    Blind strip cursor (failAt issue span token) (Grammar.failAt issue default token.bare) :=
  .get (.refuse rfl)

theorem both {test : Prop} [Decidable test] {yes no yesOther noOther : Reading α}
    (holds : Blind strip cursor yes yesOther) (fails : Blind strip cursor no noOther) :
    Blind strip cursor (if test then yes else no) (if test then yesOther else noOther) := by
  split
  · exact holds
  · exact fails

theorem kindHere : Even cursor kindHere Grammar.kindHere := rfl

theorem at? (kind : TokenKind) : Even cursor (at? kind) (Grammar.at? kind) := rfl

theorem atAny (kinds : List TokenKind) : Even cursor (atAny kinds) (Grammar.atAny kinds) := rfl

theorem spanFrom (start : Source.Location) :
    Blind (fun _ => default) cursor (spanFrom start) (Grammar.spanFrom default) := rfl

theorem closing (start : Source.Location) {value valueOther : Source.Span → α}
    (same : ∀ span, valueOther default = strip (value span)) :
    Blind strip cursor (Grammar.spanFrom start >>= fun span => Pure.pure (value span))
      (Grammar.spanFrom default >>= fun span => Pure.pure (valueOther span)) :=
  (spanFrom start).bind fun span _ => .give (same span)

theorem advance_bare (cursor : Cursor) : cursor.bare.advance = cursor.advance.bare := by
  obtain ⟨previous, current, ahead, lines, reports⟩ := cursor
  unfold Cursor.advance
  change (if (current.kind == .endOfFile) = true then _ else _) =
    (if (current.kind == .endOfFile) = true then _ else _ : Cursor).bare
  split
  · rfl
  · cases ahead <;> rfl

theorem advance : Blind Token.bare cursor advance Grammar.advance := by
  change EStateM.Result.ok cursor.bare.current cursor.bare.advance = _
  rw [advance_bare]
  rfl

theorem accept (kind : TokenKind) : Even cursor (accept kind) (Grammar.accept kind) :=
  (at? kind).bind fun _ _ => .both (advance.bind fun _ _ => .pure _) (.pure _)

theorem acceptAny (kinds : List TokenKind) : Even cursor (acceptAny kinds) (Grammar.acceptAny kinds) :=
  (atAny kinds).bind fun _ _ => .both (advance.bind fun _ _ => .pure _) (.pure _)

theorem expect (kind : TokenKind) (expected : String) :
    Blind Token.bare cursor (expect kind expected) (Grammar.expect kind expected) :=
  (at? kind).bind fun _ _ => .both advance (.unexpected expected)

theorem expectName (expected : String) : Even cursor (expectName expected) (Grammar.expectName expected) :=
  kindHere.bind fun _ _ => .both (advance.bind fun _ _ => .pure _) (.unexpected expected)

theorem advanceWhile_bare {goOn : Token → Token → Bool}
    (kinds : ∀ previous current : Token, goOn previous.bare current.bare = goOn previous current)
    (previous current : Token) (ahead : List Token) :
    Cursor.advanceWhile goOn previous.bare current.bare (ahead.map Token.bare) =
      let (last, present, left) := Cursor.advanceWhile goOn previous current ahead
      (last.bare, present.bare, left.map Token.bare) := by
  induction ahead generalizing previous current with
  | nil => rfl
  | cons following rest ih =>
      have same : current.bare.kind = current.kind := rfl
      rw [List.map_cons, Cursor.advanceWhile, Cursor.advanceWhile, kinds, same]
      split
      · exact ih current following
      · rfl

theorem skip_bare {goOn : Token → Token → Bool}
    (kinds : ∀ previous current : Token, goOn previous.bare current.bare = goOn previous current) (cursor : Cursor) :
    cursor.bare.skip goOn = (cursor.skip goOn).bare := by
  have same := advanceWhile_bare kinds cursor.previous cursor.current cursor.ahead
  unfold Cursor.skip
  simp only [Cursor.bare, same]

theorem skipNewlines : Even cursor skipNewlines Grammar.skipNewlines := by
  change EStateM.Result.ok () (cursor.bare.skip _) = _
  rw [skip_bare fun _ _ => rfl]
  rfl

theorem expectLineEnd : Even cursor expectLineEnd Grammar.expectLineEnd := by
  refine (atAny _).bind fun _ _ => .both (.pure _) ?_
  exact (accept .newline).bind fun _ _ => .both (.pure _) (.unexpected _)

section Loops

variable {σ : Type} {stripState : σ → σ} {round roundOther : σ → Reading (σ × Bool)}

theorem repeatStep
    (rounds : ∀ state cursor, Blind (fun last => (stripState last.1, last.2)) cursor (round state)
      (roundOther (stripState state))) (count : Nat) (state : σ) :
    Blind stripState cursor (repeatStep round count state)
      (Grammar.repeatStep roundOther count (stripState state)) := by
  induction count generalizing state cursor with
  | zero => rfl
  | succ count ih =>
      refine (rounds state cursor).bind fun last after => .both ?_ ?_
      · exact ih last.1
      · exact .pure last.1

theorem repeating
    (rounds : ∀ state cursor, Blind (fun last => (stripState last.1, last.2)) cursor (round state)
      (roundOther (stripState state))) (state : σ) :
    Blind stripState cursor (repeating state round) (Grammar.repeating (stripState state) roundOther) := by
  refine .get ?_
  have same : cursor.bare.ahead.length = cursor.ahead.length := List.length_map _
  rw [same]
  exact repeatStep rounds _ state

theorem nextLine {line lineOther : Reading (σ × Bool)} (state : σ)
    (inside : ∀ cursor, Blind (fun last => (stripState last.1, last.2)) cursor line lineOther) :
    Blind (fun last => (stripState last.1, last.2)) cursor (nextLine state line)
      (Grammar.nextLine (stripState state) lineOther) := by
  refine (atAny _).bind fun _ _ => .both (.pure (state, false)) ?_
  exact skipNewlines.bind fun _ after => inside after

end Loops

theorem optionalAfter (kind : TokenKind) (reads : ∀ cursor, Blind strip cursor reading other) :
    Blind (Option.map strip) cursor (optionalAfter kind reading) (Grammar.optionalAfter kind other) := by
  refine (accept kind).bind fun _ after => .both ?_ (.pure none)
  exact (reads after).bind fun value _ => .pure (some value)

theorem unlessAny (kinds : List TokenKind) (reads : ∀ cursor, Blind strip cursor reading other) :
    Blind (Option.map strip) cursor (unlessAny kinds reading) (Grammar.unlessAny kinds other) := by
  refine (atAny kinds).bind fun _ after => .both (.pure none) ?_
  exact (reads after).bind fun value _ => .pure (some value)

theorem joined (reads : ∀ cursor, Blind strip cursor reading other) :
    Blind (List.map strip) cursor (joined reading) (Grammar.joined other) := by
  have round (items : List α) (cursor : Cursor) :
      Blind (fun last => (List.map strip last.1, last.2)) cursor (nextJoined reading items)
        (nextJoined other (items.map strip)) := by
    refine (accept .comma).bind fun _ after => .both ?_ (.pure (items, false))
    exact (reads after).bind fun value _ => .pure (value :: items, true)
  refine (reads cursor).bind fun item _ => ?_
  refine (repeating round [item]).bind fun items _ => .give ?_
  rw [List.map_reverse]

end Blind

end Law

structure Rules.Placeless (rules : Rules) : Prop where
  expression (cursor : Cursor) : Blind Expr.bare cursor rules.expression rules.expression
  binary (least : Nat) (cursor : Cursor) : Blind Expr.bare cursor (rules.binary least) (rules.binary least)
  unary (cursor : Cursor) : Blind Expr.bare cursor rules.unary rules.unary
  statement (cursor : Cursor) : Blind Stmt.bare cursor rules.statement rules.statement

def bareEntries (entries : Named Expr) : Named Expr := entries.map fun entry => (entry.1, entry.2.bare)

theorem has_bare (entries : Named Expr) (name : String) :
    Named.has (bareEntries entries) name = Named.has entries name := by
  rw [Named.has, bareEntries, Named.get?_map, Option.isSome_map, Named.has]

theorem put_bare (entries : Named Expr) (name : String) (value : Expr) :
    Named.put (bareEntries entries) name value.bare = bareEntries (Named.put entries name value) :=
  Named.put_map Expr.bare entries name value

theorem closesBeforeArrow_bare (depth : Nat) (tokens : List Token) :
    closesBeforeArrow depth (tokens.map Token.bare) = closesBeforeArrow depth tokens := by
  induction tokens generalizing depth with
  | nil => rfl
  | cons token rest ih =>
      simp only [List.map_cons, closesBeforeArrow, ih, List.head?_map, Option.any_map]
      rfl

theorem financeCallee_bare (callee : Expr) : financeCallee? callee.bare = financeCallee? callee := by
  cases callee <;> rfl

theorem financeForm_bare (span : Source.Span) (kind : TokenKind) (args : List Expr) :
    financeForm? default kind (args.map Expr.bare) = (financeForm? span kind args).map Expr.bare := by
  match args with
  | [] | [_] | [_, _] | [_, _, _] | [_, _, _, _] | [_, _, _, _, _] | _ :: _ :: _ :: _ :: _ :: _ :: _ =>
      cases kind <;> rfl

namespace Blind

variable {cursor : Cursor}

theorem parameters : Even cursor parameters Grammar.parameters := by
  refine (at? _).bind fun _ _ => .both (.pure _) ?_
  exact (joined fun _ => expectName _).plain List.map_id

theorem keyName (expected : String) :
    Blind (fun key => (key.1, key.2.bare)) cursor (keyName expected) (Grammar.keyName expected) := by
  refine .get ?_
  dsimp only
  have kinds : cursor.bare.current.kind = cursor.current.kind := rfl
  have payloads : cursor.bare.current.payload = cursor.current.payload := rfl
  rw [kinds, payloads]
  split
  · exact advance.bind fun _ _ => .pure (_, cursor.current)
  · exact advance.bind fun _ _ => .pure (_, cursor.current)
  · exact (expectName _).bind fun name _ => .pure (name, cursor.current)

theorem expectEnd (construct : String) : Even cursor (expectEnd construct) (Grammar.expectEnd construct) :=
  skipNewlines.bind fun _ _ => (expect _ _).bind fun _ _ => .pure _

theorem qualifiedName : Blind Expr.bare cursor qualifiedName Grammar.qualifiedName := by
  refine advance.bind fun qualifier _ => ?_
  have words : qualifier.bare.lexeme = qualifier.lexeme := rfl
  rw [words]
  split
  · exact .failAt _ _ _
  · refine advance.bind fun _ _ => advance.bind fun _ _ => (expectName _).bind fun _ _ => ?_
    exact .closing _ fun _ => rfl

section Rules

variable {inner : Rules} (rules : inner.Placeless)

include rules

theorem nextArgument (args : List Expr) (cursor : Cursor) :
    Blind (fun last => (last.1.map Expr.bare, last.2)) cursor (nextArgument inner args)
      (Grammar.nextArgument inner (args.map Expr.bare)) := by
  refine (accept _).bind fun _ _ => .both ?_ (.pure (args, false))
  refine (at? _).bind fun _ after => .both (.pure (args, false)) ?_
  rw [List.length_map]
  refine .both (.get (.failAt _ _ _)) ?_
  exact (rules.expression after).bind fun arg _ => .pure (arg :: args, true)

theorem argumentList : Blind (List.map Expr.bare) cursor (argumentList inner) (Grammar.argumentList inner) := by
  refine (at? _).bind fun _ after => .both (.pure []) ?_
  exact (rules.expression after).bind fun arg _ => repeating (nextArgument rules) [arg]

theorem arguments : Blind (List.map Expr.bare) cursor (arguments inner) (Grammar.arguments inner) := by
  refine (expect _ _).bind fun _ _ => (argumentList rules).bind fun args _ => (expect _ _).bind fun _ _ => ?_
  exact .give List.map_reverse.symm

theorem nextColumn (columns : Named Expr) (cursor : Cursor) :
    Blind (fun last => (bareEntries last.1, last.2)) cursor (nextColumn inner columns)
      (Grammar.nextColumn inner (bareEntries columns)) := by
  refine (keyName _).bind fun key _ => ?_
  dsimp only
  rw [has_bare]
  refine .both (.failAt _ _ _) ?_
  refine (expect _ _).bind fun _ after => (rules.expression after).bind fun column _ => ?_
  rw [put_bare]
  refine (accept _).bind fun _ _ => .both ?_ (.pure (_, false))
  exact (at? _).bind fun last _ => .pure (_, !last)

theorem columnList : Blind bareEntries cursor (columnList inner) (Grammar.columnList inner) :=
  (at? _).bind fun _ _ => .both (.pure []) (repeating (nextColumn rules) [])

theorem tableLiteral : Blind Expr.bare cursor (tableLiteral inner) (Grammar.tableLiteral inner) := by
  refine advance.bind fun _ _ => (expect _ _).bind fun _ _ => (columnList rules).bind fun columns _ => ?_
  refine (expect _ _).bind fun _ _ => .closing _ fun _ => ?_
  rw [Expr.bare, Expr.bareNamed_eq]
  rfl

theorem flowLine (side : Side) : Blind Expr.bareFlow cursor (flowLine inner side) (Grammar.flowLine inner side) := by
  refine advance.bind fun _ after => (rules.expression after).bind fun _ _ => ?_
  refine (spanFrom _).bind fun _ _ => expectLineEnd.bind fun _ _ => ?_
  exact .give rfl

theorem nextFlow (flows : List (Flow Expr)) (cursor : Cursor) :
    Blind (fun last => (last.1.map Expr.bareFlow, last.2)) cursor (nextFlow inner flows)
      (Grammar.nextFlow inner (flows.map Expr.bareFlow)) := by
  refine nextLine flows fun _ => (at? _).bind fun _ _ => .both (.pure (flows, false)) ?_
  refine kindHere.bind fun kind _ => ?_
  cases Side.ofKind? kind with
  | none => exact .unexpected _
  | some side => exact (flowLine rules side).bind fun flow _ => .pure (flow :: flows, true)

theorem cashflowLiteral : Blind Expr.bare cursor (cashflowLiteral inner) (Grammar.cashflowLiteral inner) := by
  refine advance.bind fun _ _ => skipNewlines.bind fun _ _ => (expect _ _).bind fun _ _ => ?_
  refine (repeating (nextFlow rules) []).bind fun flows _ => (expect _ _).bind fun _ _ => ?_
  refine (expectEnd _).bind fun _ _ => .closing _ fun _ => ?_
  rw [Expr.bare, Expr.bareFlows_eq, List.map_reverse]

theorem portfolioLiteral : Blind Expr.bare cursor (portfolioLiteral inner) (Grammar.portfolioLiteral inner) := by
  refine advance.bind fun _ _ => skipNewlines.bind fun _ _ => (expect _ _).bind fun _ _ => ?_
  refine skipNewlines.bind fun _ after => (rules.expression after).bind fun _ _ => ?_
  refine skipNewlines.bind fun _ after => (rules.expression after).bind fun _ _ => ?_
  refine skipNewlines.bind fun _ _ => (expect _ _).bind fun _ _ => (expectEnd _).bind fun _ _ => ?_
  exact .closing _ fun _ => rfl

theorem timeseries : Blind Expr.bare cursor (timeseries inner) (Grammar.timeseries inner) := by
  refine advance.bind fun _ _ => .get ((arguments rules).bind fun args _ => ?_)
  match args with
  | [] => exact .failAt _ _ _
  | [_] => exact .failAt _ _ _
  | [series, window] => exact .closing _ fun _ => rfl
  | _ :: _ :: _ :: rest =>
      have same : (rest.map Expr.bare).length = rest.length := List.length_map _
      simp only [List.map_cons, List.length_cons, same]
      exact .failAt _ _ _

theorem plainLambda : Blind Expr.bare cursor (plainLambda inner) (Grammar.plainLambda inner) := by
  refine advance.bind fun _ _ => advance.bind fun _ after => (rules.expression after).bind fun _ _ => ?_
  exact .closing _ fun _ => rfl

theorem parenthesized : Blind Expr.bare cursor (parenthesized inner) (Grammar.parenthesized inner) := by
  refine .get (advance.bind fun _ _ => ?_)
  have same : closesBeforeArrow 1 cursor.bare.ahead = closesBeforeArrow 1 cursor.ahead := closesBeforeArrow_bare 1 _
  rw [same]
  refine .both ?_ ?_
  · refine parameters.bind fun _ _ => (expect _ _).bind fun _ _ => (expect _ _).bind fun _ after => ?_
    refine (rules.expression after).bind fun _ _ => ?_
    exact .closing _ fun _ => rfl
  · exact (rules.expression _).bind fun expr _ => (expect _ _).bind fun _ _ => .pure expr

theorem nextItem (items : List Expr) (cursor : Cursor) :
    Blind (fun last => (last.1.map Expr.bare, last.2)) cursor (nextItem inner items)
      (Grammar.nextItem inner (items.map Expr.bare)) := by
  refine (accept _).bind fun _ _ => .both ?_ (.pure (items, false))
  refine skipNewlines.bind fun _ _ => (at? _).bind fun _ after => .both (.pure (items, false)) ?_
  exact (rules.expression after).bind fun item _ => skipNewlines.bind fun _ _ => .pure (item :: items, true)

theorem itemList : Blind (List.map Expr.bare) cursor (itemList inner) (Grammar.itemList inner) := by
  refine (at? _).bind fun _ after => .both (.pure []) ?_
  exact (rules.expression after).bind fun item _ => skipNewlines.bind fun _ _ => repeating (nextItem rules) [item]

theorem listLiteral : Blind Expr.bare cursor (listLiteral inner) (Grammar.listLiteral inner) := by
  refine advance.bind fun _ _ => skipNewlines.bind fun _ _ => (itemList rules).bind fun items _ => ?_
  refine (expect _ _).bind fun _ _ => .closing _ fun _ => ?_
  rw [Expr.bare, Expr.bareAll_eq, List.map_reverse]

theorem nextField (fields : Named Expr) (cursor : Cursor) :
    Blind (fun last => (bareEntries last.1, last.2)) cursor (nextField inner fields)
      (Grammar.nextField inner (bareEntries fields)) := by
  refine skipNewlines.bind fun _ _ => (keyName _).bind fun key _ => (expect _ _).bind fun _ after => ?_
  refine (rules.expression after).bind fun value _ => ?_
  dsimp only
  rw [put_bare]
  refine skipNewlines.bind fun _ _ => (accept _).bind fun _ _ => .both ?_ (.pure (_, false))
  exact skipNewlines.bind fun _ _ => (at? _).bind fun last _ => .pure (_, !last)

theorem fieldList : Blind bareEntries cursor (fieldList inner) (Grammar.fieldList inner) :=
  (at? _).bind fun _ _ => .both (.pure []) (repeating (nextField rules) [])

theorem objectLiteral : Blind Expr.bare cursor (objectLiteral inner) (Grammar.objectLiteral inner) := by
  refine advance.bind fun _ _ => skipNewlines.bind fun _ _ => (fieldList rules).bind fun fields _ => ?_
  refine (expect _ _).bind fun _ _ => .closing _ fun _ => ?_
  rw [Expr.bare, Expr.bareNamed_eq]
  rfl

omit rules in
theorem kindAhead_bare (distance : Nat) : cursor.bare.kindAhead distance = cursor.kindAhead distance := by
  simp only [Cursor.kindAhead, Cursor.bare, List.getElem?_map, Option.map_map]
  rfl

theorem primary : Blind Expr.bare cursor (primary inner) (Grammar.primary inner) := by
  refine .get ?_
  simp only [kindAhead_bare]
  refine .both (tableLiteral rules) (.both (cashflowLiteral rules) (.both (portfolioLiteral rules) ?_))
  have literals : literalOf? cursor.bare.current = literalOf? cursor.current := rfl
  rw [literals]
  cases literalOf? cursor.current with
  | some literal => exact advance.bind fun _ _ => .give rfl
  | none =>
      refine .both (timeseries rules) (.both qualifiedName (.both (plainLambda rules) ?_))
      refine .both (advance.bind fun _ _ => .give rfl) ?_
      exact .both (parenthesized rules) (.both (listLiteral rules) (.both (objectLiteral rules) (.unexpected _)))

theorem call (callee : Expr) :
    Blind Expr.bare cursor (call inner callee) (Grammar.call inner callee.bare) := by
  refine .get ((arguments rules).bind fun args _ => ?_)
  rw [Expr.bare_span, financeCallee_bare]
  refine (spanFrom _).bind fun span _ => ?_
  have called : (Expr.call span callee args).bare = .call default callee.bare (args.map Expr.bare) := by
    rw [Expr.bare, Expr.bareAll_eq]
  cases financeCallee? callee with
  | none => exact .give called.symm
  | some found =>
      obtain ⟨name, kind, low, high⟩ := found
      dsimp only
      rw [List.length_map]
      refine .both (.failAt _ _ _) (.give ?_)
      rw [financeForm_bare span kind args]
      cases financeForm? span kind args with
      | none => exact called.symm
      | some form => rfl

omit rules in
theorem member (target : Expr) : Blind Expr.bare cursor (member target) (Grammar.member target.bare) := by
  refine advance.bind fun _ after => .get (.both ?_ (.unexpected _))
  rw [Expr.bare_span]
  exact advance.bind fun _ _ => .closing _ fun _ => rfl

theorem sliceStop (target : Expr) (start : Option Expr) :
    Blind Expr.bare cursor (sliceStop inner target start)
      (Grammar.sliceStop inner target.bare (start.map Expr.bare)) := by
  refine (unlessAny _ rules.expression).bind fun _ _ => (expect _ _).bind fun _ _ => ?_
  rw [Expr.bare_span]
  refine .closing _ fun _ => ?_
  rw [Expr.bare, Expr.bareOption_eq, Expr.bareOption_eq]

theorem subscript (target : Expr) :
    Blind Expr.bare cursor (subscript inner target) (Grammar.subscript inner target.bare) := by
  refine advance.bind fun _ _ => (accept _).bind fun _ after => .both (sliceStop rules target none) ?_
  refine (rules.expression after).bind fun index _ => (accept _).bind fun _ _ => ?_
  refine .both (sliceStop rules target (some index)) ((expect _ _).bind fun _ _ => ?_)
  rw [Expr.bare_span]
  exact .closing _ fun _ => rfl

theorem nextPostfix (target : Expr) (cursor : Cursor) :
    Blind (fun last => (last.1.bare, last.2)) cursor (nextPostfix inner target)
      (Grammar.nextPostfix inner target.bare) := by
  refine kindHere.bind fun kind _ => ?_
  split
  · exact (call rules target).bind fun _ _ => .give rfl
  · exact (member target).bind fun _ _ => .give rfl
  · exact (subscript rules target).bind fun _ _ => .give rfl
  · exact .give rfl

theorem postfixes : Blind Expr.bare cursor (postfixes inner) (Grammar.postfixes inner) :=
  (primary rules).bind fun first _ => repeating (nextPostfix rules) first

theorem unary : Blind Expr.bare cursor (unary inner) (Grammar.unary inner) := by
  refine .get ?_
  dsimp only
  have kinds : cursor.bare.current.kind = cursor.current.kind := rfl
  rw [kinds]
  cases UnaryOperator.ofKind? cursor.current.kind with
  | none => exact postfixes rules
  | some op =>
      refine advance.bind fun _ after => (rules.unary after).bind fun operand _ => .give ?_
      rw [Expr.bare_span]
      rfl

theorem nextOperand (least : Nat) (left : Expr) (cursor : Cursor) :
    Blind (fun last => (last.1.bare, last.2)) cursor (nextOperand inner least left)
      (Grammar.nextOperand inner least left.bare) := by
  refine kindHere.bind fun kind _ => ?_
  cases BinaryOperator.ofKind? kind with
  | none => exact .give rfl
  | some op =>
      refine .both (.give rfl) (advance.bind fun _ after => (rules.binary _ after).bind fun right _ => .give ?_)
      rw [Expr.bare_span, Expr.bare_span]
      rfl

theorem binary (least : Nat) : Blind Expr.bare cursor (binary inner least) (Grammar.binary inner least) :=
  (unary rules).bind fun first _ => repeating (nextOperand rules least) first

theorem expression : Blind Expr.bare cursor (expression inner) (Grammar.expression inner) := by
  refine (binary rules 1).bind fun target _ => .get ((accept _).bind fun _ after => .both ?_ (.give rfl))
  refine (rules.expression after).bind fun value _ => ?_
  cases target with
  | name span name =>
      refine .give ?_
      rw [Expr.bare_span]
      rfl
  | _ => exact .failAt _ _ _

end Rules

end Blind

end Fiscal.Grammar
