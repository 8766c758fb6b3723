import Fiscal.Proofs.Grammar.Origin

set_option autoImplicit false

namespace Fiscal.Grammar

open Source

structure Page.Read (page : Page) (expr : Expr) (cursor : Cursor) : Prop where
  tabled : expr.Tabled
  begun : page.Begun cursor expr.span.start

structure Rules.Truthful (page : Page) (rules : Rules) : Prop where
  expression (cursor : Cursor) : Faithful page page.Read cursor rules.expression
  binary (least : Nat) (cursor : Cursor) : Faithful page page.Read cursor (rules.binary least)
  unary (cursor : Cursor) : Faithful page page.Read cursor rules.unary
  statement (cursor : Cursor) : Faithful page (fun stmt _ => stmt.Tabled) cursor rules.statement

theorem Rules.Truthful.tabled {page : Page} {rules : Rules} (truthful : rules.Truthful page) (cursor : Cursor) :
    Faithful page (fun expr _ => expr.Tabled) cursor rules.expression :=
  (truthful.expression cursor).imply fun _ _ read => read.tabled

def AllTabled (exprs : List Expr) : Prop := ∀ expr ∈ exprs, expr.Tabled

structure Columns (columns : Named Expr) : Prop where
  once : (Named.names columns).Nodup
  tabled : ∀ entry ∈ columns, entry.2.Tabled

theorem Columns.put {columns : Named Expr} (known : Columns columns) (name : String) {expr : Expr}
    (tabled : expr.Tabled) : Columns (Named.put columns name expr) := by
  refine ⟨Named.nodup_put columns name expr known.once, fun entry member => ?_⟩
  rcases Named.mem_put columns name expr entry member with old | fresh
  · exact known.tabled entry old
  · exact fresh ▸ tabled

theorem financeForm_tabled {span : Span} {kind : TokenKind} {args : List Expr} {form : Expr}
    (found : financeForm? span kind args = some form) (tabled : AllTabled args) :
    form.Tabled ∧ form.span = span := by
  have part (rest : List Expr) (index : Nat) (some : ∀ expr ∈ rest, expr ∈ args) (expr : Expr)
      (member : expr ∈ rest[index]?.toList) : expr.Tabled := by
    obtain ⟨here, rfl⟩ := List.getElem?_eq_some_iff.mp (Option.mem_toList.mp member)
    exact tabled _ (some _ (List.getElem_mem here))
  unfold financeForm? at found
  split at found <;> cases found
  all_goals refine ⟨.other nofun fun child member => ?_, rfl⟩
  case h_3 | h_4 =>
      simp only [Expr.children, List.mem_cons, List.mem_append] at member
      rcases member with rfl | rfl | first | second
      · exact tabled _ (by simp)
      · exact tabled _ (by simp)
      · exact part _ 0 (fun _ among => by simp [among]) child first
      · exact part _ 1 (fun _ among => by simp [among]) child second
  all_goals exact tabled child (by simpa [Expr.children] using member)

namespace Faithful

section Rules

variable {page : Page} {rules : Rules} {cursor : Cursor}

theorem closing (start : Location) (begun : page.Begun cursor start) (expr : Span → Expr)
    (tabled : ∀ span, (expr span).Tabled) (place : ∀ span, (expr span).span = span) :
    Faithful page page.Read cursor (Grammar.spanFrom start >>= fun span => Pure.pure (expr span)) :=
  .spanFrom _ (.pure _ ⟨tabled _, by rwa [place]⟩)

variable (truthful : rules.Truthful page)

include truthful

theorem nextArgument (args : List Expr) (cursor : Cursor) (all : AllTabled args) :
    Faithful page (fun last _ => AllTabled last.1) cursor (nextArgument rules args) := by
  refine accepting .comma (fun _ after _ => ?_) (.pure _ all)
  refine .at? _ (.both (fun _ => .pure _ all) fun _ => .both (fun _ => ?_) fun _ => ?_)
  · exact .assuming fun holds => .get (.failAt _ _ holds.current)
  · exact (truthful.expression after).bind fun _ _ _ read =>
      .pure _ (List.forall_mem_cons.mpr ⟨read.tabled, all⟩)

theorem argumentList : Faithful page (fun args _ => AllTabled args) cursor (argumentList rules) := by
  refine .at? _ (.both (fun _ => .pure _ (List.forall_mem_nil _)) fun _ => ?_)
  refine (truthful.expression cursor).bind fun first after _ read => ?_
  exact repeating (nextArgument truthful) [first] (List.forall_mem_singleton.mpr read.tabled)

theorem arguments : Faithful page (fun args _ => AllTabled args) cursor (arguments rules) := by
  refine (expect .leftParen _).bind fun _ _ _ _ => (argumentList truthful).bind fun args _ _ all => ?_
  refine (expect .rightParen _).bind fun _ _ _ _ => .pure _ fun expr member => ?_
  exact all expr (List.mem_reverse.mp member)

theorem nextColumn (columns : Named Expr) (cursor : Cursor) (known : Columns columns) :
    Faithful page (fun last _ => Columns last.1) cursor (nextColumn rules columns) := by
  refine (keyName _).bind fun key _ _ member => .both (fun _ => .failAt _ _ member) fun _ => ?_
  refine (expect .colon _).bind fun _ after _ _ => (truthful.expression after).bind fun _ _ _ read => ?_
  have more := known.put key.1 read.tabled
  exact accepting .comma (fun _ _ _ => .at? _ (.pure _ more)) (.pure _ more)

theorem columnList : Faithful page (fun columns _ => Columns columns) cursor (columnList rules) :=
  have none : Columns [] := ⟨.nil, List.forall_mem_nil _⟩
  .at? _ (.both (fun _ => .pure _ none) fun _ => repeating (nextColumn truthful) [] none)

theorem tableLiteral (going : cursor.kind ≠ .endOfFile) :
    Faithful page page.Read cursor (tableLiteral rules) := by
  refine (advanceOver going).bind fun first _ _ passed => (expect .leftParen _).bind fun _ _ second _ => ?_
  refine (columnList truthful).bind fun columns _ third known => ?_
  refine (expect .rightParen _).bind fun _ _ fourth _ => ?_
  exact closing _ (fourth _ (third _ (second _ passed.2))) _
    (fun span => .table span columns known.once known.tabled) fun _ => rfl

theorem flowLine (side : Side) :
    Faithful page (fun flow _ => flow.amount.Tabled) cursor (flowLine rules side) := by
  refine advance.bind fun _ after _ _ => (truthful.expression after).bind fun _ _ _ read => ?_
  exact .spanFrom _ (expectLineEnd.bind fun _ _ _ _ => .pure _ read.tabled)

theorem nextFlow (flows : List (Flow Expr)) (cursor : Cursor) (all : ∀ flow ∈ flows, flow.amount.Tabled) :
    Faithful page (fun last _ => ∀ flow ∈ last.1, flow.amount.Tabled) cursor (nextFlow rules flows) := by
  refine .atAny _ (.both (fun _ => .pure _ all) fun _ => skipNewlines.bind fun _ after _ _ => ?_)
  refine .at? _ (.both (fun _ => .pure _ all) fun _ => .kindHere ?_)
  split
  · exact .unexpected _
  · exact (flowLine truthful _).bind fun _ _ _ tabled => .pure _ (List.forall_mem_cons.mpr ⟨tabled, all⟩)

theorem cashflowLiteral (going : cursor.kind ≠ .endOfFile) :
    Faithful page page.Read cursor (cashflowLiteral rules) := by
  refine (advanceOver going).bind fun first _ _ passed => skipNewlines.bind fun _ _ second _ => ?_
  refine (expect .indent _).bind fun _ after third _ => ?_
  have flows : Faithful page (fun flows _ => ∀ flow ∈ flows, flow.amount.Tabled) after
      (Grammar.repeating [] (Grammar.nextFlow rules)) := repeating (nextFlow truthful) [] (List.forall_mem_nil _)
  refine flows.bind fun flows _ fourth all => (expect .dedent _).bind fun _ _ fifth _ => ?_
  refine (expectEnd _).bind fun _ _ sixth _ => ?_
  refine closing _ (sixth _ (fifth _ (fourth _ (third _ (second _ passed.2))))) _
    (fun span => .other nofun fun child member => ?_) fun _ => rfl
  obtain ⟨flow, among, rfl⟩ := List.mem_map.mp member
  exact all flow (List.mem_reverse.mp among)

theorem portfolioLiteral (going : cursor.kind ≠ .endOfFile) :
    Faithful page page.Read cursor (portfolioLiteral rules) := by
  refine (advanceOver going).bind fun first _ _ passed => skipNewlines.bind fun _ _ k₁ _ => ?_
  refine (expect .indent _).bind fun _ _ k₂ _ => skipNewlines.bind fun _ after k₃ _ => ?_
  refine (truthful.expression after).bind fun _ _ k₄ assets => skipNewlines.bind fun _ after k₅ _ => ?_
  refine (truthful.expression after).bind fun _ _ k₆ weights => skipNewlines.bind fun _ _ k₇ _ => ?_
  refine (expect .dedent _).bind fun _ _ k₈ _ => (expectEnd _).bind fun _ _ k₉ _ => ?_
  refine closing _ (k₉ _ (k₈ _ (k₇ _ (k₆ _ (k₅ _ (k₄ _ (k₃ _ (k₂ _ (k₁ _ passed.2))))))))) _
    (fun span => .other nofun ?_) fun _ => rfl
  simpa [Expr.children] using ⟨assets.tabled, weights.tabled⟩

theorem timeseries (going : cursor.kind ≠ .endOfFile) : Faithful page page.Read cursor (timeseries rules) := by
  refine (advanceOver going).bind fun first _ _ passed => .assuming fun holds => .get ?_
  refine (arguments truthful).bind fun args _ kept all => ?_
  split
  · exact closing _ (kept _ passed.2) _ (fun _ => .other nofun all) fun _ => rfl
  · exact .failAt _ _ holds.current

omit truthful in
theorem qualifiedName (going : cursor.kind ≠ .endOfFile) : Faithful page page.Read cursor qualifiedName := by
  refine (advanceOver going).bind fun qualifier _ _ passed => ?_
  split
  · exact .failAt _ _ passed.1
  · refine advance.bind fun _ _ second _ => advance.bind fun _ _ third _ => ?_
    refine (expectName _).bind fun _ _ fourth _ => ?_
    exact closing _ (fourth _ (third _ (second _ passed.2))) _
      (fun _ => .other nofun (List.forall_mem_nil _)) fun _ => rfl

theorem plainLambda (going : cursor.kind ≠ .endOfFile) : Faithful page page.Read cursor (plainLambda rules) := by
  refine (advanceOver going).bind fun parameter _ _ passed => advance.bind fun _ after second _ => ?_
  refine (truthful.expression after).bind fun _ _ third body => ?_
  exact closing _ (third _ (second _ passed.2)) _
    (fun _ => .other nofun (List.forall_mem_singleton.mpr body.tabled)) fun _ => rfl

theorem parenthesized (going : cursor.kind ≠ .endOfFile) :
    Faithful page page.Read cursor (parenthesized rules) := by
  refine .get ((advanceOver going).bind fun first after _ passed => .both (fun _ => ?_) fun _ => ?_)
  · refine parameters.bind fun _ _ k₁ _ => (expect .rightParen _).bind fun _ _ k₂ _ => ?_
    refine (expect .arrow _).bind fun _ after k₃ _ => (truthful.expression after).bind fun _ _ k₄ body => ?_
    exact closing _ (k₄ _ (k₃ _ (k₂ _ (k₁ _ passed.2)))) _
      (fun _ => .other nofun (List.forall_mem_singleton.mpr body.tabled)) fun _ => rfl
  · refine (truthful.expression after).bind fun _ _ _ inner => (expect .rightParen _).bind fun _ _ kept _ => ?_
    exact .pure _ ⟨inner.tabled, kept _ inner.begun⟩

theorem nextItem (items : List Expr) (cursor : Cursor) (all : AllTabled items) :
    Faithful page (fun last _ => AllTabled last.1) cursor (nextItem rules items) := by
  refine accepting .comma (fun _ _ _ => skipNewlines.bind fun _ after _ _ => ?_) (.pure _ all)
  refine .at? _ (.both (fun _ => .pure _ all) fun _ => ?_)
  refine (truthful.expression after).bind fun _ _ _ read => skipNewlines.bind fun _ _ _ _ => ?_
  exact .pure _ (List.forall_mem_cons.mpr ⟨read.tabled, all⟩)

theorem itemList : Faithful page (fun items _ => AllTabled items) cursor (itemList rules) := by
  refine .at? _ (.both (fun _ => .pure _ (List.forall_mem_nil _)) fun _ => ?_)
  refine (truthful.expression cursor).bind fun first _ _ read => skipNewlines.bind fun _ after _ _ => ?_
  exact repeating (nextItem truthful) [first] (List.forall_mem_singleton.mpr read.tabled)

theorem listLiteral (going : cursor.kind ≠ .endOfFile) : Faithful page page.Read cursor (listLiteral rules) := by
  refine (advanceOver going).bind fun first _ _ passed => skipNewlines.bind fun _ _ second _ => ?_
  refine (itemList truthful).bind fun items _ third all => (expect .rightBracket _).bind fun _ _ fourth _ => ?_
  exact closing _ (fourth _ (third _ (second _ passed.2))) _
    (fun _ => .other nofun fun child member => all child (List.mem_reverse.mp member)) fun _ => rfl

theorem nextField (fields : Named Expr) (cursor : Cursor) (all : ∀ entry ∈ fields, entry.2.Tabled) :
    Faithful page (fun last _ => ∀ entry ∈ last.1, entry.2.Tabled) cursor (nextField rules fields) := by
  refine skipNewlines.bind fun _ _ _ _ => (keyName _).bind fun key _ _ _ => ?_
  refine (expect .colon _).bind fun _ after _ _ => (truthful.expression after).bind fun value _ _ read => ?_
  have more : ∀ entry ∈ Named.put fields key.1 value, entry.2.Tabled := by
    intro entry member
    rcases Named.mem_put fields key.1 value entry member with old | fresh
    · exact all entry old
    · exact fresh ▸ read.tabled
  refine skipNewlines.bind fun _ _ _ _ => accepting .comma (fun _ _ _ => ?_) (.pure _ more)
  exact skipNewlines.bind fun _ _ _ _ => .at? _ (.pure _ more)

theorem fieldList :
    Faithful page (fun fields _ => ∀ entry ∈ fields, entry.2.Tabled) cursor (fieldList rules) :=
  .at? _ (.both (fun _ => .pure _ (List.forall_mem_nil _)) fun _ =>
    repeating (nextField truthful) [] (List.forall_mem_nil _))

theorem objectLiteral (going : cursor.kind ≠ .endOfFile) :
    Faithful page page.Read cursor (objectLiteral rules) := by
  refine (advanceOver going).bind fun first _ _ passed => skipNewlines.bind fun _ _ second _ => ?_
  refine (fieldList truthful).bind fun fields _ third all => (expect .rightBrace _).bind fun _ _ fourth _ => ?_
  refine closing _ (fourth _ (third _ (second _ passed.2))) _
    (fun _ => .other nofun fun child member => ?_) fun _ => rfl
  obtain ⟨entry, among, rfl⟩ := List.mem_map.mp member
  exact all entry among

theorem primary : Faithful page page.Read cursor (primary rules) := by
  have begins (kind : TokenKind) (other : kind ≠ .endOfFile) (found : (cursor.kind == kind) = true) :
      cursor.kind ≠ .endOfFile := by
    rwa [beq_iff_eq.mp found]
  refine .get (.both (fun table => ?_) fun _ => .both (fun cashflow => ?_) fun _ =>
    .both (fun portfolio => ?_) fun _ => ?_)
  · exact tableLiteral truthful (begins .tableKeyword (by decide) (Bool.and_eq_true_iff.mp table).1)
  · exact cashflowLiteral truthful (begins _ (by decide) cashflow)
  · exact portfolioLiteral truthful (begins _ (by decide) portfolio)
  split
  · rename_i literal found
    have going : cursor.kind ≠ .endOfFile := by
      intro last
      rw [literalOf?, show cursor.current.kind = .endOfFile from last] at found
      cases found
    exact passing going fun begun => .pure _ ⟨.other nofun (List.forall_mem_nil _), begun⟩
  refine .both (fun series => ?_) fun _ => .both (fun qualified => ?_) fun _ =>
    .both (fun lambda => ?_) fun _ => .both (fun named => ?_) fun _ => .both (fun paren => ?_) fun _ =>
    .both (fun bracket => ?_) fun _ => .both (fun brace => ?_) fun _ => .unexpected _
  · exact timeseries truthful (begins _ (by decide) (Bool.and_eq_true_iff.mp series).1)
  · simp only [Bool.and_eq_true] at qualified
    exact qualifiedName (begins _ (by decide) qualified.1.1)
  · exact plainLambda truthful (begins _ (by decide) (Bool.and_eq_true_iff.mp lambda).1)
  · refine passing (fun last => ?_) fun begun => .pure _ ⟨.other nofun (List.forall_mem_nil _), begun⟩
    rw [show cursor.current.kind = .endOfFile from last] at named
    cases named
  · exact parenthesized truthful (begins _ (by decide) paren)
  · exact listLiteral truthful (begins _ (by decide) bracket)
  · exact objectLiteral truthful (begins _ (by decide) brace)

theorem call (callee : Expr) (read : page.Read callee cursor) :
    Faithful page page.Read cursor (call rules callee) := by
  refine .assuming fun holds => .get ((arguments truthful).bind fun args _ kept all => .spanFrom _ ?_)
  have plain (span : Span) : (Expr.call span callee args).Tabled :=
    .other nofun (List.forall_mem_cons.mpr ⟨read.tabled, all⟩)
  split
  · exact .pure _ ⟨plain _, kept _ read.begun⟩
  · refine .both (fun _ => .failAt _ _ holds.current) fun _ => .pure _ ?_
    cases found : financeForm? _ _ args with
    | none => exact ⟨plain _, kept _ read.begun⟩
    | some form =>
        obtain ⟨tabled, place⟩ := financeForm_tabled found all
        refine ⟨tabled, ?_⟩
        rw [Option.getD_some, place]
        exact kept _ read.begun

omit truthful in
theorem member (target : Expr) (read : page.Read target cursor) :
    Faithful page page.Read cursor (member target) := by
  refine advance.bind fun _ _ first _ => .get (.both (fun _ => ?_) fun _ => .unexpected _)
  refine advance.bind fun _ _ second _ => ?_
  exact closing _ (second _ (first _ read.begun)) _
    (fun _ => .other nofun (List.forall_mem_singleton.mpr read.tabled)) fun _ => rfl

theorem sliceStop (target : Expr) (start : Option Expr) (read : page.Read target cursor)
    (started : ∀ expr ∈ start.toList, expr.Tabled) :
    Faithful page page.Read cursor (sliceStop rules target start) := by
  have stop := unlessAny [.rightBracket] (truthful.tabled cursor)
  refine stop.bind fun stop _ first stopped => (expect .rightBracket _).bind fun _ _ second _ => ?_
  refine closing _ (second _ (first _ read.begun)) _ (fun _ => .other nofun ?_) fun _ => rfl
  refine List.forall_mem_cons.mpr ⟨read.tabled, fun expr member => ?_⟩
  rcases List.mem_append.mp member with before | behind
  · exact started expr before
  · exact stopped expr behind

theorem subscript (target : Expr) (read : page.Read target cursor) :
    Faithful page page.Read cursor (subscript rules target) := by
  refine advance.bind fun _ _ first _ => ?_
  refine accepting .colon (fun _ _ kept =>
    sliceStop truthful _ _ ⟨read.tabled, kept _ (first _ read.begun)⟩ (List.forall_mem_nil _)) ?_
  refine (truthful.expression _).bind fun index _ second inner => ?_
  refine accepting .colon (fun _ _ kept => ?_) ?_
  · exact sliceStop truthful _ _ ⟨read.tabled, kept _ (second _ (first _ read.begun))⟩
      (by simpa using inner.tabled)
  · refine (expect .rightBracket _).bind fun _ _ third _ => ?_
    refine closing _ (third _ (second _ (first _ read.begun))) _ (fun _ => .other nofun ?_) fun _ => rfl
    simpa [Expr.children] using ⟨read.tabled, inner.tabled⟩

theorem nextPostfix (target : Expr) (cursor : Cursor) (read : page.Read target cursor) :
    Faithful page (fun last => page.Read last.1) cursor (nextPostfix rules target) := by
  refine .kindHere ?_
  split
  · exact (call truthful target read).bind fun _ _ _ held => .pure _ held
  · exact (member target read).bind fun _ _ _ held => .pure _ held
  · exact (subscript truthful target read).bind fun _ _ _ held => .pure _ held
  · exact .pure _ read

theorem postfixes : Faithful page page.Read cursor (postfixes rules) :=
  (primary truthful).bind fun first _ _ read => repeating (nextPostfix truthful) first read

theorem unary : Faithful page page.Read cursor (unary rules) := by
  refine .get ?_
  dsimp only
  split
  · rename_i op found
    have going : cursor.kind ≠ .endOfFile := by
      intro last
      rw [show cursor.current.kind = .endOfFile from last] at found
      cases found
    refine passing going fun begun => (truthful.unary _).bind fun _ _ kept read => ?_
    exact .pure _ ⟨.other nofun (List.forall_mem_singleton.mpr read.tabled), kept _ begun⟩
  · exact postfixes truthful

theorem nextOperand (least : Nat) (left : Expr) (cursor : Cursor) (read : page.Read left cursor) :
    Faithful page (fun last => page.Read last.1) cursor (nextOperand rules least left) := by
  refine .kindHere ?_
  split
  · exact .pure _ read
  · refine .both (fun _ => .pure _ read) fun _ => advance.bind fun _ after first _ => ?_
    refine (truthful.binary _ after).bind fun right _ second inner => .pure _ ⟨.other nofun ?_, ?_⟩
    · simpa [Expr.children] using ⟨read.tabled, inner.tabled⟩
    · exact second _ (first _ read.begun)

theorem binary (least : Nat) : Faithful page page.Read cursor (binary rules least) :=
  (unary truthful).bind fun first _ _ read => repeating (nextOperand truthful least) first read

theorem expression : Faithful page page.Read cursor (expression rules) := by
  refine (binary truthful 1).bind fun target middle _ read => .assuming fun holds => .get ?_
  refine accepting .equal (fun here after kept => ?_) (.pure _ read)
  refine (truthful.expression after).bind fun value last further inner => ?_
  split
  · exact .pure _ ⟨.other nofun (List.forall_mem_singleton.mpr inner.tabled), further _ (kept _ read.begun)⟩
  · refine .get (.refuse _ fun within => ?_)
    obtain ⟨before, first, split, member, start⟩ := read.begun
    rw [Cursor.lineOf, within.lines]
    exact .equals _ before middle.current middle.ahead first split here member start

end Rules

end Faithful

end Fiscal.Grammar
