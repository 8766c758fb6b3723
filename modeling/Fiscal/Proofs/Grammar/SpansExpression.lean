import Fiscal.Proofs.Grammar.Spans

set_option autoImplicit false

namespace Fiscal.Grammar

open Source

structure Rules.Nesting (rules : Rules) : Prop where
  expression (cursor : Cursor) : Spans (Read Expr.outline cursor) cursor rules.expression
  binary (least : Nat) (cursor : Cursor) : Spans (Read Expr.outline cursor) cursor (rules.binary least)
  unary (cursor : Cursor) : Spans (Read Expr.outline cursor) cursor rules.unary
  statement (cursor : Cursor) (going : cursor.kind ≠ .endOfFile) (inside : cursor.kind ≠ .dedent) :
    Spans (Read Stmt.outline cursor) cursor rules.statement

theorem Read.gathered {first cursor : Cursor} {expr : Expr} (read : Read Expr.outline first expr cursor) :
    Gathered first expr.span.start cursor [expr.outline] :=
  expr.outline_span ▸ Held.gathered read

theorem financeForm_children {span : Span} {kind : TokenKind} {args : List Expr} {form : Expr}
    (found : financeForm? span kind args = some form) :
    form.span = span ∧ form.outline.children ⊆ args.map Expr.outline := by
  have part (rest : List Expr) (index : Nat) (outline : Outline)
      (member : outline ∈ rest[index]?.toList.map Expr.outline) : ∃ expr ∈ rest, expr.outline = outline := by
    obtain ⟨expr, here, rfl⟩ := List.mem_map.mp member
    exact ⟨expr, List.mem_of_getElem? (Option.mem_toList.mp here), rfl⟩
  unfold financeForm? at found
  split at found <;> cases found
  all_goals refine ⟨rfl, ?_⟩
  case h_3 rate periods rest | h_4 rate periods rest =>
      intro outline member
      simp only [Expr.outline, Outline.node_children, List.flatMap_cons, OutlineField.child_outlines,
        Expr.optional_outlines, List.flatMap_nil, List.append_nil, List.mem_append, List.mem_singleton] at member
      simp only [List.map_cons, List.mem_cons, List.mem_map]
      rcases member with rfl | rfl | first | second
      · exact .inl rfl
      · exact .inr (.inl rfl)
      · exact .inr (.inr (part rest 0 outline first))
      · exact .inr (.inr (part rest 1 outline second))
  all_goals simp [Expr.outline]

namespace Spans

section Rules

variable {rules : Rules} {first cursor : Cursor} {start : Location} {parts : List Outline}

variable (nesting : rules.Nesting)

include nesting

theorem nextArgument (args : List Expr) (gathered : Listed Expr.outline first start parts args cursor) :
    Spans (fun last => Listed Expr.outline first start parts last.1) cursor (nextArgument rules args) := by
  refine keeping gathered (.course (.accept .comma (by decide))) fun _ after gathered _ => ?_
  refine .both (fun _ => .at? _ (.both (fun _ => .pure _ gathered) fun _ => ?_)) fun _ => .pure _ gathered
  refine .both (fun _ => .get (.failAt _ _ _)) fun _ => ?_
  exact adding gathered (nesting.expression after) fun _ _ gathered => .pure _ gathered

theorem arguments (gathered : Gathered first start cursor parts) :
    Spans (Listed Expr.outline first start parts) cursor (arguments rules) := by
  refine keeping gathered (.course (.expect .leftParen _ (by decide))) fun _ after gathered _ => ?_
  have list : Spans (Listed Expr.outline first start parts) after (argumentList rules) := by
    refine .at? _ (.both (fun _ => .pure _ gathered) fun _ => ?_)
    refine adding gathered (nesting.expression after) fun arg _ gathered => ?_
    exact repeating (fun args _ gathered => nextArgument nesting args gathered) [arg] gathered
  refine list.bind fun args _ _ gathered => ?_
  refine keeping gathered (.course (.expect .rightParen _ (by decide))) fun _ _ gathered _ => ?_
  exact .pure _ (gathered.fewer (by simp))

omit nesting in
theorem put_gathered {fields : Named Expr} {value : Expr} (key : String)
    (gathered : Gathered first start cursor (value.outline :: (fields.map Expr.fieldOutline ++ parts))) :
    Listed Expr.fieldOutline first start parts (Named.put fields key value) cursor := by
  refine gathered.fewer fun outline member => ?_
  rcases List.mem_append.mp member with field | before
  · obtain ⟨entry, among, rfl⟩ := List.mem_map.mp field
    rcases Named.mem_put fields key value entry among with old | fresh
    · exact List.mem_cons_of_mem _ (List.mem_append_left _ (List.mem_map.mpr ⟨entry, old, rfl⟩))
    · exact fresh ▸ List.mem_cons_self
  · exact List.mem_cons_of_mem _ (List.mem_append_right _ before)

theorem nextColumn (columns : Named Expr)
    (gathered : Listed Expr.fieldOutline first start parts columns cursor) :
    Spans (fun last => Listed Expr.fieldOutline first start parts last.1) cursor (nextColumn rules columns) := by
  refine keeping gathered (.course (.keyName _)) fun key _ gathered _ => .both (fun _ => .failAt _ _ _) fun _ => ?_
  refine keeping gathered (.course (.expect .colon _ (by decide))) fun _ after gathered _ => ?_
  refine adding gathered (nesting.expression after) fun _ _ gathered => ?_
  refine keeping (put_gathered key.1 gathered) (.course (.accept .comma (by decide))) fun _ _ gathered _ => ?_
  exact .both (fun _ => .at? _ (.pure _ gathered)) fun _ => .pure _ gathered

theorem columnList (gathered : Gathered first start cursor parts) :
    Spans (Listed Expr.fieldOutline first start parts) cursor (columnList rules) :=
  .at? _ (.both (fun _ => .pure _ gathered) fun _ =>
    repeating (fun columns _ gathered => nextColumn nesting columns gathered) [] gathered)

theorem tableLiteral (going : cursor.kind ≠ .endOfFile) :
    Spans (Read Expr.outline cursor) cursor (tableLiteral rules) := by
  refine (opening going).bind fun token _ _ ⟨gathered, _⟩ => ?_
  refine keeping gathered (.course (.expect .leftParen _ (by decide))) fun _ _ gathered _ => ?_
  refine (columnList nesting gathered).bind fun columns _ _ gathered => ?_
  refine keeping gathered (.course (.expect .rightParen _ (by decide))) fun _ _ gathered _ => ?_
  exact closing gathered _ (fun _ => rfl) fun _ => by simp [Expr.outline, Expr.namedOutlines_snd]

theorem flowLine (side : Side) (going : cursor.kind ≠ .endOfFile) :
    Spans (Read Flow.outline cursor) cursor (flowLine rules side) := by
  refine (opening going).bind fun token after _ ⟨gathered, _⟩ => ?_
  refine adding gathered (nesting.expression after) fun amount after gathered => .spanFrom _ ?_
  have held : Held cursor after (Flow.outline ⟨⟨token.span.start, after.previous.span.stop⟩, side, amount⟩) :=
    gathered.close rfl (by simp [Flow.outline])
  exact (Spans.course .expectLineEnd).bind fun _ _ onward _ => .pure _ (held.further onward)

theorem nextFlow (flows : List (Flow Expr))
    (gathered : Listed Flow.outline first start parts flows cursor) :
    Spans (fun last => Listed Flow.outline first start parts last.1) cursor (nextFlow rules flows) := by
  refine .atAny _ (.both (fun _ => .pure _ gathered) fun _ => ?_)
  refine keeping gathered (.course .skipNewlines) fun _ after gathered _ => ?_
  refine .at? _ (.both (fun _ => .pure _ gathered) fun _ => .kindHere ?_)
  split
  · exact .unexpected _
  · rename_i side found
    exact adding gathered (flowLine nesting side (Reads.side_going found)) fun _ _ gathered => .pure _ gathered

theorem cashflowLiteral (going : cursor.kind ≠ .endOfFile) :
    Spans (Read Expr.outline cursor) cursor (cashflowLiteral rules) := by
  refine (opening going).bind fun token _ _ ⟨gathered, _⟩ => ?_
  refine keeping gathered (.course .skipNewlines) fun _ _ gathered _ => ?_
  refine keeping gathered (.course (.expect .indent _ (by decide))) fun _ after gathered _ => ?_
  have lines : Spans (Listed Flow.outline cursor token.span.start []) after
      (Grammar.repeating [] (Grammar.nextFlow rules)) :=
    repeating (fun flows _ gathered => nextFlow nesting flows gathered) [] gathered
  refine lines.bind fun flows _ _ gathered => ?_
  refine keeping gathered (.course (.expect .dedent _ (by decide))) fun _ _ gathered _ => ?_
  refine keeping gathered (.course (.expectEnd _)) fun _ _ gathered _ => ?_
  exact closing gathered _ (fun _ => rfl) fun _ => by simp [Expr.outline, Expr.flowOutlines_eq]

theorem portfolioLiteral (going : cursor.kind ≠ .endOfFile) :
    Spans (Read Expr.outline cursor) cursor (portfolioLiteral rules) := by
  refine (opening going).bind fun token _ _ ⟨gathered, _⟩ => ?_
  refine keeping gathered (.course .skipNewlines) fun _ _ gathered _ => ?_
  refine keeping gathered (.course (.expect .indent _ (by decide))) fun _ _ gathered _ => ?_
  refine keeping gathered (.course .skipNewlines) fun _ after gathered _ => ?_
  refine adding gathered (nesting.expression after) fun assets _ gathered => ?_
  refine keeping gathered (.course .skipNewlines) fun _ after gathered _ => ?_
  refine adding gathered (nesting.expression after) fun weights _ gathered => ?_
  refine keeping gathered (.course .skipNewlines) fun _ _ gathered _ => ?_
  refine keeping gathered (.course (.expect .dedent _ (by decide))) fun _ _ gathered _ => ?_
  refine keeping gathered (.course (.expectEnd _)) fun _ _ gathered _ => ?_
  exact closing gathered _ (fun _ => rfl) fun _ => by simp [Expr.outline]

theorem timeseries (going : cursor.kind ≠ .endOfFile) :
    Spans (Read Expr.outline cursor) cursor (timeseries rules) := by
  refine (opening going).bind fun token _ _ ⟨gathered, _⟩ => .get ?_
  refine (arguments nesting gathered).bind fun args _ _ gathered => ?_
  split
  · exact closing gathered _ (fun _ => rfl) fun _ => by simp [Expr.outline]
  · exact .failAt _ _ _

omit nesting in
theorem qualifiedName (going : cursor.kind ≠ .endOfFile) :
    Spans (Read Expr.outline cursor) cursor qualifiedName := by
  refine (opening going).bind fun qualifier _ _ ⟨gathered, _⟩ => ?_
  split
  · exact .failAt _ _ _
  · refine keeping gathered (.course .step) fun _ _ gathered _ => ?_
    refine keeping gathered (.course .step) fun _ _ gathered _ => ?_
    refine keeping gathered (.course (.expectName _)) fun _ _ gathered _ => ?_
    exact closing gathered _ (fun _ => rfl) fun _ => by simp [Expr.outline]

theorem plainLambda (going : cursor.kind ≠ .endOfFile) :
    Spans (Read Expr.outline cursor) cursor (plainLambda rules) := by
  refine (opening going).bind fun parameter _ _ ⟨gathered, _⟩ => ?_
  refine keeping gathered (.course .step) fun _ after gathered _ => ?_
  refine adding gathered (nesting.expression after) fun body _ gathered => ?_
  exact closing gathered _ (fun _ => rfl) fun _ => by simp [Expr.outline]

theorem parenthesized (going : cursor.kind ≠ .endOfFile) :
    Spans (Read Expr.outline cursor) cursor (parenthesized rules) := by
  refine .get ((opening going).bind fun token after onward ⟨gathered, _⟩ => .both (fun _ => ?_) fun _ => ?_)
  · refine keeping gathered (.course .parameters) fun _ _ gathered _ => ?_
    refine keeping gathered (.course (.expect .rightParen _ (by decide))) fun _ _ gathered _ => ?_
    refine keeping gathered (.course (.expect .arrow _ (by decide))) fun _ after gathered _ => ?_
    refine adding gathered (nesting.expression after) fun body _ gathered => ?_
    exact closing gathered _ (fun _ => rfl) fun _ => by simp [Expr.outline]
  · refine (nesting.expression after).bind fun expr _ _ inner => ?_
    refine (Spans.course (.expect .rightParen _ (by decide))).bind fun _ _ further _ => ?_
    exact .pure _ ((Held.further inner further).earlier onward)

theorem nextItem (items : List Expr) (gathered : Listed Expr.outline first start parts items cursor) :
    Spans (fun last => Listed Expr.outline first start parts last.1) cursor (nextItem rules items) := by
  refine keeping gathered (.course (.accept .comma (by decide))) fun _ _ gathered _ => ?_
  refine .both (fun _ => ?_) fun _ => .pure _ gathered
  refine keeping gathered (.course .skipNewlines) fun _ after gathered _ => ?_
  refine .at? _ (.both (fun _ => .pure _ gathered) fun _ => ?_)
  refine adding gathered (nesting.expression after) fun item _ gathered => ?_
  exact keeping gathered (.course .skipNewlines) fun _ _ gathered _ => .pure _ gathered

theorem itemList (gathered : Gathered first start cursor parts) :
    Spans (Listed Expr.outline first start parts) cursor (itemList rules) := by
  refine .at? _ (.both (fun _ => .pure _ gathered) fun _ => ?_)
  refine adding gathered (nesting.expression cursor) fun item _ gathered => ?_
  refine keeping gathered (.course .skipNewlines) fun _ _ gathered _ => ?_
  exact repeating (fun items _ gathered => nextItem nesting items gathered) [item] gathered

theorem listLiteral (going : cursor.kind ≠ .endOfFile) :
    Spans (Read Expr.outline cursor) cursor (listLiteral rules) := by
  refine (opening going).bind fun token _ _ ⟨gathered, _⟩ => ?_
  refine keeping gathered (.course .skipNewlines) fun _ _ gathered _ => ?_
  refine (itemList nesting gathered).bind fun items _ _ gathered => ?_
  refine keeping gathered (.course (.expect .rightBracket _ (by decide))) fun _ _ gathered _ => ?_
  exact closing gathered _ (fun _ => rfl) fun _ => by simp [Expr.outline, Expr.outlines_eq]

theorem nextField (fields : Named Expr)
    (gathered : Listed Expr.fieldOutline first start parts fields cursor) :
    Spans (fun last => Listed Expr.fieldOutline first start parts last.1) cursor (nextField rules fields) := by
  refine keeping gathered (.course .skipNewlines) fun _ _ gathered _ => ?_
  refine keeping gathered (.course (.keyName _)) fun key _ gathered _ => ?_
  refine keeping gathered (.course (.expect .colon _ (by decide))) fun _ after gathered _ => ?_
  refine adding gathered (nesting.expression after) fun value _ gathered => ?_
  refine keeping (put_gathered key.1 gathered) (.course .skipNewlines) fun _ _ gathered _ => ?_
  refine keeping gathered (.course (.accept .comma (by decide))) fun _ _ gathered _ => ?_
  refine .both (fun _ => ?_) fun _ => .pure _ gathered
  exact keeping gathered (.course .skipNewlines) fun _ _ gathered _ => .at? _ (.pure _ gathered)

theorem fieldList (gathered : Gathered first start cursor parts) :
    Spans (Listed Expr.fieldOutline first start parts) cursor (fieldList rules) :=
  .at? _ (.both (fun _ => .pure _ gathered) fun _ =>
    repeating (fun fields _ gathered => nextField nesting fields gathered) [] gathered)

theorem objectLiteral (going : cursor.kind ≠ .endOfFile) :
    Spans (Read Expr.outline cursor) cursor (objectLiteral rules) := by
  refine (opening going).bind fun token _ _ ⟨gathered, _⟩ => ?_
  refine keeping gathered (.course .skipNewlines) fun _ _ gathered _ => ?_
  refine (fieldList nesting gathered).bind fun fields _ _ gathered => ?_
  refine keeping gathered (.course (.expect .rightBrace _ (by decide))) fun _ _ gathered _ => ?_
  exact closing gathered _ (fun _ => rfl) fun _ => by simp [Expr.outline, Expr.namedOutlines_snd]

omit nesting in
theorem single (going : cursor.kind ≠ .endOfFile) :
    Spans (fun _ after => ∀ expr : Expr, expr.span = cursor.current.span → expr.outline.children = [] →
      Read Expr.outline cursor expr after) cursor Grammar.advance := by
  refine (opening going).imply fun token after ⟨gathered, here, behind⟩ expr place leaf => ?_
  refine gathered.close ?_ (by simp [leaf])
  rw [Expr.outline_span, place, here, behind]

theorem primary : Spans (Read Expr.outline cursor) cursor (primary rules) := by
  have begins (kind : TokenKind) (other : kind ≠ .endOfFile) (found : (cursor.kind == kind) = true) :
      cursor.kind ≠ .endOfFile := by
    rwa [beq_iff_eq.mp found]
  refine .get (.both (fun table => ?_) fun _ => .both (fun cashflow => ?_) fun _ =>
    .both (fun portfolio => ?_) fun _ => ?_)
  · exact tableLiteral nesting (begins .tableKeyword (by decide) (Bool.and_eq_true_iff.mp table).1)
  · exact cashflowLiteral nesting (begins _ (by decide) cashflow)
  · exact portfolioLiteral nesting (begins _ (by decide) portfolio)
  split
  · rename_i literal found
    exact (single (Reads.literal_going found)).bind fun _ _ _ held => .pure _ (held _ rfl (by simp [Expr.outline]))
  refine .both (fun series => ?_) fun _ => .both (fun qualified => ?_) fun _ =>
    .both (fun lambda => ?_) fun _ => .both (fun named => ?_) fun _ => .both (fun paren => ?_) fun _ =>
    .both (fun bracket => ?_) fun _ => .both (fun brace => ?_) fun _ => .unexpected _
  · exact timeseries nesting (begins _ (by decide) (Bool.and_eq_true_iff.mp series).1)
  · simp only [Bool.and_eq_true] at qualified
    exact qualifiedName (begins _ (by decide) qualified.1.1)
  · exact plainLambda nesting (begins _ (by decide) (Bool.and_eq_true_iff.mp lambda).1)
  · refine (single fun last => ?_).bind fun _ _ _ held => .pure _ (held _ rfl (by simp [Expr.outline]))
    rw [show cursor.current.kind = .endOfFile from last] at named
    cases named
  · exact parenthesized nesting (begins _ (by decide) paren)
  · exact listLiteral nesting (begins _ (by decide) bracket)
  · exact objectLiteral nesting (begins _ (by decide) brace)

theorem call (callee : Expr) (read : Read Expr.outline first callee cursor) :
    Spans (Read Expr.outline first) cursor (call rules callee) := by
  refine .get ((arguments nesting read.gathered).bind fun args after _ gathered => .spanFrom _ ?_)
  have plain : Read Expr.outline first (.call ⟨callee.span.start, after.previous.span.stop⟩ callee args) after :=
    gathered.close rfl (by simp [Expr.outline, Expr.outlines_eq])
  split
  · exact .pure _ plain
  · refine .both (fun _ => .failAt _ _ _) fun _ => .pure _ ?_
    cases found : financeForm? _ _ args with
    | none => exact plain
    | some form =>
        obtain ⟨place, inside⟩ := financeForm_children found
        exact gathered.close (form.outline_span.trans place) fun part member =>
          List.mem_append_left _ (inside member)

omit nesting in
theorem member (target : Expr) (read : Read Expr.outline first target cursor) :
    Spans (Read Expr.outline first) cursor (member target) := by
  refine keeping read.gathered (.course .step) fun _ _ gathered _ => .get (.both (fun _ => ?_) fun _ => .unexpected _)
  refine keeping gathered (.course .step) fun _ _ gathered _ => ?_
  exact closing gathered _ (fun _ => rfl) fun _ => by simp [Expr.outline]

theorem sliceStop (target : Expr) (lower : Option Expr)
    (gathered : Listed Expr.outline first target.span.start [target.outline] lower.toList cursor) :
    Spans (Read Expr.outline first) cursor (sliceStop rules target lower) := by
  refine (unlessAny gathered [.rightBracket] (nesting.expression cursor)).bind fun upper _ _ gathered => ?_
  refine keeping gathered (.course (.expect .rightBracket _ (by decide))) fun _ _ gathered _ => ?_
  refine closing gathered _ (fun _ => rfl) fun _ part member => ?_
  simp only [Expr.outline, Outline.node_children, List.flatMap_cons, OutlineField.child_outlines,
    Expr.optional_outlines, List.flatMap_nil, List.append_nil, List.mem_append, List.mem_singleton] at member ⊢
  rcases member with whole | below | above
  · exact .inr (.inr whole)
  · exact .inr (.inl below)
  · exact .inl above

theorem subscript (target : Expr) (read : Read Expr.outline first target cursor) :
    Spans (Read Expr.outline first) cursor (subscript rules target) := by
  refine keeping read.gathered (.course .step) fun _ _ gathered _ => ?_
  refine keeping gathered (.course (.accept .colon (by decide))) fun _ after gathered _ => ?_
  refine .both (fun _ => sliceStop nesting target none gathered) fun _ => ?_
  refine adding gathered (nesting.expression after) fun index _ gathered => ?_
  refine keeping gathered (.course (.accept .colon (by decide))) fun _ _ gathered _ => ?_
  refine .both (fun _ => sliceStop nesting target (some index) gathered) fun _ => ?_
  refine keeping gathered (.course (.expect .rightBracket _ (by decide))) fun _ _ gathered _ => ?_
  exact closing gathered _ (fun _ => rfl) fun _ => by simp [Expr.outline]

theorem nextPostfix (target : Expr) (read : Read Expr.outline first target cursor) :
    Spans (fun last => Read Expr.outline first last.1) cursor (nextPostfix rules target) := by
  refine .kindHere ?_
  split
  · exact (call nesting target read).bind fun _ _ _ held => .pure _ held
  · exact (member target read).bind fun _ _ _ held => .pure _ held
  · exact (subscript nesting target read).bind fun _ _ _ held => .pure _ held
  · exact .pure _ read

theorem postfixes : Spans (Read Expr.outline cursor) cursor (postfixes rules) :=
  (primary nesting).bind fun target _ _ read =>
    repeating (fun target _ read => nextPostfix nesting target read) target read

theorem unary : Spans (Read Expr.outline cursor) cursor (unary rules) := by
  refine .get ?_
  dsimp only
  split
  · rename_i op found
    have going : cursor.kind ≠ .endOfFile := by
      intro last
      rw [show cursor.current.kind = .endOfFile from last] at found
      cases found
    refine (opening going).bind fun token after _ ⟨gathered, here, _⟩ => ?_
    refine (nesting.unary after).bind fun operand _ _ held => .pure _ ?_
    refine gathered.reach held ?_ (by simp [Expr.outline])
    rw [here, Expr.outline_span, Expr.outline_span]
    rfl
  · exact postfixes nesting

theorem nextOperand (least : Nat) (left : Expr) (read : Read Expr.outline first left cursor) :
    Spans (fun last => Read Expr.outline first last.1) cursor (nextOperand rules least left) := by
  refine .kindHere ?_
  split
  · exact .pure _ read
  · refine .both (fun _ => .pure _ read) fun _ => ?_
    refine keeping read.gathered (.course .step) fun _ after gathered _ => ?_
    refine (nesting.binary _ after).bind fun right _ _ held => .pure _ ?_
    refine gathered.reach held ?_ (by simp [Expr.outline])
    rw [Expr.outline_span, Expr.outline_span]
    rfl

theorem binary (least : Nat) : Spans (Read Expr.outline cursor) cursor (binary rules least) :=
  (unary nesting).bind fun left _ _ read =>
    repeating (fun left _ read => nextOperand nesting least left read) left read

theorem expression : Spans (Read Expr.outline cursor) cursor (expression rules) := by
  refine (binary nesting 1).bind fun target _ _ read => .get ?_
  refine (Spans.course (.accept .equal (by decide))).bind fun _ after onward _ => ?_
  refine .both (fun _ => ?_) fun _ => .pure _ (Held.further read onward)
  refine (nesting.expression after).bind fun value _ _ held => ?_
  split
  · refine .pure _ ((read.gathered.further onward).reach held ?_ (by simp [Expr.outline]))
    rw [Expr.outline_span, Expr.outline_span]
    rfl
  · exact .failAt _ _ _

end Rules

end Spans

end Fiscal.Grammar
