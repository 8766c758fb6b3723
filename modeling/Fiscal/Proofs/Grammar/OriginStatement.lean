import Fiscal.Proofs.Grammar.OriginExpression
import Fiscal.Proofs.Grammar.Program
import Fiscal.Proofs.Text.Lines
import Fiscal.Proofs.Token.Reports

set_option autoImplicit false

namespace Fiscal.Grammar

open Source

def AllStmts (stmts : List Stmt) : Prop := ∀ stmt ∈ stmts, stmt.Tabled

namespace Faithful

section Rules

variable {page : Page} {rules : Rules} {cursor : Cursor}

theorem stated (start : Location) (stmt : Span → Stmt) (tabled : ∀ span, (stmt span).Tabled) :
    Faithful page (fun stmt _ => stmt.Tabled) cursor
      (Grammar.spanFrom start >>= fun span => Pure.pure (stmt span)) :=
  .spanFrom _ (.pure _ (tabled _))

theorem ended (start : Location) (stmt : Span → Stmt) (tabled : ∀ span, (stmt span).Tabled) :
    Faithful page (fun stmt _ => stmt.Tabled) cursor (Grammar.expectLineEnd >>= fun _ =>
      Grammar.spanFrom start >>= fun span => Pure.pure (stmt span)) :=
  expectLineEnd.bind fun _ _ _ _ => stated _ _ tabled

theorem closeConstruct (construct : String) : Faithful page Free cursor (closeConstruct construct) :=
  (expectEnd construct).bind fun _ _ _ _ => expectLineEnd

variable (truthful : rules.Truthful page)

include truthful

theorem value : Faithful page (fun expr _ => expr.Tabled) cursor (Grammar.expression rules) :=
  (expression truthful).imply fun _ _ read => read.tabled

theorem nextInBlock (stmts : List Stmt) (cursor : Cursor) (all : AllStmts stmts) :
    Faithful page (fun last _ => AllStmts last.1) cursor (nextInBlock rules stmts) := by
  refine .atAny _ (.both (fun _ => .pure _ all) fun _ => skipNewlines.bind fun _ after _ _ => ?_)
  refine .atAny _ (.both (fun _ => .pure _ all) fun _ => ?_)
  exact (truthful.statement after).bind fun _ _ _ tabled => .pure _ (List.forall_mem_cons.mpr ⟨tabled, all⟩)

theorem block : Faithful page (fun body _ => AllStmts body.statements) cursor (block rules) := by
  refine skipNewlines.bind fun _ _ _ _ => (expect .indent _).bind fun _ after _ _ => ?_
  have inside : Faithful page (fun stmts _ => AllStmts stmts) after
      (Grammar.repeating [] (Grammar.nextInBlock rules)) := repeating (nextInBlock truthful) [] (List.forall_mem_nil _)
  refine inside.bind fun stmts _ _ all => (expect .dedent _).bind fun _ _ _ _ => .spanFrom _ (.pure _ ?_)
  exact fun stmt member => all stmt (List.mem_reverse.mp member)

theorem enclosed (construct : String) (start : Location) (stmt : Span → Block → Stmt)
    (tabled : ∀ span body, AllStmts body.statements → (stmt span body).Tabled) :
    Faithful page (fun stmt _ => stmt.Tabled) cursor
      (Grammar.block rules >>= fun body => Grammar.closeConstruct construct >>= fun _ =>
        Grammar.spanFrom start >>= fun span => Pure.pure (stmt span body)) := by
  refine (block truthful).bind fun body _ _ all => (closeConstruct construct).bind fun _ _ _ _ => ?_
  exact stated _ _ fun span => tabled span body all

theorem binding : Faithful page (fun found _ => found.2.Tabled) cursor (binding rules) := by
  refine (expectName _).bind fun _ _ _ _ => (expect .equal _).bind fun _ _ _ _ => ?_
  exact (value truthful).bind fun _ _ _ tabled => expectLineEnd.bind fun _ _ _ _ => .pure _ tabled

theorem letStatement : Faithful page (fun stmt _ => stmt.Tabled) cursor (letStatement rules) :=
  advance.bind fun _ _ _ _ => (binding truthful).bind fun _ _ _ tabled =>
    stated _ _ fun _ => .node _ (List.forall_mem_singleton.mpr tabled) (List.forall_mem_nil _)

theorem setStatement : Faithful page (fun stmt _ => stmt.Tabled) cursor (setStatement rules) :=
  advance.bind fun _ _ _ _ => (binding truthful).bind fun _ _ _ tabled =>
    stated _ _ fun _ => .node _ (List.forall_mem_singleton.mpr tabled) (List.forall_mem_nil _)

theorem printStatement : Faithful page (fun stmt _ => stmt.Tabled) cursor (printStatement rules) := by
  refine advance.bind fun _ _ _ _ => (joined fun _ => value truthful).bind fun _ _ _ all => ?_
  exact ended _ _ fun _ => .node _ all (List.forall_mem_nil _)

omit truthful in
theorem acceptElseIf : Faithful page Free cursor acceptElseIf := by
  refine .get (.both (fun _ => ?_) fun _ => .both (fun _ => ?_) fun _ => .give _)
  · exact advance.bind fun _ _ _ _ => .give _
  · exact advance.bind fun _ _ _ _ => advance.bind fun _ _ _ _ => .give _

theorem conditional : Faithful page (fun found _ => found.1.Tabled ∧ AllStmts found.2.statements) cursor
    (conditional rules) := by
  refine (value truthful).bind fun _ _ _ tabled => (accept .thenKeyword).bind fun _ _ _ _ => ?_
  exact (block truthful).bind fun _ _ _ all => .pure _ ⟨tabled, all⟩

theorem nextBranch (branches : List (Branch Stmt)) (cursor : Cursor)
    (all : ∀ branch ∈ branches, branch.condition.Tabled ∧ AllStmts branch.body.statements) :
    Faithful page (fun last _ => ∀ branch ∈ last.1, branch.condition.Tabled ∧ AllStmts branch.body.statements)
      cursor (nextBranch rules branches) := by
  refine skipNewlines.bind fun _ _ _ _ => .get (acceptElseIf.bind fun _ _ _ _ =>
    .both (fun _ => ?_) fun _ => .pure _ all)
  refine (conditional truthful).bind fun _ _ _ found => .spanFrom _ (.pure _ ?_)
  exact List.forall_mem_cons.mpr ⟨found, all⟩

theorem ifStatement : Faithful page (fun stmt _ => stmt.Tabled) cursor (ifStatement rules) := by
  refine advance.bind fun _ _ _ _ => (conditional truthful).bind fun found after _ first => ?_
  have branches : Faithful page (fun branches _ => ∀ branch ∈ branches, branch.condition.Tabled ∧
      AllStmts branch.body.statements) after (Grammar.repeating [] (Grammar.nextBranch rules)) :=
    repeating (nextBranch truthful) [] (List.forall_mem_nil _)
  refine branches.bind fun branches _ _ more => ?_
  refine (optionalAfter .elseKeyword fun _ => block truthful).bind fun otherwise _ _ last => ?_
  refine (closeConstruct _).bind fun _ _ _ _ => stated _ _ fun _ => .node _ ?_ fun stmt member => ?_
  · refine List.forall_mem_cons.mpr ⟨first.1, fun expr member => ?_⟩
    obtain ⟨branch, among, rfl⟩ := List.mem_map.mp member
    exact (more branch (List.mem_reverse.mp among)).1
  · simp only [Stmt.statements, List.mem_append, List.mem_flatMap] at member
    rcases member with (inside | ⟨branch, among, inside⟩) | ⟨body, among, inside⟩
    · exact first.2 stmt inside
    · exact (more branch (List.mem_reverse.mp among)).2 stmt inside
    · exact last body among stmt inside

theorem whileStatement : Faithful page (fun stmt _ => stmt.Tabled) cursor (whileStatement rules) := by
  refine advance.bind fun _ _ _ _ => (value truthful).bind fun _ _ _ tabled => ?_
  refine (acceptAny _).bind fun _ _ _ _ => enclosed truthful _ _ _ fun _ _ all => ?_
  exact .node _ (List.forall_mem_singleton.mpr tabled) all

theorem rangeLoop (first : Token) (name : String) (start : Expr) (tabled : start.Tabled) :
    Faithful page (fun stmt _ => stmt.Tabled) cursor (rangeLoop rules first name start) := by
  refine (value truthful).bind fun _ _ _ last => ?_
  refine (optionalAfter .stepKeyword fun _ => value truthful).bind fun _ _ _ step => ?_
  refine (accept .doKeyword).bind fun _ _ _ _ => enclosed truthful _ _ _ fun _ _ all => .node _ ?_ all
  exact List.forall_mem_cons.mpr ⟨tabled, List.forall_mem_cons.mpr ⟨last, step⟩⟩

theorem itemLoop (first : Token) (name : String) (items : Expr) (tabled : items.Tabled) :
    Faithful page (fun stmt _ => stmt.Tabled) cursor (itemLoop rules first name items) := by
  refine (accept .doKeyword).bind fun _ _ _ _ => enclosed truthful _ _ _ fun _ _ all => ?_
  exact .node _ (List.forall_mem_singleton.mpr tabled) all

theorem forStatement : Faithful page (fun stmt _ => stmt.Tabled) cursor (forStatement rules) := by
  refine advance.bind fun _ _ _ _ => (expectName _).bind fun _ _ _ _ => ?_
  refine (expect .inKeyword _).bind fun _ _ _ _ => (value truthful).bind fun _ _ _ tabled => ?_
  exact accepting .toKeyword (fun _ _ _ => rangeLoop truthful _ _ _ tabled) (itemLoop truthful _ _ _ tabled)

theorem returnStatement : Faithful page (fun stmt _ => stmt.Tabled) cursor (returnStatement rules) := by
  refine advance.bind fun _ _ _ _ => (unlessAny _ (value truthful)).bind fun _ _ _ all => ?_
  exact ended _ _ fun _ => .node _ all (List.forall_mem_nil _)

theorem functionStatement : Faithful page (fun stmt _ => stmt.Tabled) cursor (functionStatement rules) := by
  refine advance.bind fun _ _ _ _ => (expectName _).bind fun _ _ _ _ => ?_
  refine (expect .leftParen _).bind fun _ _ _ _ => parameters.bind fun _ _ _ _ => ?_
  refine (expect .rightParen _).bind fun _ _ _ _ => enclosed truthful _ _ _ fun _ _ all => ?_
  exact .node _ (List.forall_mem_nil _) all

omit truthful in
theorem importStatement : Faithful page (fun stmt _ => stmt.Tabled) cursor importStatement := by
  refine advance.bind fun _ _ _ _ => (expect .string _).bind fun _ _ _ _ => ?_
  refine (optionalAfter .asKeyword fun _ => expectName _).bind fun _ _ _ _ => ?_
  exact ended _ _ fun _ => .node _ (List.forall_mem_nil _) (List.forall_mem_nil _)

theorem scenarioStatement : Faithful page (fun stmt _ => stmt.Tabled) cursor (scenarioStatement rules) := by
  refine advance.bind fun _ _ _ _ => (expectName _).bind fun _ _ _ _ => ?_
  exact (accept .colon).bind fun _ _ _ _ => enclosed truthful _ _ _ fun _ _ all => .node _ (List.forall_mem_nil _) all

omit truthful in
theorem runStatement : Faithful page (fun stmt _ => stmt.Tabled) cursor runStatement := by
  refine advance.bind fun _ _ _ _ => (expectName _).bind fun _ _ _ _ => ?_
  refine (expect .onKeyword _).bind fun _ _ _ _ => (expectName _).bind fun _ _ _ _ => ?_
  exact ended _ _ fun _ => .node _ (List.forall_mem_nil _) (List.forall_mem_nil _)

theorem simulateStatement : Faithful page (fun stmt _ => stmt.Tabled) cursor (simulateStatement rules) := by
  refine advance.bind fun _ _ _ _ => (expectName _).bind fun _ _ _ _ => ?_
  refine (accept .runsKeyword).bind fun _ _ _ _ => (unlessAny _ (value truthful)).bind fun _ _ _ runs => ?_
  refine (optionalAfter .stepKeyword fun _ => value truthful).bind fun _ _ _ step => ?_
  exact ended _ _ fun _ => .node _ (List.forall_mem_append.mpr ⟨runs, step⟩) (List.forall_mem_nil _)

omit truthful in
theorem description : Faithful page (fun found _ => AllTabled found.toList) cursor description := by
  have literal (span : Span) (value : String) : AllTabled [.literal span (.text value)] :=
    List.forall_mem_singleton.mpr (.other nofun (List.forall_mem_nil _))
  refine .get ?_
  dsimp only
  split
  · exact advance.bind fun _ _ _ _ => .pure _ (literal _ _)
  · exact advance.bind fun _ _ _ _ => .pure _ (literal _ _)
  · exact .pure _ (List.forall_mem_nil _)

theorem posting (side : Side) : Faithful page (fun posting _ => AllTabled posting.expressions) cursor
    (posting rules side) := by
  refine advance.bind fun _ _ _ _ => (expectName _).bind fun _ _ _ _ => ?_
  refine (value truthful).bind fun _ _ _ amount => description.bind fun _ _ _ told => .spanFrom _ (.pure _ ?_)
  exact List.forall_mem_cons.mpr ⟨amount, told⟩

theorem nextHolding (holdings : List Posting) (cursor : Cursor)
    (all : ∀ holding ∈ holdings, AllTabled holding.expressions) :
    Faithful page (fun last _ => ∀ holding ∈ last.1, AllTabled holding.expressions) cursor
      (nextHolding rules holdings) := by
  refine .atAny _ (.both (fun _ => .pure _ all) fun _ => skipNewlines.bind fun _ _ _ _ => ?_)
  refine .at? _ (.both (fun _ => .pure _ all) fun _ => .kindHere ?_)
  split
  · exact .unexpected _
  · refine (posting truthful _).bind fun _ _ _ tabled => expectLineEnd.bind fun _ _ _ _ => .pure _ ?_
    exact List.forall_mem_cons.mpr ⟨tabled, all⟩

theorem portfolioStatement : Faithful page (fun stmt _ => stmt.Tabled) cursor (portfolioStatement rules) := by
  refine advance.bind fun _ _ _ _ => (expectName _).bind fun _ _ _ _ => (accept .colon).bind fun _ _ _ _ => ?_
  refine skipNewlines.bind fun _ _ _ _ => (expect .indent _).bind fun _ after _ _ => ?_
  have inside : Faithful page (fun holdings _ => ∀ holding ∈ holdings, AllTabled holding.expressions) after
      (Grammar.repeating [] (Grammar.nextHolding rules)) := repeating (nextHolding truthful) [] (List.forall_mem_nil _)
  refine inside.bind fun holdings _ _ all => (expect .dedent _).bind fun _ _ _ _ => ?_
  refine (closeConstruct _).bind fun _ _ _ _ => stated _ _ fun _ =>
    .node _ (fun expr member => ?_) (List.forall_mem_nil _)
  obtain ⟨holding, among, inside⟩ := List.mem_flatMap.mp member
  exact all holding (List.mem_reverse.mp among) expr inside

omit truthful in
theorem terminated (stmt : Stmt) (tabled : stmt.Tabled) :
    Faithful page (fun stmt _ => stmt.Tabled) cursor (terminated stmt) :=
  expectLineEnd.bind fun _ _ _ _ => .pure _ tabled

theorem statementForm : Faithful page (fun stmt _ => stmt.Tabled) cursor (statementForm rules) := by
  refine skipNewlines.bind fun _ cursor _ _ => .get ?_
  split
  · exact (block truthful).bind fun _ _ _ all => .pure _ (.node _ (List.forall_mem_nil _) all)
  · exact scenarioStatement truthful
  · exact runStatement
  · exact simulateStatement truthful
  · exact (posting truthful _).bind fun _ _ _ all => terminated _ (.node _ all (List.forall_mem_nil _))
  · exact (posting truthful _).bind fun _ _ _ all => terminated _ (.node _ all (List.forall_mem_nil _))
  · exact letStatement truthful
  · exact setStatement truthful
  · exact printStatement truthful
  · exact printStatement truthful
  · exact ifStatement truthful
  · exact whileStatement truthful
  · exact forStatement truthful
  · exact returnStatement truthful
  · exact functionStatement truthful
  · exact importStatement
  · refine .both (fun _ => portfolioStatement truthful) fun _ => ?_
    exact (value truthful).bind fun _ _ _ tabled =>
      terminated _ (.node _ (List.forall_mem_singleton.mpr tabled) (List.forall_mem_nil _))

end Rules

end Faithful

namespace Page.Holds

variable {page : Page} {cursor : Cursor}

theorem report (holds : page.Holds cursor) {diagnostic : Diagnostic} (shows : page.Shows diagnostic) :
    page.Holds { cursor with reports := diagnostic :: cursor.reports } :=
  ⟨holds.rest, holds.lines, holds.ended, List.forall_mem_cons.mpr ⟨shows, holds.reports⟩⟩

theorem resume (holds : page.Holds cursor) (remaining : Nat) : page.Holds (Grammar.resume remaining cursor) := by
  refine holds.moved (.resume remaining cursor) ?_
  unfold Grammar.resume Cursor.advance
  dsimp only
  split
  · split
    · exact holds.reports
    · split
      · exact holds.reports
      · exact holds.reports
  · exact holds.reports

end Page.Holds

namespace Faithful

section Recovery

variable {page : Page} {rules : Rules} {cursor : Cursor} (truthful : rules.Truthful page)

include truthful

theorem statement : Faithful page (fun stmt _ => stmt.Tabled) cursor (statement rules) := by
  intro holds
  have ends := statementForm truthful holds
  rw [statement_eq]
  cases ran : Grammar.statementForm rules cursor with
  | ok stmt after =>
      rw [ran] at ends
      exact ends
  | error halt after =>
      cases halt with
      | unfinished => trivial
      | refused diagnostic =>
          rw [ran] at ends
          obtain ⟨passes, within, shows⟩ := ends
          exact ⟨passes.recovered diagnostic, (within.report shows).resume _,
            .node _ (List.forall_mem_nil _) (List.forall_mem_nil _)⟩

end Recovery

end Faithful

theorem Rules.truthful (page : Page) (depth : Nat) : (Rules.ofDepth depth).Truthful page := by
  induction depth with
  | zero => exact ⟨fun _ => .unfinished, fun _ _ => .unfinished, fun _ => .unfinished, fun _ => .unfinished⟩
  | succ depth ih =>
      exact ⟨fun _ => Faithful.expression ih, fun least _ => Faithful.binary ih least,
        fun _ => Faithful.unary ih, fun _ => Faithful.statement ih⟩

namespace Faithful

section Program

variable {page : Page} {rules : Rules} {cursor : Cursor}

theorem strayDedent : Faithful page Free cursor strayDedent := by
  refine advance.bind fun token after _ member => .get fun holds => ?_
  exact ⟨⟨⟨[], rfl, by simp, rfl⟩, rfl, List.suffix_cons _ _⟩, holds.report (holds.shows _ member), trivial⟩

variable (truthful : rules.Truthful page)

include truthful

theorem nextAtTop (stmts : List Stmt) (all : AllStmts stmts) :
    Faithful page (fun stmts _ => AllStmts stmts) cursor (nextAtTop rules stmts) := by
  refine .at? _ (.both (fun _ => strayDedent.bind fun _ _ _ _ => .pure _ all) fun _ => ?_)
  exact (truthful.statement cursor).bind fun _ _ _ tabled => .pure _ (List.forall_mem_cons.mpr ⟨tabled, all⟩)

theorem programRound (maxErrors : Int) (stmts : List Stmt) (cursor : Cursor) (all : AllStmts stmts) :
    Faithful page (fun last _ => AllStmts last.1) cursor (programRound rules maxErrors stmts) := by
  refine .get (.both (fun _ => .pure _ all) fun _ => (nextAtTop truthful stmts all).bind fun _ _ _ more => ?_)
  exact .get (.both (fun _ => .pure _ more) fun _ => skipNewlines.bind fun _ _ _ _ => .pure _ more)

theorem statements (maxErrors : Int) :
    Faithful page (fun stmts _ => AllStmts stmts) cursor (statements rules maxErrors) := by
  refine skipNewlines.bind fun _ after _ _ => ?_
  have rounds : Faithful page (fun stmts _ => AllStmts stmts) after
      (Grammar.repeating [] (Grammar.programRound rules maxErrors)) :=
    repeating (programRound truthful maxErrors) [] (List.forall_mem_nil _)
  exact rounds.bind fun _ _ _ all => .pure _ fun stmt member => all stmt (List.mem_reverse.mp member)

end Program

end Faithful

theorem Page.holds_start {first : Token} {rest : List Token} (ends : EndsOnce (first :: rest))
    (lines : Option (List String)) : Page.Holds ⟨first :: rest, lines⟩ (Cursor.start first rest lines) :=
  ⟨List.suffix_rfl, rfl, ends.ended lines, List.forall_mem_nil _⟩

-- What a parse reports is shown as the page has it, and the program it gives names every column of a
-- table once.
theorem parse_faithful (maxErrors : Int) (lines : Option (List String)) {tokens : List Token}
    (ends : EndsOnce tokens) :
    (∀ report ∈ (parse maxErrors lines tokens).reports, Page.Shows ⟨tokens, lines⟩ report) ∧
      AllStmts (parse maxErrors lines tokens).program.statements := by
  obtain ⟨first, rest, rfl⟩ := ends.cons
  obtain ⟨⟨read, cursor, ran, same, _⟩, _⟩ := parse_ends maxErrors lines first rest ends
  have kept := Faithful.statements (Rules.truthful ⟨first :: rest, lines⟩ (rest.length + 2)) maxErrors
    (Page.holds_start ends lines)
  rw [show Grammar.statements _ _ _ = .ok read cursor from ran] at kept
  rw [same]
  exact ⟨fun report member => kept.2.1.reports report (List.mem_reverse.mp member), kept.2.2⟩

structure Retargeted (tokens : List Token) (report : Diagnostic) (number : Nat) : Prop where
  issue : report.issue = .invalidTarget
  split : ∃ before equals after first, tokens = before ++ equals :: after ∧ equals.kind = .equal ∧
    equals.span.start.line = number ∧ first ∈ before ∧
    ∃ span, report.span = some span ∧ span.start = first.span.start

theorem Page.Shows.number {page : Page} {lines : List String} (known : page.lines = some lines)
    {report : Diagnostic} (shows : page.Shows report) {line : String} (shown : report.line = some line) :
    ∃ span number, report.span = some span ∧ Text.line? lines number = some line ∧
      (number = span.start.line ∨ Retargeted page.tokens report number) := by
  have quoted (token : Token) (shown : page.lineOf token = some line) :
      Text.line? lines token.span.start.line = some line := by
    rwa [Page.lineOf, known, Option.bind_some] at shown
  cases shows with
  | nothing _ none =>
      rw [none] at shown
      cases shown
  | line issue token member => exact ⟨_, _, rfl, quoted token shown, .inl rfl⟩
  | equals span before equals after first split kind member start =>
      exact ⟨span, _, rfl, quoted equals shown,
        .inr ⟨rfl, before, equals, after, first, split, kind, rfl, member, span, rfl, start⟩⟩

-- A report of the scan or of the parse of a text that shows a line shows the line on which its span begins
-- or, of an assignment, the line of the equal sign; and it is the text between the line feeds if there is
-- no other break up to it.
theorem shown_lines {tabWidth : Nat} {currencies : List String} {file : Option String} {source : String}
    {stream : Token.Stream} (scanned : Token.scan tabWidth currencies file source = .ok stream)
    (maxErrors : Int) :
    ∀ report ∈ stream.reports ++ (parse maxErrors (some (Text.lines source)) stream.tokens).reports,
    ∀ line, report.line = some line →
      ∃ span number, report.span = some span ∧ Text.line? (Text.lines source) number = some line ∧
        (number = span.start.line ∨ Retargeted stream.tokens report number) ∧
        (Text.Unbroken source.toList number → Text.feedLine? source number = some line) := by
  intro report member line shown
  have found : ∃ span number, report.span = some span ∧
      Text.line? (Text.lines source) number = some line ∧
      (number = span.start.line ∨ Retargeted stream.tokens report number) := by
    rcases List.mem_append.mp member with scanning | parsing
    · rcases Token.stream_quotes scanned report scanning with none | ⟨span, spanned, quoted⟩
      · rw [none] at shown
        cases shown
      · exact ⟨span, _, spanned, quoted ▸ shown, .inl rfl⟩
    · exact ((parse_faithful maxErrors _ (scanned_ends scanned)).1 report parsing).number rfl shown
  obtain ⟨span, number, spanned, quoted, origin⟩ := found
  exact ⟨span, number, spanned, quoted, origin, fun unbroken => Text.quoted_line unbroken quoted⟩

theorem list_target_shows_equal_sign :
    ∃ stream report span, Token.scan 4 [] none "[1,\n2] = 3" = .ok stream ∧
      report ∈ (parse 20 (some (Text.lines "[1,\n2] = 3")) stream.tokens).reports ∧
      report.line = some "2] = 3" ∧ report.span = some span ∧ span.start.line = 1 ∧
      ∃ number, Text.line? (Text.lines "[1,\n2] = 3") number = some "2] = 3" ∧
        (number = span.start.line ∨ Retargeted stream.tokens report number) := by
  have found : (Token.scan 4 [] none "[1,\n2] = 3").toOption.any (fun stream =>
      (parse 20 (some (Text.lines "[1,\n2] = 3")) stream.tokens).reports.any fun report =>
        report.line == some "2] = 3" && report.span.any (·.start.line == 1)) = true := by decide +kernel
  cases scanned : Token.scan 4 [] none "[1,\n2] = 3" with
  | error fault =>
      rw [scanned] at found
      cases found
  | ok stream =>
      rw [scanned] at found
      obtain ⟨report, member, about⟩ := List.any_eq_true.mp found
      obtain ⟨shown, begins⟩ := Bool.and_eq_true_iff.mp about
      have shown := eq_of_beq shown
      obtain ⟨span, number, spanned, quoted, origin, _⟩ :=
        shown_lines scanned 20 report (List.mem_append_right _ member) _ shown
      rw [spanned] at begins
      exact ⟨stream, report, span, rfl, member, shown, spanned, eq_of_beq begins, number, quoted, origin⟩

end Fiscal.Grammar
