import Fiscal.Proofs.Program.Parts
import Fiscal.Proofs.Session.Escape
import Fiscal.Proofs.Session.Tables
import Fiscal.Proofs.Text.Lines
import Fiscal.Proofs.Machine.Issues

set_option autoImplicit false

namespace Fiscal

open Machine Session

def Value.carried : Value → List Node
  | lambda made => [.expr made.body]
  | function declared => declared.body.statements.map .stmt
  | block body => body.statements.map .stmt
  | _ => []

def Machine.Keeps (machine : Machine) (node : Node) : Prop :=
  ∃ scope value part, machine.scopes.Holds scope value ∧ value.Part part ∧ node.Within part.carried

-- A text that has been read, with its program.
structure Script where
  file : Option String
  source : String
  program : Program

def Script.Has (script : Script) (node : Node) : Prop := node.Within script.program.nodes

namespace Session

-- A session with the texts that have been executed, the last one in front.
inductive Ran : List Script → Machine → Prop where
  | start (settings : Settings) (files : Files) (today : String) : Ran [] (.start settings files today)
  | executed (limits : Limits) (file : Option String) (source : String) (scripts : List Script)
      (machine : Machine) (reading : Reading) (ran : Ran scripts machine)
      (found : read machine.settings file source = .ok reading) :
      Ran (⟨file, source, reading.program⟩ :: scripts) (execute limits file source machine).2
  | unread (limits : Limits) (file : Option String) (source : String) (scripts : List Script)
      (machine : Machine) (fault : Fault) (ran : Ran scripts machine)
      (failed : read machine.settings file source = .error fault) :
      Ran scripts (execute limits file source machine).2
  | meanwhile (files : Files) (today : String) (scripts : List Script) (machine : Machine)
      (ran : Ran scripts machine) : Ran scripts { machine with files := files, today := today }

end Session

def Code.ofNodes (kind : Node → Prop) (closed : ∀ whole, kind whole → ∀ part ∈ whole.parts, kind part) : Code where
  expr whole := whole.Tabled ∧ kind (.expr whole)
  stmt whole := whole.Tabled ∧ kind (.stmt whole)
  children _ member child among :=
    ⟨member.1.children child among, closed _ member.2 _ (List.mem_map_of_mem among)⟩
  expressions _ member child among :=
    ⟨member.1.parts child among, closed _ member.2 _
      (List.mem_append_left _ (List.mem_append_left _ (List.mem_map_of_mem among)))⟩
  statements _ member inner among :=
    ⟨member.1.within inner among, closed _ member.2 _
      (List.mem_append_left _ (List.mem_append_right _ (List.mem_map_of_mem among)))⟩
  names span columns member := member.1.once span columns rfl

theorem Code.marks_node {kind : Node → Prop} {closed : ∀ whole, kind whole → ∀ part ∈ whole.parts, kind part}
    {span : Source.Span} (marks : (Code.ofNodes kind closed).Marks span) : ∃ node, kind node ∧ node.span = span := by
  cases marks with
  | expr whole member => exact ⟨.expr whole, member.2, rfl⟩
  | stmt whole member => exact ⟨.stmt whole, member.2, rfl⟩
  | holding span name holdings holding member among =>
      exact ⟨.holding holding, closed _ member.2 _ (List.mem_append_right _ (List.mem_map_of_mem among)), rfl⟩

def Script.Some (scripts : List Script) (node : Node) : Prop := ∃ script ∈ scripts, script.Has node

-- The nodes that run when a text is executed: its own, and those that the machine keeps from earlier texts.
def Script.Runs (script : Script) (scripts : List Script) (machine : Machine) (node : Node) : Prop :=
  script.Has node ∨ machine.Keeps node ∧ Script.Some scripts node

section Closed

variable {scripts : List Script} {machine : Machine} {script : Script}

theorem Machine.Keeps.part {whole part : Node} (keeps : machine.Keeps whole) (member : part ∈ whole.parts) :
    machine.Keeps part := by
  obtain ⟨scope, value, carrier, holds, inner, within⟩ := keeps
  exact ⟨scope, value, carrier, holds, inner, .part whole part within member⟩

theorem Script.some_part (whole : Node) (some : Script.Some scripts whole) :
    ∀ part ∈ whole.parts, Script.Some scripts part := by
  obtain ⟨script, among, has⟩ := some
  exact fun part member => ⟨script, among, .part whole part has member⟩

theorem Script.runs_part (whole : Node) (runs : script.Runs scripts machine whole) :
    ∀ part ∈ whole.parts, script.Runs scripts machine part := by
  intro part member
  rcases runs with own | ⟨keeps, some⟩
  · exact .inl (.part whole part own member)
  · exact .inr ⟨keeps.part member, some_part whole some part member⟩

end Closed

def Code.ofScripts (scripts : List Script) : Code := .ofNodes (Script.Some scripts) Script.some_part

def Code.running (script : Script) (scripts : List Script) (machine : Machine) : Code :=
  .ofNodes (script.Runs scripts machine) Script.runs_part

section Carrying

variable {kind other : Node → Prop} {closed : ∀ whole, kind whole → ∀ part ∈ whole.parts, kind part}
  {closedOther : ∀ whole, other whole → ∀ part ∈ whole.parts, other part}

theorem Code.admits_carried {value : Value} (admits : (Code.ofNodes kind closed).Admits value)
    (carried : ∀ node ∈ value.carried, kind node → other node) : (Code.ofNodes other closedOther).Admits value := by
  cases value with
  | lambda made => exact ⟨admits.1, carried _ List.mem_cons_self admits.2⟩
  | function declared =>
      exact fun inner member =>
        ⟨(admits inner member).1, carried _ (List.mem_map_of_mem member) (admits inner member).2⟩
  | block body =>
      exact fun inner member =>
        ⟨(admits inner member).1, carried _ (List.mem_map_of_mem member) (admits inner member).2⟩
  | table => exact admits
  | null | number | text | bool | cashflow | entry | builtin | list | portfolio | ledger | object => exact trivial

end Carrying

namespace Session

theorem read_code {settings : Settings} {file : Option String} {source : String} {reading : Reading}
    (found : read settings file source = .ok reading) {kind : Node → Prop}
    (own : ∀ node, Script.Has ⟨file, source, reading.program⟩ node → kind node) :
    ∀ stmt ∈ reading.program.statements, stmt.Tabled ∧ kind (.stmt stmt) :=
  fun stmt member => ⟨read_tabled found stmt member, own _ (.top _ (List.mem_map_of_mem member))⟩

-- All code that a session carries is of the texts that have been executed.
theorem ran_filled {scripts : List Script} {machine : Machine} (ran : Ran scripts machine) :
    machine.Filled (Code.ofScripts scripts).Admits := by
  induction ran with
  | start settings files today => exact start_filled settings files today fun _ => trivial
  | executed limits file source scripts machine reading _ found ih =>
      let law := Law.authored (.ofScripts (⟨file, source, reading.program⟩ :: scripts))
      have begun : law.sound (ready source machine) :=
        filled_mono ih fun value admits => Code.admits_carried admits fun node _ ⟨script, among, has⟩ =>
          ⟨script, List.mem_cons_of_mem _ among, has⟩
      have code : ∀ stmt ∈ reading.program.statements, law.stmt stmt :=
        read_code found fun node has => ⟨_, List.mem_cons_self, has⟩
      obtain ⟨moved, _⟩ := runAll_keeps law _ (Law.authored_parts _ limits) reading.program.statements code
        _ begun
      rw [execute_run limits file source machine reading found]
      exact (law.kept true _ _ begun moved).1
  | unread limits file source scripts machine fault _ failed ih =>
      rw [execute_failed limits file source machine fault failed]
      exact ih
  | meanwhile files today scripts machine _ ih => exact ih

theorem ran_runs {scripts : List Script} {machine : Machine} (ran : Ran scripts machine) (script : Script) :
    machine.Filled (Code.running script scripts machine).Admits := by
  intro scope value holds part inner
  refine Code.admits_carried (ran_filled ran scope value holds part inner) fun node carried some => ?_
  exact .inr ⟨⟨scope, value, part, holds, inner, .top node carried⟩, some⟩

theorem issue_placed {scripts : List Script} {machine : Machine} (ran : Ran scripts machine)
    (limits : Limits) {file : Option String} {source : String} {reading : Reading}
    (found : read machine.settings file source = .ok reading) {issue : Source.Issue} {span : Source.Span}
    (failed : (runAll (.ofLimits limits) reading.program.statements (ready source machine)).2.1 =
      some (.issue issue (some span))) :
    ∃ node, Script.Runs ⟨file, source, reading.program⟩ scripts machine node ∧ node.span = span := by
  let law := Law.authored (.running ⟨file, source, reading.program⟩ scripts machine)
  have keeps : law.Parts (.ofLimits limits) (.ofLimits limits) := Law.authored_parts _ limits
  have begun : law.sound (ready source machine) := ran_runs ran ⟨file, source, reading.program⟩
  have code : ∀ stmt ∈ reading.program.statements, law.stmt stmt :=
    read_code found fun _ => .inl
  obtain ⟨stmt, before, after, reaches, raised⟩ := (runAll_fails _ _ _ _).mp failed
  obtain ⟨sound, member⟩ := reaches_keeps law _ keeps _ _ stmt before reaches code begun
  have ends := (keeps.execute stmt before member).ends sound
  rw [raised] at ends
  exact Code.marks_node (ends.2 issue span rfl)

theorem runAll_lines (limits : Limits) (stmts : List Stmt) (machine : Machine) :
    (runAll (.ofLimits limits) stmts machine).2.2.lines = machine.lines := by
  obtain ⟨moved, _⟩ := runAll_keeps Law.anything (.ofLimits limits) (Law.Parts.ofLimits limits) stmts
    (fun _ _ => trivial) machine trivial
  exact moves_lines true _ _ moved

theorem conclude_last {reading : Reading} {results : List Value} {machine : Machine}
    {failure : Option Failure} {report : Report} {diagnostic : Source.Diagnostic}
    (reported : conclude reading results machine failure = .reported report)
    (last : report.diagnostics = reading.diagnostics ++ [diagnostic]) :
    ∃ issue span, diagnostic = runtimeDiagnostic machine.lines issue span ∧ report.error = some issue ∧
      (failure = some (.issue issue span) ∨ failure = some .tooDeep ∧ issue = .tooDeep ∧ span = none) := by
  have single {issue : Source.Issue} {span : Option Source.Span}
      (same : reading.diagnostics ++ [runtimeDiagnostic machine.lines issue span] = report.diagnostics) :
      diagnostic = runtimeDiagnostic machine.lines issue span := by
    rw [last] at same
    exact (List.singleton_inj.mp (List.append_cancel_left same)).symm
  cases failure with
  | none =>
      cases reported
      simp at last
  | some failure =>
      cases failure with
      | issue issue span =>
          cases reported
          exact ⟨issue, span, single rfl, rfl, .inl rfl⟩
      | tooDeep =>
          cases reported
          exact ⟨.tooDeep, none, single rfl, rfl, .inr ⟨rfl, rfl, rfl⟩⟩
      | fault | unfinished => cases reported

end Session

-- The line shown with an issue at run time is the one of its number in the text executed last. The node
-- that the issue is placed at is one of this text, or one of an earlier text that the machine has kept.
theorem runtime_line_of_last_text {scripts : List Script} {machine : Machine} (ran : Ran scripts machine)
    (limits : Limits) {file : Option String} {source : String} {reading : Reading}
    (found : read machine.settings file source = .ok reading)
    (feeds : ∀ c ∈ source.toList, Text.breaksLine c = true → c = '\n') {report : Report}
    (reported : (execute limits file source machine).1 = .reported report) {diagnostic : Source.Diagnostic}
    (last : report.diagnostics = reading.diagnostics ++ [diagnostic]) {line : String}
    (shown : diagnostic.line = some line) :
    ∃ node span, diagnostic.span = some span ∧ node.span = span ∧
      Text.feedLine? source span.start.line = some line ∧
      (Script.Has ⟨file, source, reading.program⟩ node ∨
        machine.Keeps node ∧ ∃ script ∈ scripts, script.Has node) := by
  rw [execute_run limits file source machine reading found] at reported
  obtain ⟨issue, span, rfl, _, ended⟩ := conclude_last reported last
  cases span with
  | none => cases shown
  | some span =>
      rcases ended with failed | ⟨_, _, unplaced⟩
      · obtain ⟨node, runs, marked⟩ := issue_placed ran limits found failed
        have quoted : Text.line? _ span.start.line = some line := shown
        rw [runAll_lines] at quoted
        exact ⟨node, span, rfl, marked, Text.quoted_line (Text.unbroken_of_feeds feeds _) quoted, runs⟩
      · cases unplaced

theorem Conclusion.single {conclusion : Conclusion} {such : Source.Diagnostic → Bool}
    (holds : (match conclusion with
      | .reported ⟨_, _, _, [diagnostic]⟩ => such diagnostic
      | _ => false) = true) :
    ∃ report diagnostic, conclusion = .reported report ∧ report.diagnostics = [diagnostic] ∧
      such diagnostic = true := by
  split at holds
  · exact ⟨_, _, rfl, rfl, holds⟩
  · cases holds

theorem begins_at {diagnostic : Source.Diagnostic} {number : Nat}
    (placed : (diagnostic.span.any fun span => span.start.line == number) = true) :
    ∃ span, diagnostic.span = some span ∧ span.start.line = number := by
  obtain ⟨span, spanned, begins⟩ := (Option.any_eq_true _ _).mp placed
  exact ⟨span, spanned, eq_of_beq begins⟩

theorem kept_body_shows_call :
    let first := "FUNCTION f()\n    RETURN 1/0\nEND"
    let second := "LET x = 1\nf()"
    let machine := (execute ⟨50, 50⟩ none first (.start .standard ⟨[]⟩ "2024-02-29")).2
    Text.feedLine? first 2 = some "    RETURN 1/0" ∧
      ∃ earlier reading report diagnostic node span, read .standard none first = .ok earlier ∧
        read machine.settings none second = .ok reading ∧
        (execute ⟨50, 50⟩ none second machine).1 = .reported report ∧
        report.diagnostics = reading.diagnostics ++ [diagnostic] ∧ diagnostic.line = some "f()" ∧
        diagnostic.span = some span ∧ node.span = span ∧ span.start.line = 2 ∧
        Text.feedLine? second span.start.line = some "f()" ∧
        (Script.Has ⟨none, second, reading.program⟩ node ∨ machine.Keeps node ∧
          ∃ script ∈ [(⟨none, first, earlier.program⟩ : Script)], script.Has node) := by
  intro first second machine
  obtain ⟨earlier, parsed, _⟩ := read_such (read .standard none first) (fun _ => true) (by decide +kernel)
  obtain ⟨reading, found, quiet⟩ := read_such (read machine.settings none second)
    (fun reading => reading.diagnostics.isEmpty) (by decide +kernel)
  obtain ⟨report, diagnostic, reported, single, facts⟩ :
      ∃ report diagnostic, (execute ⟨50, 50⟩ none second machine).1 = .reported report ∧
        report.diagnostics = [diagnostic] ∧
        (diagnostic.line == some "f()" && diagnostic.span.any fun span => span.start.line == 2) = true :=
    Conclusion.single (by decide +kernel)
  obtain ⟨shown, placed⟩ := Bool.and_eq_true_iff.mp facts
  obtain ⟨span, spanned, begins⟩ := begins_at placed
  have shown : diagnostic.line = some "f()" := eq_of_beq shown
  have feeds : ∀ c ∈ second.toList, Text.breaksLine c = true → c = '\n' := by
    have only : (second.toList.all fun c => !Text.breaksLine c || c == '\n') = true := by decide +kernel
    intro c member breaks
    simpa [breaks] using List.all_eq_true.mp only c member
  have ran : Ran [⟨none, first, earlier.program⟩] machine :=
    .executed _ none first [] _ earlier (.start .standard ⟨[]⟩ "2024-02-29") parsed
  have last : report.diagnostics = reading.diagnostics ++ [diagnostic] := by
    rw [List.isEmpty_iff.mp quiet, single, List.nil_append]
  obtain ⟨node, place, placed, marked, quoted, origin⟩ :=
    runtime_line_of_last_text ran _ found feeds reported last shown
  cases spanned.symm.trans placed
  exact ⟨by decide +kernel, earlier, reading, report, diagnostic, node, span, parsed, found, reported, last, shown,
    spanned, marked, begins, quoted, origin⟩

namespace Session

theorem run_issue (limits : Limits) (stmts : List Stmt) (machine : Machine) (issue : Source.Issue)
    (span : Option Source.Span)
    (failed : (runAll (.ofLimits limits) stmts machine).2.1 = some (.issue issue span)) :
    ∃ place stmt before, span = some place ∧ Reaches (.ofLimits limits) stmts machine stmt before ∧
      Arises limits.rounds issue place limits.depth (.execute stmt) before := by
  obtain ⟨stmt, before, after, reaches, raised⟩ := (runAll_fails _ _ _ _).mp failed
  cases span with
  | none =>
      have named : (Evaluator.ofDepth limits.rounds limits.depth).answer (.execute stmt) before =
        .error (.issue issue none) after := raised
      have impossible : (some stmt.span : Option Source.Span) = none := unplaced_of_call limits.depth named
      cases impossible
  | some place =>
      have arises := (arises_iff limits.rounds issue place limits.depth (.execute stmt) before).mpr ⟨after, raised⟩
      exact ⟨place, stmt, before, rfl, reaches, arises⟩

end Session

-- An issue that an execution ends in, other than the depth of the program, has the place of a node of a
-- text of the session. It comes up in a task within the program, at a place that the rule of the task gives
-- or else at that of its expression or statement, and no expression or statement leaves it without a place.
theorem runtime_issue_at_node {scripts : List Script} {machine : Machine} (ran : Ran scripts machine)
    (limits : Limits) {file : Option String} {source : String} {reading : Reading}
    (found : read machine.settings file source = .ok reading) {report : Report}
    (reported : (execute limits file source machine).1 = .reported report) {diagnostic : Source.Diagnostic}
    (last : report.diagnostics = reading.diagnostics ++ [diagnostic]) (other : diagnostic.issue ≠ .tooDeep) :
    report.error = some diagnostic.issue ∧
      (∃ span node stmt before, diagnostic.span = some span ∧ node.span = span ∧
        (∃ script ∈ ⟨file, source, reading.program⟩ :: scripts, script.Has node) ∧
        Reaches (.ofLimits limits) reading.program.statements (ready source machine) stmt before ∧
        Arises limits.rounds diagnostic.issue span limits.depth (.execute stmt) before) ∧
      ∀ depth task place after issue,
        (Evaluator.ofDepth limits.rounds depth).answer task place = .error (.issue issue none) after →
          task.span? = none := by
  rw [execute_run limits file source machine reading found] at reported
  obtain ⟨issue, place, rfl, error, failed | ⟨_, deep, _⟩⟩ := conclude_last reported last
  case inr => exact absurd deep other
  obtain ⟨span, stmt, before, rfl, reaches, arises⟩ := run_issue limits _ _ _ _ failed
  obtain ⟨node, runs, marked⟩ := issue_placed ran limits found failed
  refine ⟨error, ⟨span, node, stmt, before, rfl, marked, ?_, reaches, arises⟩,
    fun depth _ _ _ _ => unplaced_of_call depth⟩
  rcases runs with own | ⟨_, script, member, has⟩
  · exact ⟨_, List.mem_cons_self, own⟩
  · exact ⟨script, List.mem_cons_of_mem _ member, has⟩

-- The length of a number is asked for by a function that is called back for each item of a list. What goes
-- wrong has no place of its own, and gets that of the call in the body, in the first of the two texts.
theorem callback_issue_at_node :
    let first := "FUNCTION f(x)\n    RETURN len(x)\nEND"
    let second := "PRINT MAP([1], f)"
    let machine := (execute ⟨50, 50⟩ none first (.start .standard ⟨[]⟩ "2024-02-29")).2
    ∃ earlier reading report diagnostic, read .standard none first = .ok earlier ∧
      read machine.settings none second = .ok reading ∧
      (execute ⟨50, 50⟩ none second machine).1 = .reported report ∧
      report.diagnostics = reading.diagnostics ++ [diagnostic] ∧ diagnostic.issue.code = "E402" ∧
      (∃ span, diagnostic.span = some span ∧ span.start.line = 2) ∧
      report.error = some diagnostic.issue ∧
      ∃ span node stmt before, diagnostic.span = some span ∧ node.span = span ∧
        (∃ script ∈ [(⟨none, second, reading.program⟩ : Script), ⟨none, first, earlier.program⟩],
          script.Has node) ∧
        Reaches (.ofLimits ⟨50, 50⟩) reading.program.statements (ready second machine) stmt before ∧
        Arises 50 diagnostic.issue span 50 (.execute stmt) before := by
  intro first second machine
  obtain ⟨earlier, parsed, _⟩ := read_such (read .standard none first) (fun _ => true) (by decide +kernel)
  obtain ⟨reading, found, quiet⟩ := read_such (read machine.settings none second)
    (fun reading => reading.diagnostics.isEmpty) (by decide +kernel)
  obtain ⟨report, diagnostic, reported, single, facts⟩ :
      ∃ report diagnostic, (execute ⟨50, 50⟩ none second machine).1 = .reported report ∧
        report.diagnostics = [diagnostic] ∧
        (diagnostic.issue.code == "E402" && diagnostic.span.any fun span => span.start.line == 2) = true :=
    Conclusion.single (by decide +kernel)
  obtain ⟨coded, placed⟩ := Bool.and_eq_true_iff.mp facts
  have coded : diagnostic.issue.code = "E402" := eq_of_beq coded
  have ran : Ran [⟨none, first, earlier.program⟩] machine :=
    .executed _ none first [] _ earlier (.start .standard ⟨[]⟩ "2024-02-29") parsed
  have last : report.diagnostics = reading.diagnostics ++ [diagnostic] := by
    rw [List.isEmpty_iff.mp quiet, single, List.nil_append]
  have other : diagnostic.issue ≠ .tooDeep := by
    intro same
    rw [same] at coded
    exact absurd coded (by decide)
  obtain ⟨error, origin, _⟩ := runtime_issue_at_node ran _ found reported last other
  exact ⟨earlier, reading, report, diagnostic, parsed, found, reported, last, coded, begins_at placed, error, origin⟩

end Fiscal
