import Fiscal.Proofs.Token.Completion
import Fiscal.Proofs.Token.Nesting

set_option autoImplicit false

namespace Fiscal.Token

open Source

def Quotes (lines : List String) (report : Diagnostic) : Prop :=
  ∃ span, report.span = some span ∧ report.line = Text.line? lines span.start.line

def Overdrawn (tokens : List Token) : Prop :=
  ∃ before token after, tokens = before ++ token :: after ∧
    ∃ bracket : Bracket, token.kind = bracket.closing ∧ (openGroups before).stack bracket = []

theorem Overdrawn.append {tokens : List Token} (overdrawn : Overdrawn tokens) (more : List Token) :
    Overdrawn (tokens ++ more) := by
  obtain ⟨before, token, after, rfl, found⟩ := overdrawn
  exact ⟨before, token, after ++ more, by simp, found⟩

theorem nested_not_overdrawn {tokens : List Token} (nested : Nested (tokens.map (·.kind))) :
    ¬ Overdrawn tokens := by
  rintro ⟨before, token, after, split, bracket, closes, none⟩
  exact nested_finds_open nested split bracket closes none

namespace Scan

structure Reported (dialect : Dialect) (here next : Scan) (report : Diagnostic) : Prop where
  quoted : Quotes dialect.lines report
  closed : ∀ name, report.issue ≠ .unclosedGroup name
  opened : ∀ name, report.issue = .unopenedGroup name →
    ∃ (bracket : Bracket) (token : Token), next.tokens = token :: here.tokens ∧
      token.kind = bracket.closing ∧ here.groups.stack bracket = []

def Reporting (dialect : Dialect) (here next : Scan) : Prop :=
  ∀ report ∈ next.reports, report ∈ here.reports ∨ Reported dialect here next report

section Reading

variable {dialect : Dialect} {here next : Scan}

theorem Reporting.quiet (same : next.reports = here.reports) : Reporting dialect here next :=
  fun _ member => .inl (same ▸ member)

theorem Reported.other (issue : Issue) (span : Span) (closed : ∀ name, issue ≠ .unclosedGroup name)
    (opened : ∀ name, issue ≠ .unopenedGroup name) :
    Reported dialect here next ⟨issue, some span, Text.line? dialect.lines span.start.line⟩ :=
  ⟨⟨span, rfl, rfl⟩, closed, fun name same => absurd same (opened name)⟩

theorem readInvalid_reports (issue : Issue) (count : Nat) (closed : ∀ name, issue ≠ .unclosedGroup name)
    (opened : ∀ name, issue ≠ .unopenedGroup name) :
    Reporting dialect here (here.readInvalid dialect issue count) := by
  intro report member
  rcases List.mem_cons.mp member with rfl | earlier
  · exact .inr (.other issue ⟨here.place, _⟩ closed opened)
  · exact .inl earlier

theorem reportEscapes_reports (offset : Nat) (escapes : List (Nat × Option Char)) (last : Scan) :
    ∀ report ∈ (here.reportEscapes dialect offset escapes).reports,
      report ∈ here.reports ∨ Reported dialect here last report := by
  induction escapes generalizing here with
  | nil => exact fun _ => .inl
  | cons escape others ih =>
      intro report member
      rcases ih report member with known | later
      · rcases List.mem_cons.mp known with rfl | earlier
        · exact .inr (.other _ _ nofun nofun)
        · exact .inl earlier
      · exact .inr ⟨later.quoted, later.closed, later.opened⟩

theorem readString_reports (quote : Char) : Reporting dialect here (here.readString dialect quote) := by
  have within (offset count : Nat) (escapes : List (Nat × Option Char)) (issue : Issue)
      (closed : ∀ name, issue ≠ .unclosedGroup name) (opened : ∀ name, issue ≠ .unopenedGroup name) :
      Reporting dialect here ((here.reportEscapes dialect offset escapes).readInvalid dialect issue count) := by
    intro report member
    rcases List.mem_cons.mp member with rfl | earlier
    · exact .inr (.other issue _ closed opened)
    · exact reportEscapes_reports offset escapes _ report earlier
  unfold readString
  by_cases triple : here.ahead.take 3 = [quote, quote, quote]
  · simp only [triple, if_true]
    split
    · exact reportEscapes_reports _ _ _
    · exact within _ _ _ _ nofun nofun
  · simp only [triple, if_false]
    split
    · exact reportEscapes_reports _ _ _
    · exact within _ _ _ _ nofun nofun

theorem readNumber_reports : Reporting dialect here (here.readNumber dialect) := by
  unfold readNumber
  split
  · exact .quiet rfl
  · dsimp only
    split
    · exact readInvalid_reports _ _ nofun nofun
    · split <;> exact .quiet rfl

theorem readWord_reports (ran : here.readWord dialect = .ok next) : Reporting dialect here next := by
  unfold readWord at ran
  dsimp only at ran
  split at ran
  · split at ran <;> cases ran
    exact .quiet rfl
  · split at ran <;> cases ran <;> exact .quiet rfl

theorem closeGroup_reports (bracket : Bracket) (name : String) (groups : Groups) :
    Reporting dialect here
      (here.closeGroup dialect bracket.closing name (here.groups.stack bracket) groups) := by
  unfold closeGroup
  cases stack : here.groups.stack bracket with
  | cons => exact .quiet rfl
  | nil =>
      intro report member
      rcases List.mem_cons.mp member with rfl | earlier
      · exact .inr ⟨⟨_, rfl, rfl⟩, nofun, fun _ _ => ⟨bracket, _, rfl, rfl, stack⟩⟩
      · exact .inl earlier

theorem readSymbol_reports (c : Char) (following : Option Char) :
    Reporting dialect here (here.readSymbol dialect c following) := by
  unfold readSymbol
  split
  · exact .quiet rfl
  · dsimp only
    split
    · exact .quiet rfl
    · exact .quiet rfl
    · exact .quiet rfl
    · exact closeGroup_reports .parenthesis _ _
    · exact closeGroup_reports .square _ _
    · exact closeGroup_reports .brace _ _
    · split
      · exact .quiet rfl
      · exact readInvalid_reports _ _ nofun nofun

theorem readToken_reports (ran : here.readToken dialect = .ok next) : Reporting dialect here next := by
  unfold readToken at ran
  split at ran
  · cases ran
    exact .quiet rfl
  · split at ran
    · cases ran
      refine .quiet ?_
      unfold readNewline
      dsimp only
      split <;> rfl
    · split at ran
      · cases ran
        exact readString_reports _
      · split at ran
        · cases ran
          exact readNumber_reports
        · split at ran
          · exact readWord_reports ran
          · cases ran
            exact readSymbol_reports _ _

end Reading

section Rounds

variable {dialect : Dialect} {scan next : Scan}

structure Told (dialect : Dialect) (scan : Scan) : Prop where
  laid : scan.Laid
  quoted : ∀ report ∈ scan.reports, Quotes dialect.lines report
  closed : ∀ report ∈ scan.reports, ∀ name, report.issue ≠ .unclosedGroup name
  opened : ∀ report ∈ scan.reports, ∀ name, report.issue = .unopenedGroup name → Overdrawn scan.tokens.reverse

theorem Told.read {here : Scan} (told : scan.Told dialect) (laid : here.Laid) (kept : next.Laid)
    (same : here.reports = scan.reports) (grown : scan.tokens <:+ here.tokens) (more : here.tokens <:+ next.tokens)
    (reports : Reporting dialect here next) : next.Told dialect := by
  refine ⟨kept, fun report member => ?_, fun report member => ?_, fun report member name issue => ?_⟩
  all_goals rcases reports report member with earlier | reported
  all_goals first | rw [same] at earlier | skip
  · exact told.quoted report earlier
  · exact reported.quoted
  · exact told.closed report earlier
  · exact reported.closed
  · obtain ⟨later, split⟩ := grown.trans more
    have overdrawn := (told.opened report earlier name issue).append later.reverse
    rwa [← List.reverse_append, split] at overdrawn
  · obtain ⟨bracket, token, tokens, closes, none⟩ := reported.opened name issue
    refine ⟨here.tokens.reverse, token, [], by simp [tokens], bracket, closes, ?_⟩
    rwa [← laid.brackets]

theorem passed_laid (laid : scan.Laid) : (scan.passed dialect).Laid := by
  unfold passed
  split
  · exact (startLine_laid (scan.advance (trivia scan.ahead).length) _ _ laid).1
  · exact laid

theorem passed_grows (dialect : Dialect) (scan : Scan) : scan.tokens <:+ (scan.passed dialect).tokens := by
  unfold passed
  split
  · exact startLine_grows (scan.advance (trivia scan.ahead).length) _ _
  · exact List.suffix_refl _

theorem Told.round (told : scan.Told dialect) (ran : scan.round dialect = .ok next) : next.Told dialect := by
  have kept := (round_laid dialect scan next ran told.laid).1
  cases closed : (trivia scan.ahead).openComment with
  | none =>
      rw [round_closed dialect scan closed] at ran
      exact told.read (passed_laid told.laid) kept (passed_reports dialect scan) (passed_grows dialect scan)
        (readToken_reads dialect _ next ran).grows.1 (readToken_reports ran)
  | some offset =>
      have loud : scan.round dialect = .ok ((scan.advance offset).readInvalid dialect .unterminatedComment
          ((trivia scan.ahead).length - offset)) := by
        rw [Scan.round]
        dsimp only
        rw [closed]
      cases loud.symm.trans ran
      have here : (scan.advance offset).Laid := told.laid
      exact told.read here kept rfl (List.suffix_refl _) (List.suffix_cons _ _)
        (readInvalid_reports .unterminatedComment _ (by rintro _ ⟨⟩) (by rintro _ ⟨⟩))

theorem Reaches.told {last : Scan} (reaches : Reaches dialect scan last) (told : scan.Told dialect) :
    last.Told dialect := by
  induction reaches with
  | refl => exact told
  | step _ _ _ _ ran _ ih => exact ih (told.round ran)

theorem start_told (file : Option String) (source : String) : (start file source).Told dialect :=
  ⟨Layout.start, List.forall_mem_nil _, List.forall_mem_nil _, List.forall_mem_nil _⟩

theorem finish_cases (scan : Scan) :
    ∀ report ∈ scan.finish.reports, report ∈ scan.reports ∨
      report.line = none ∧ (∃ name, report.issue = .unclosedGroup name) ∧ scan.groups ≠ Groups.none := by
  have unclosed (name : String) (places : List Location) (report : Diagnostic) (other : scan.groups = Groups.none → places = [])
      (member : report ∈ places.map fun place => ⟨.unclosedGroup name, some (Span.point place), none⟩) :
      report.line = none ∧ (∃ name, report.issue = .unclosedGroup name) ∧ scan.groups ≠ Groups.none := by
    obtain ⟨place, among, rfl⟩ := List.mem_map.mp member
    refine ⟨rfl, ⟨name, rfl⟩, fun none => ?_⟩
    rw [other none] at among
    cases among
  intro report member
  rw [finish_reports, reportUnclosed_reports, reportUnclosed_reports, reportUnclosed_reports] at member
  rcases List.mem_append.mp member with brace | member
  · exact .inr (unclosed _ _ report (fun none => by rw [none]; rfl) brace)
  rcases List.mem_append.mp member with bracket | member
  · exact .inr (unclosed _ _ report (fun none => by rw [none]; rfl) bracket)
  rcases List.mem_append.mp member with paren | earlier
  · exact .inr (unclosed _ _ report (fun none => by rw [none]; rfl) paren)
  · exact .inl earlier

end Rounds

end Scan

section Streams

variable {tabWidth : Nat} {currencies : List String} {file : Option String} {source : String} {stream : Stream}

-- Each report of a stream quotes the line on which its span begins, or quotes none.
theorem stream_quotes (scanned : scan tabWidth currencies file source = .ok stream) :
    ∀ report ∈ stream.reports, report.line = none ∨ Quotes (Text.lines source) report := by
  obtain ⟨ended, reaches, _, _, reports⟩ := scan_ended.mp scanned
  have told := reaches.told (Scan.start_told file source)
  intro report member
  rw [reports, List.mem_reverse] at member
  rcases ended.finish_cases report member with earlier | ⟨none, _⟩
  · exact .inr (told.quoted report earlier)
  · exact .inl none

theorem groups_closing (ended : Scan) (laid : ended.Laid) :
    openGroups (ended.tokens.reverse ++ ended.closing ++ [ended.ending]) = ended.groups := by
  have closed := (Scan.closing_laid ended laid).brackets
  rw [List.reverse_append, List.reverse_reverse] at closed
  rw [openGroups_concat, ← closed]
  rfl

theorem nested_reports (scanned : scan tabWidth currencies file source = .ok stream)
    (nested : Nested (stream.tokens.map (·.kind))) :
    ∀ report ∈ stream.reports, ∀ name,
      report.issue ≠ .unclosedGroup name ∧ report.issue ≠ .unopenedGroup name := by
  obtain ⟨ended, reaches, _, tokens, reports⟩ := scan_ended.mp scanned
  have told := reaches.told (Scan.start_told file source)
  have shut : ended.groups = Groups.none := by
    rw [← groups_closing ended told.laid, ← tokens]
    exact nested_leaves_none nested
  intro report member name
  rw [reports, List.mem_reverse] at member
  rcases ended.finish_cases report member with earlier | ⟨_, _, unclosed⟩
  · refine ⟨told.closed report earlier name, fun issue => ?_⟩
    have overdrawn := (told.opened report earlier name issue).append (ended.closing ++ [ended.ending])
    rw [← List.append_assoc, ← tokens] at overdrawn
    exact nested_not_overdrawn nested overdrawn
  · exact absurd shut unclosed

end Streams

end Fiscal.Token
