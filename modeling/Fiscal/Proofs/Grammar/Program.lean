import Fiscal.Proofs.Grammar.Statement
import Fiscal.Proofs.Token.Stream

set_option autoImplicit false

namespace Fiscal.Grammar

def Tolerant {α : Type} (reading : Reading α) : Prop :=
  ∀ cursor diagnostic after, reading cursor ≠ .error (.refused diagnostic) after

namespace Tolerant

variable {α β : Type} {reading : Reading α}

theorem bind {next : α → Reading β} (first : Tolerant reading) (rest : ∀ value, Tolerant (next value)) :
    Tolerant (reading >>= next) := by
  intro cursor diagnostic after refused
  change EStateM.bind reading next cursor = _ at refused
  unfold EStateM.bind at refused
  cases ran : reading cursor with
  | ok value middle =>
      rw [ran] at refused
      exact rest value middle diagnostic after refused
  | error halt middle =>
      rw [ran] at refused
      cases refused
      exact first cursor diagnostic after ran

theorem pure (value : α) : Tolerant (Pure.pure value) := fun _ _ _ => nofun

theorem get : Tolerant (get : Reading Cursor) := fun _ _ _ => nofun

theorem both {test : Prop} [Decidable test] {first second : Reading α} (yes : Tolerant first)
    (no : Tolerant second) : Tolerant (if test then first else second) := by
  split
  · exact yes
  · exact no

theorem repeatStep {σ : Type} {round : σ → Reading (σ × Bool)} (rounds : ∀ state, Tolerant (round state))
    (count : Nat) (state : σ) : Tolerant (repeatStep round count state) := by
  induction count generalizing state with
  | zero => exact fun _ _ _ => nofun
  | succ count ih => exact (rounds state).bind fun next => both (ih next.1) (pure next.1)

theorem statement (inner : Rules) : Tolerant (statement inner) := by
  intro cursor diagnostic after refused
  rw [statement_eq] at refused
  cases ran : statementForm inner cursor with
  | ok value middle =>
      rw [ran] at refused
      cases refused
  | error halt middle =>
      rw [ran] at refused
      cases halt with
      | refused => cases refused
      | unfinished => cases refused

theorem ofDepth (depth : Nat) : Tolerant (Rules.ofDepth depth).statement := by
  cases depth with
  | zero => exact fun _ _ _ => nofun
  | succ depth => exact statement _

theorem strayDedent : Tolerant strayDedent := fun _ _ _ => nofun

theorem skipNewlines : Tolerant skipNewlines := fun _ _ _ => nofun

theorem nextAtTop {rules : Rules} (tolerant : Tolerant rules.statement) (statements : List Stmt) :
    Tolerant (nextAtTop rules statements) := by
  refine get.bind fun cursor => both ?_ ?_
  · exact strayDedent.bind fun _ => pure _
  · exact tolerant.bind fun _ => pure _

theorem programRound {rules : Rules} (tolerant : Tolerant rules.statement) (maxErrors : Int)
    (statements : List Stmt) : Tolerant (programRound rules maxErrors statements) := by
  refine get.bind fun cursor => both (pure _) ?_
  refine (nextAtTop tolerant statements).bind fun _ => get.bind fun _ => both (pure _) ?_
  exact skipNewlines.bind fun _ => pure _

theorem statements {rules : Rules} (tolerant : Tolerant rules.statement) (maxErrors : Int) :
    Tolerant (statements rules maxErrors) := by
  refine skipNewlines.bind fun _ => bind ?_ fun _ => pure _
  exact get.bind fun _ => repeatStep (programRound tolerant maxErrors) _ []

end Tolerant

namespace Reads

variable {bound : Nat} {cursor : Cursor}

theorem strayDedent (going : cursor.kind ≠ .endOfFile) :
    Reads bound Always Any cursor strayDedent Grammar.strayDedent :=
  (advance going).taking fun _ _ => .get (report _ _)

section Rules

variable {inner twin : Rules} (rules : inner.Sound bound twin)

include rules

theorem nextAtTop (statements : List Stmt) (going : cursor.kind ≠ .endOfFile) :
    Reads bound Always (fun last => AllClean statements → AllClean last) cursor
      (nextAtTop inner statements) (Grammar.nextAtTop twin statements) := by
  refine .at? .dedent (.both (fun _ => ?_) fun inside => ?_)
  · exact (strayDedent going).taking fun _ _ => .pure _ id id
  · refine (rules.statement cursor going (by simpa using inside)).gaining fun statement _ => ?_
    exact .pure _ id fun clean others => List.forall_mem_cons.mpr ⟨clean, others⟩

theorem programRound (maxErrors : Int) (statements : List Stmt) (cursor : Cursor) :
    Reads bound More (fun last => AllClean statements → AllClean last.1) cursor
      (programRound inner maxErrors statements) (Grammar.programRound twin maxErrors statements) := by
  refine .get (.both (fun _ => .pure _ nofun id) fun on => ?_)
  have going : cursor.kind ≠ .endOfFile := by simpa [Cursor.atEnd] using on
  refine (nextAtTop rules statements going).gaining fun next after => .get ?_
  refine .both (fun _ => .pure _ id id) fun _ => ?_
  exact skipNewlines.bind fun _ _ => .pure _ id id

theorem statements (maxErrors : Int) :
    Reads bound Never AllClean cursor (statements inner maxErrors) (Grammar.statements twin maxErrors) := by
  refine skipNewlines.bind fun _ _ => ?_
  refine (repeating (programRound rules maxErrors) []).holding fun last _ => .pure _ id fun clean => ?_
  intro statement member
  exact clean (by simp [AllClean]) statement (List.mem_reverse.mp member)

end Rules

end Reads

theorem bind_ok {α β : Type} {reading : Reading α} {next : α → Reading β} {cursor after : Cursor} {last : β}
    (ran : (reading >>= next) cursor = .ok last after) :
    ∃ value middle, reading cursor = .ok value middle ∧ next value middle = .ok last after := by
  change EStateM.bind reading next cursor = _ at ran
  unfold EStateM.bind at ran
  cases one : reading cursor with
  | error halt middle =>
      rw [one] at ran
      cases ran
  | ok value middle =>
      rw [one] at ran
      exact ⟨value, middle, rfl, ran⟩

theorem repeatStep_last {σ : Type} {round : σ → Reading (σ × Bool)} (count : Nat) (state last : σ)
    (cursor after : Cursor) (ran : repeatStep round count state cursor = .ok last after) :
    ∃ earlier before, round earlier before = .ok (last, false) after := by
  induction count generalizing state cursor with
  | zero => cases ran
  | succ count ih =>
      obtain ⟨⟨next, more⟩, middle, one, others⟩ := bind_ok ran
      cases more with
      | true => exact ih next middle others
      | false =>
          cases others
          exact ⟨state, cursor, one⟩

theorem repeatStep_grows {α : Type} {round : List α → Reading (List α × Bool)}
    (grows : ∀ items cursor last after, round items cursor = .ok last after → items <:+ last.1)
    (count : Nat) (items last : List α) (cursor after : Cursor)
    (ran : repeatStep round count items cursor = .ok last after) : items <:+ last := by
  induction count generalizing items cursor with
  | zero => cases ran
  | succ count ih =>
      obtain ⟨⟨next, more⟩, middle, one, others⟩ := bind_ok ran
      have grown := grows items cursor _ middle one
      cases more with
      | true => exact grown.trans (ih next middle others)
      | false =>
          cases others
          exact grown

-- The end of the file is the last token and stands nowhere else.
def EndsOnce (tokens : List Token) : Prop :=
  ∃ body last, tokens = body ++ [last] ∧ last.kind = .endOfFile ∧ ∀ token ∈ body, token.kind ≠ .endOfFile

theorem EndsOnce.cons {tokens : List Token} (ends : EndsOnce tokens) :
    ∃ first rest, tokens = first :: rest := by
  obtain ⟨body, last, rfl, _⟩ := ends
  exact List.exists_cons_of_ne_nil (by simp)

theorem scanned_ends {tabWidth : Nat} {currencies : List String} {file : Option String} {source : String}
    {stream : Token.Stream} (scanned : Token.scan tabWidth currencies file source = .ok stream) :
    EndsOnce stream.tokens := by
  obtain ⟨ended, _, _, laid, _, tokens⟩ := Token.scan_cases tabWidth currencies file source stream scanned
  refine ⟨_, ended.ending, tokens, rfl, fun token member => ?_⟩
  refine (Token.Scan.closing_laid ended laid).goes_on token ?_
  simpa [or_comm] using member

theorem EndsOnce.ended {first : Token} {rest : List Token} (ends : EndsOnce (first :: rest))
    (lines : Option (List String)) : (Cursor.start first rest lines).Ended := by
  obtain ⟨body, last, split, kind, _⟩ := ends
  have final := congrArg List.getLast? split
  rw [List.getLast?_cons, List.getLast?_concat, Option.some.injEq] at final
  unfold Cursor.Ended
  change (rest.getLast?.getD first).kind = _
  rw [final, kind]

theorem nextAtTop_cases {rules : Rules} {statements last : List Stmt} {cursor after : Cursor}
    (ran : nextAtTop rules statements cursor = .ok last after) :
    last = statements ∧ after.reports ≠ [] ∨ ∃ statement, last = statement :: statements := by
  obtain ⟨stray, middle, _, one⟩ := bind_ok ran
  split at one
  · obtain ⟨_, _, reported, same⟩ := bind_ok one
    cases same
    cases reported
    exact .inl ⟨rfl, List.cons_ne_nil _ _⟩
  · obtain ⟨statement, _, _, same⟩ := bind_ok one
    cases same
    exact .inr ⟨statement, rfl⟩

theorem nextAtTop_grows {rules : Rules} {statements last : List Stmt} {cursor after : Cursor}
    (ran : nextAtTop rules statements cursor = .ok last after) : statements <:+ last := by
  rcases nextAtTop_cases ran with ⟨rfl, _⟩ | ⟨statement, rfl⟩
  · exact List.suffix_rfl
  · exact List.suffix_cons _ _

theorem programRound_cases {rules : Rules} {maxErrors : Int} {statements : List Stmt} {last : List Stmt × Bool}
    {cursor after : Cursor} (ran : programRound rules maxErrors statements cursor = .ok last after) :
    cursor.atEnd = true ∧ last = (statements, false) ∧ after = cursor ∨
      cursor.atEnd = false ∧ ∃ next middle, nextAtTop rules statements cursor = .ok next middle ∧
        (maxErrors ≤ middle.reports.length ∧ last = (next, false) ∧ after = middle ∨
          ¬ maxErrors ≤ middle.reports.length ∧ last = (next, true) ∧
            skipNewlines middle = .ok () after) := by
  obtain ⟨_, _, here, one⟩ := bind_ok ran
  cases here
  split at one
  · rename_i ended
    cases one
    exact .inl ⟨ended, rfl, rfl⟩
  · rename_i going
    refine .inr ⟨by simpa using going, ?_⟩
    obtain ⟨next, middle, top, two⟩ := bind_ok one
    obtain ⟨_, _, there, three⟩ := bind_ok two
    cases there
    refine ⟨next, middle, top, ?_⟩
    split at three
    · rename_i limit
      cases three
      exact .inl ⟨limit, rfl, rfl⟩
    · rename_i below
      obtain ⟨_, _, skipped, four⟩ := bind_ok three
      cases four
      exact .inr ⟨below, rfl, skipped⟩

theorem programRound_grows {rules : Rules} (maxErrors : Int) (statements : List Stmt) (cursor : Cursor)
    (last : List Stmt × Bool) (after : Cursor)
    (ran : programRound rules maxErrors statements cursor = .ok last after) : statements <:+ last.1 := by
  rcases programRound_cases ran with ⟨_, rfl, _⟩ | ⟨_, next, middle, top, ⟨_, rfl, _⟩ | ⟨_, rfl, _⟩⟩
  · exact List.suffix_rfl
  · exact nextAtTop_grows top
  · exact nextAtTop_grows top

theorem statements_ok {rules : Rules} {maxErrors : Int} {cursor after : Cursor} {statements : List Stmt}
    (ran : Grammar.statements rules maxErrors cursor = .ok statements after) :
    ∃ begun last, skipNewlines cursor = .ok () begun ∧ statements = last.reverse ∧
      repeatStep (programRound rules maxErrors) (begun.ahead.length + 1) [] begun = .ok last after := by
  obtain ⟨_, begun, skipped, one⟩ := bind_ok ran
  obtain ⟨last, middle, two, three⟩ := bind_ok one
  obtain ⟨_, _, here, rounds⟩ := bind_ok two
  cases here
  cases three
  exact ⟨begun, last, skipped, rfl, rounds⟩

theorem statements_stop {rules : Rules} {maxErrors : Int} {cursor after : Cursor} {statements : List Stmt}
    (ran : Grammar.statements rules maxErrors cursor = .ok statements after) :
    after.kind = .endOfFile ∨ maxErrors ≤ after.reports.length := by
  obtain ⟨begun, _, _, _, rounds⟩ := statements_ok ran
  obtain ⟨earlier, before, last⟩ := repeatStep_last _ _ _ _ _ rounds
  rcases programRound_cases last with ⟨ended, _, rfl⟩ | ⟨_, next, middle, _, ⟨limit, _, rfl⟩ | ⟨_, more, _⟩⟩
  · exact .inl (by simpa [Cursor.atEnd] using ended)
  · exact .inr limit
  · cases more

-- A reading of all statements comes to its end, with nothing refused.
theorem statements_end (maxErrors : Int) {depth : Nat} {cursor : Cursor} (room : Room depth cursor) :
    ∃ statements after, Grammar.statements (Rules.ofDepth depth) maxErrors cursor = .ok statements after ∧
      Passes cursor after ∧
      (after.reports = cursor.reports → AllClean statements ∧
        Grammar.statements (Rules.strict depth) maxErrors cursor = .ok statements after) := by
  have leads := Reads.statements (Rules.sound depth) maxErrors room
  cases ran : Grammar.statements (Rules.ofDepth depth) maxErrors cursor with
  | ok statements after =>
      rw [ran] at leads
      exact ⟨statements, after, rfl, leads.1, leads.2.2⟩
  | error halt after =>
      rw [ran] at leads
      cases halt with
      | unfinished => exact leads.elim
      | refused diagnostic =>
          exact absurd ran (Tolerant.statements (.ofDepth depth) maxErrors cursor diagnostic after)

theorem EndsOnce.room {first : Token} {rest : List Token} (ends : EndsOnce (first :: rest))
    (lines : Option (List String)) : Room (rest.length + 2) (Cursor.start first rest lines) :=
  ⟨ends.ended lines, by simp [Cursor.start]⟩

theorem parse_ok {maxErrors : Int} {lines : Option (List String)} {first : Token} {rest : List Token}
    {statements : List Stmt} {cursor : Cursor}
    (ran : readProgram maxErrors lines first rest = .ok statements cursor) :
    parse maxErrors lines (first :: rest) =
      ⟨⟨cursor.spanFrom first.span.start, statements⟩, cursor.reports.reverse⟩ := by
  rw [parse, ran]

-- A call for a statement comes back with one, further on. What was refused within it, and not within
-- a statement inside, is its last report.
def Recovers (inner : Rules) (cursor : Cursor) : Prop :=
  ∃ value after, statement inner cursor = .ok value after ∧ Passes cursor after ∧ Shorter cursor after ∧
    ∀ diagnostic refusal, statementForm inner cursor = .error (.refused diagnostic) refusal →
      Passes cursor refusal ∧ after.reports = diagnostic :: refusal.reports

theorem resume_reports (remaining : Nat) (cursor : Cursor) :
    (resume remaining cursor).reports = cursor.reports := by
  unfold resume Cursor.skip
  dsimp only
  split
  · unfold Cursor.advance
    split
    · rfl
    · split <;> rfl
  · rfl

theorem recovers {depth : Nat} {cursor : Cursor} (ended : cursor.Ended) (within : cursor.ahead.length ≤ depth)
    (going : cursor.kind ≠ .endOfFile) (inside : cursor.kind ≠ .dedent) :
    Recovers (Rules.ofDepth depth) cursor := by
  have room : Room (depth + 1) cursor := ⟨ended, Nat.lt_succ_of_le within⟩
  have leads := Reads.statement (Rules.sound depth) going inside room
  have form := Reads.statementForm (Rules.sound depth) room
  rw [statement_eq] at leads
  unfold Recovers
  rw [statement_eq]
  cases ran : statementForm (Rules.ofDepth depth) cursor with
  | ok value after =>
      rw [ran] at leads
      refine ⟨value, after, rfl, leads.1, leads.2.1 trivial, ?_⟩
      rintro _ _ ⟨⟩
  | error halt refusal =>
      rw [ran] at leads form
      cases halt with
      | unfinished => exact leads.elim
      | refused diagnostic =>
          refine ⟨_, _, rfl, leads.1, leads.2.1 trivial, ?_⟩
          rintro _ _ ⟨⟩
          exact ⟨form, resume_reports _ _⟩

theorem parse_ends (maxErrors : Int) (lines : Option (List String)) (first : Token) (rest : List Token)
    (ends : EndsOnce (first :: rest)) :
    (∃ statements cursor, readProgram maxErrors lines first rest = .ok statements cursor ∧
      parse maxErrors lines (first :: rest) =
        ⟨⟨cursor.spanFrom first.span.start, statements⟩, cursor.reports.reverse⟩ ∧
      Passes (Cursor.start first rest lines) cursor) ∧
    ∀ depth cursor, Passes (Cursor.start first rest lines) cursor → cursor.ahead.length ≤ depth →
      cursor.kind ≠ .endOfFile → cursor.kind ≠ .dedent → Recovers (Rules.ofDepth depth) cursor := by
  refine ⟨?_, fun depth cursor passes within going inside => ?_⟩
  · obtain ⟨statements, cursor, ran, passes, _⟩ := statements_end maxErrors (ends.room lines)
    exact ⟨statements, cursor, ran, parse_ok ran, passes⟩
  · exact recovers (passes.ended (ends.ended lines)) within going inside

theorem scrambled_tokens_end :
    let token (kind : TokenKind) : Token := ⟨kind, .none, kind.name, default⟩
    let rest := [token .indent, token .ifKeyword, token .identifier, token .dedent, token .dedent,
      token .arrow, token .endOfFile]
    (parse 20 none (token .dedent :: rest)).reports.length = 4 ∧
      ∃ statements cursor, readProgram 20 none (token .dedent) rest = .ok statements cursor ∧
        Passes (Cursor.start (token .dedent) rest none) cursor := by
  intro token rest
  have ends : EndsOnce (token .dedent :: rest) :=
    ⟨token .dedent :: rest.dropLast, token .endOfFile, rfl, rfl, by decide⟩
  obtain ⟨⟨statements, cursor, ran, _, passes⟩, _⟩ := parse_ends 20 none (token .dedent) rest ends
  exact ⟨by decide +kernel, statements, cursor, ran, passes⟩

-- The reading of a list of tokens has come to its end of the file.
def ReadToEnd (maxErrors : Int) (lines : Option (List String)) (tokens : List Token) : Prop :=
  ∃ first rest statements cursor, tokens = first :: rest ∧
    readProgram maxErrors lines first rest = .ok statements cursor ∧ cursor.kind = .endOfFile

theorem statements_limited {rules : Rules} {maxErrors limit : Int} {cursor after last : Cursor}
    {few all : List Stmt} (none : maxErrors ≤ 0) (positive : 0 < limit)
    (ran : Grammar.statements rules maxErrors cursor = .ok few after) (quiet : after.reports = [])
    (ranAll : Grammar.statements rules limit cursor = .ok all last) : few = all.take 1 := by
  obtain ⟨begun, last, skipped, rfl, rounds⟩ := statements_ok ran
  obtain ⟨begunAll, lastAll, skippedAll, rfl, roundsAll⟩ := statements_ok ranAll
  rw [skipped] at skippedAll
  cases skippedAll
  obtain ⟨next, middle, one, others⟩ := bind_ok rounds
  obtain ⟨nextAll, middleAll, oneAll, othersAll⟩ := bind_ok roundsAll
  rcases programRound_cases one with ⟨ended, rfl, rfl⟩ | ⟨going, top, stop, first, stopped⟩
  · rcases programRound_cases oneAll with ⟨_, rfl, rfl⟩ | ⟨going, _⟩
    · cases others
      cases othersAll
      rfl
    · rw [ended] at going
      cases going
  · rcases stopped with ⟨_, rfl, rfl⟩ | ⟨more, _⟩
    · cases others
      obtain ⟨statement, rfl⟩ : ∃ statement, last = [statement] := by
        rcases nextAtTop_cases first with ⟨_, reported⟩ | found
        · exact absurd quiet reported
        · exact found
      rcases programRound_cases oneAll with ⟨ended, _⟩ | ⟨_, topAll, _, firstAll, onward⟩
      · rw [ended] at going
        cases going
      · rw [first] at firstAll
        cases firstAll
        rcases onward with ⟨limited, _⟩ | ⟨_, rfl, _⟩
        · rw [quiet] at limited
          exact absurd positive (by simpa using limited)
        · obtain ⟨later, rfl⟩ := repeatStep_grows (programRound_grows limit) _ _ _ _ _ othersAll
          simp
    · omega

theorem reports_of_parse {maxErrors : Int} {lines : Option (List String)} {first : Token} {rest : List Token}
    {statements : List Stmt} {cursor : Cursor}
    (ran : readProgram maxErrors lines first rest = .ok statements cursor)
    (quiet : (parse maxErrors lines (first :: rest)).reports = []) : cursor.reports = [] := by
  rw [parse_ok ran] at quiet
  exact List.reverse_eq_nil_iff.mp quiet

theorem unreported_parse (tabWidth : Nat) (currencies : List String) (file : Option String) (source : String)
    (stream : Token.Stream) (scanned : Token.scan tabWidth currencies file source = .ok stream)
    (maxErrors : Int) (lines : Option (List String))
    (quiet : (parse maxErrors lines stream.tokens).reports = []) :
    AllClean (parse maxErrors lines stream.tokens).program.statements ∧
      (0 < maxErrors → ReadToEnd maxErrors lines stream.tokens) ∧
      (maxErrors ≤ 0 → ∀ limit, 0 < limit →
        (parse maxErrors lines stream.tokens).program.statements =
          (parse limit lines stream.tokens).program.statements.take 1) := by
  have ends := scanned_ends scanned
  obtain ⟨first, rest, tokens⟩ := ends.cons
  rw [tokens] at ends quiet ⊢
  obtain ⟨statements, cursor, ran, passes, silent⟩ := statements_end maxErrors (ends.room lines)
  have unreported := reports_of_parse ran quiet
  refine ⟨?_, fun positive => ?_, fun none limit positive => ?_⟩
  · rw [parse_ok ran]
    exact (silent unreported).1
  · refine ⟨first, rest, statements, cursor, rfl, ran, ?_⟩
    rcases statements_stop ran with ended | limited
    · exact ended
    · rw [unreported] at limited
      exact absurd positive (by simpa using limited)
  · obtain ⟨all, last, ranAll, _⟩ := statements_end limit (ends.room lines)
    rw [parse_ok ran, parse_ok ranAll]
    exact statements_limited none positive ran unreported ranAll

-- Without room for an error the second of two statements is left out, and nothing is said.
theorem second_statement_left_out :
    let source := "PRINT 1\nPRINT 2"
    ∃ stream, Token.scan 4 [] none source = .ok stream ∧
      (parse 0 none stream.tokens).reports = [] ∧
      (parse 1 none stream.tokens).program.statements.length = 2 ∧
      (parse 0 none stream.tokens).program.statements =
        (parse 1 none stream.tokens).program.statements.take 1 := by
  intro source
  obtain ⟨stream, scanned, facts⟩ := Token.scanned_such (Token.scan 4 [] none source)
    (fun stream => (parse 0 none stream.tokens).reports.length == 0 &&
      (parse 1 none stream.tokens).program.statements.length == 2) (by decide +kernel)
  simp only [Bool.and_eq_true, beq_iff_eq] at facts
  have quiet := List.length_eq_zero_iff.mp facts.1
  obtain ⟨_, _, limited⟩ := unreported_parse 4 [] none source stream scanned 0 none quiet
  exact ⟨stream, scanned, quiet, facts.2, limited (by decide) 1 (by decide)⟩

end Fiscal.Grammar
