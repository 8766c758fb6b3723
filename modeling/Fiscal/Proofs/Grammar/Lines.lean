import Mathlib.Data.List.Forall2
import Fiscal.Proofs.Grammar.ParallelRecovery

set_option autoImplicit false

namespace Fiscal.Grammar

open Token (Groups)

def linesFrom (line : List Token) : List Token → List (List Token × Token)
  | [] => []
  | token :: rest =>
      if token.kind = .newline then (line, token) :: linesFrom [] rest
      else linesFrom (line ++ [token]) rest

def logicalLines (tokens : List Token) : List (List Token × Token) := linesFrom [] tokens

-- What a line gives to a program: nothing if it is empty, and the one statement that it gives alone
-- where it can be read alone.
structure Isolated (last : Token) (line : List Token × Token) (piece : List Stmt) : Prop where
  empty : line.1 = [] → piece = []
  alone : line.1 ≠ [] → ∀ (limit : Int) (quoted : Option (List String)), 0 < limit →
    (parse limit quoted (line.1 ++ [line.2, last])).reports = [] →
    ∃ statement, (parse limit quoted (line.1 ++ [line.2, last])).program.statements = [statement] ∧
      piece = [statement]

-- Tokens of lines without blocks, from a place where a line has begun or not and some brackets are
-- open. Only at the end of the file may brackets be left open.
inductive Lined (last : Token) : Bool → Groups → List Token → Prop where
  | ended (kind : last.kind = .endOfFile) : Lined last false Groups.none [last]
  | token (begun : Bool) (groups : Groups) (token : Token) (rest : List Token)
      (read : token.kind.isRead = true)
      (word : Text.isIdentifier token.lexeme = true → token.kind.isBracket = false)
      (later : Lined last true (groups.after token.span.start token.kind) rest) :
      Lined last begun groups (token :: rest)
  | line (begun : Bool) (token : Token) (rest : List Token) (kind : token.kind = .newline)
      (mark : Text.isIdentifier token.lexeme = false) (later : Lined last false Groups.none rest) :
      Lined last begun Groups.none (token :: rest)
  | final (groups : Groups) (token : Token) (kind : token.kind = .newline)
      (ended : last.kind = .endOfFile) : Lined last true groups [token, last]

theorem read_kinds {kind : TokenKind} (read : kind.isRead = true) : kind.isLayout = false ∧ kind ≠ .endOfFile := by
  refine ⟨by simpa using (Bool.and_eq_true_iff.mp read).1, ?_⟩
  rintro rfl
  cases read

theorem read_inside {kind : TokenKind} (read : kind.isRead = true) : kind ≠ .newline ∧ kind ≠ .indent ∧ kind ≠ .dedent := by
  refine ⟨?_, ?_, ?_⟩ <;> rintro rfl <;> cases read

section Lines

variable {last : Token} {groups : Groups} {tokens : List Token}

theorem linesFrom_body (line body : List Token) (token : Token) (rest : List Token)
    (inside : ∀ token ∈ body, token.kind ≠ .newline) (kind : token.kind = .newline) :
    linesFrom line (body ++ token :: rest) = (line ++ body, token) :: logicalLines rest := by
  induction body generalizing line with
  | nil => simp [linesFrom, kind, logicalLines]
  | cons head others ih =>
      rw [List.cons_append, linesFrom, if_neg (inside head (by simp)),
        ih (line ++ [head]) fun token member => inside token (by simp [member])]
      simp

theorem Settled.read {nested : Bool} {token : Token} {rest : List Token} (read : token.kind.isRead = true)
    (word : Text.isIdentifier token.lexeme = true → token.kind.isBracket = false)
    (later : Settled nested (groups.after token.span.start token.kind) rest) :
    Settled nested groups (token :: rest) := by
  obtain ⟨plain, going⟩ := read_kinds read
  refine .cons _ token _ going (fun layout => ?_) (fun named => ⟨plain, word named⟩) later
  rw [plain] at layout
  cases layout

namespace Lined

theorem split {begun : Bool} (lined : Lined last begun groups tokens) (started : begun = true) :
    ∃ body token rest, tokens = body ++ token :: rest ∧ token.kind = .newline ∧
      (∀ token ∈ body, token.kind.isRead = true) ∧
      (Settled false groups (body ++ [token]) ∧ Lined last false Groups.none rest ∨
        rest = [last] ∧ last.kind = .endOfFile) := by
  induction lined with
  | ended => cases started
  | line _ token rest kind mark later =>
      exact ⟨[], token, rest, rfl, kind, by simp, .inl ⟨.last _ token kind rfl mark, later⟩⟩
  | final groups token kind ended => exact ⟨[], token, [last], rfl, kind, by simp, .inr ⟨rfl, ended⟩⟩
  | token _ groups head rest read word _ ih =>
      obtain ⟨body, token, others, rfl, kind, all, follows⟩ := ih rfl
      refine ⟨head :: body, token, others, rfl, kind, List.forall_mem_cons.mpr ⟨read, all⟩, follows.imp_left ?_⟩
      rintro ⟨settled, later⟩
      exact ⟨.read read word settled, later⟩

theorem last_kind {begun : Bool} (lined : Lined last begun groups tokens) : last.kind = .endOfFile := by
  induction lined with
  | ended kind => exact kind
  | token _ _ _ _ _ _ _ ih => exact ih
  | line _ _ _ _ _ _ ih => exact ih
  | final _ _ _ ended => exact ended

theorem head {begun : Bool} (lined : Lined last begun groups tokens) :
    ∃ head others, trimmed tokens = head :: others ∧ head.kind ≠ .newline ∧ head.kind ≠ .indent := by
  induction lined with
  | ended kind => exact ⟨last, [], by simp [trimmed, kind], by simp [kind], by simp [kind]⟩
  | token _ groups token rest read =>
      obtain ⟨line, block, _⟩ := read_inside read
      exact ⟨token, rest, by simp [trimmed, line], line, block⟩
  | line _ token rest kind _ _ ih =>
      have passed : trimmed (token :: rest) = trimmed rest := by simp [trimmed, kind]
      rwa [passed]
  | final groups token kind ended =>
      exact ⟨last, [], by simp [trimmed, kind, ended], by simp [ended], by simp [ended]⟩

end Lined

def lineMode (last : Token) (rest : List Token) : Mode := .cut false [last] rest (trimmed rest)

theorem Lined.fits {rest : List Token} (lined : Lined last false Groups.none rest) :
    (lineMode last rest).Fits := by
  obtain ⟨head, others, split, line, block⟩ := lined.head
  refine ⟨rest.takeWhile (·.kind == .newline), trimmed rest, List.takeWhile_append_dropWhile.symm, ?_, ?_⟩
  · intro token member
    exact beq_iff_eq.mp (List.all_eq_true.mp List.all_takeWhile token member)
  · exact .ended last head others lined.last_kind split line block

end Lines

section Line

variable {final : Token} {rest : List Token} {base : Option Cursor} {groups : Groups} {first second : Cursor}

theorem Near.line_kinds (near : Near (lineMode final rest) base groups first second) :
    first.kind ≠ .endOfFile ∧ first.kind ≠ .dedent := by
  refine ⟨near.going, fun dedent => ?_⟩
  cases near.nested (by rw [dedent]; rfl) (by rw [dedent]; decide)

theorem Near.line_ended (kind : final.kind = .endOfFile)
    (near : Near (lineMode final rest) base groups first second) : first.Ended := by
  obtain ⟨body, split, _⟩ := near.rest
  have last := congrArg List.getLast? split
  rw [Cursor.rest, List.getLast?_cons, List.getLast?_concat, Option.some.injEq] at last
  unfold Cursor.Ended
  rw [last, kind]

theorem Gapped.line (gapped : Gapped (lineMode final rest) first second) :
    first.kind = .endOfFile ∧ second.rest = trimmed rest := by
  obtain ⟨_, _, _, _, split, _, ⟨_, _, inside, _⟩ | ⟨kind, _, far⟩, _⟩ := Gap.heads gapped.rest
  · cases inside
  · exact ⟨by rw [Cursor.kind_split split, kind], far⟩

theorem Lagging.line (lagging : Lagging (lineMode final rest) first second) :
    first.kind = .endOfFile ∧ second.skipBlank.rest = trimmed rest := by
  obtain ⟨_, gapped⟩ := lagging.skip
  exact gapped.line

theorem Closed.line (closed : Closed (lineMode final rest) first second) :
    Lagging (lineMode final rest) first second := by
  rcases closed with ⟨nests, _⟩ | ⟨lagging, _⟩
  · cases nests
  · exact lagging

theorem Resumed.line (fits : (lineMode final rest).Fits) (resumed : Resumed (lineMode final rest) first second) :
    (∃ groups, On (lineMode final rest) groups first.skipBlank second.skipBlank ∧
      first.skipBlank.kind ≠ .newline) ∨ second.skipBlank.rest = trimmed rest := by
  rcases resumed with ⟨groups, on⟩ | lagging
  · rcases on.skip fits with ⟨still, stops⟩ | ⟨gapped, _⟩
    · exact .inl ⟨groups, still, stops⟩
    · exact .inr gapped.line.2
  · exact .inr lagging.line.2

variable {depth depthOther : Nat} {middle after : Cursor} {statement other : Stmt}

theorem Rules.Level.agrees {mode : Mode} {inner outer : Rules} (rules : inner.Level mode outer) (fits : mode.Fits)
    (near : Near mode (some first) groups first second) (line : first.kind ≠ .newline)
    (form : statementForm inner first = .ok statement after)
    (ran : Grammar.statement outer second = .ok other middle) :
    other = statement ∧ Closed mode after middle := by
  have together := Parallel.statementForm rules fits near line
  unfold Parallel at together
  rw [form] at together
  rcases statement_ok ran with two | ⟨_, _, two, _⟩
  · rw [two] at together
    exact ⟨together.1.symm, together.2⟩
  · rw [two] at together
    exact together.elim

theorem line_resumes (kind : final.kind = .endOfFile) (fits : (lineMode final rest).Fits)
    (near : Near (lineMode final rest) (some first) groups first second) (line : first.kind ≠ .newline)
    (ran : Grammar.statement (Rules.ofDepth depthOther) second = .ok other middle) :
    ∃ one, Resumed (lineMode final rest) one middle := by
  obtain ⟨going, inside⟩ := near.line_kinds
  have together := Parallel.statementForm (Rules.level_line fits first.ahead.length depthOther) fits near line
  obtain ⟨value, after, recovered, _⟩ := recovers (near.line_ended kind) (Nat.le_refl _) going inside
  rcases statement_ok recovered with one | ⟨_, _, one, _⟩
  · have agreed := (Rules.level_line fits _ depthOther).agrees fits near line one ran
    exact ⟨after, .inr agreed.2.line⟩
  · unfold Parallel at together
    rw [one] at together
    rcases statement_ok ran with two | ⟨_, _, two, _, rfl⟩
    · rw [two] at together
      cases together
    · rw [two] at together
      exact ⟨_, Failed.resumes (fun strict => by cases strict) fits near line going inside together⟩

theorem line_rounds (kind : final.kind = .endOfFile) (fits : (lineMode final rest).Fits) {maxErrors : Int}
    {count : Nat} {statements all : List Stmt}
    (ran : repeatStep (programRound (Rules.ofDepth (depth + 1)) maxErrors) count statements second = .ok all after)
    (few : after.reports.length < maxErrors) (on : On (lineMode final rest) groups first second)
    (line : first.kind ≠ .newline) :
    ∃ piece countLeft next, next.rest = trimmed rest ∧
      repeatStep (programRound (Rules.ofDepth (depth + 1)) maxErrors) countLeft (piece ++ statements) next =
        .ok all after := by
  induction count generalizing groups first second statements with
  | zero => cases ran
  | succ count ih =>
      obtain ⟨going, inside⟩ := on.line_kinds
      rcases rounds_cases ran few with ⟨ended, _⟩ | ⟨_, next, middle, top, others⟩
      · exact absurd (on.same_kind.trans ended) going
      · obtain ⟨statement, one, rfl⟩ := nextAtTop_statement (by rwa [← on.same_kind]) top
        obtain ⟨reached, resumed⟩ := line_resumes kind fits (on.based (some first)) line one
        rcases resumed.line fits with ⟨_, still, stops⟩ | passed
        · obtain ⟨piece, countLeft, next, stands, later⟩ := ih others still stops
          exact ⟨piece ++ [statement], countLeft, next, stands, by simpa using later⟩
        · exact ⟨[statement], count, middle.skipBlank, passed, others⟩

end Line

section Alone

variable {first : Token} {rest : List Token} {limit : Int} {quoted : Option (List String)}

theorem alone_reads (positive : 0 < limit) (ends : EndsOnce (first :: rest)) (line : first.kind ≠ .newline)
    (going : first.kind ≠ .endOfFile) (inside : first.kind ≠ .dedent)
    (quiet : (parse limit quoted (first :: rest)).reports = []) :
    ∃ statement after, statementForm (Rules.ofDepth (rest.length + 1)) (Cursor.start first rest quoted) =
        .ok statement after ∧ Passes (Cursor.start first rest quoted) after ∧
      (after.kind = .endOfFile → (parse limit quoted (first :: rest)).program.statements = [statement]) := by
  have room := ends.room quoted
  obtain ⟨all, last, ran, _⟩ := statements_end limit room
  have silent := reports_of_parse ran quiet
  have few : (last.reports.length : Int) < limit := by rw [silent]; exact positive
  rw [parse_ok ran]
  obtain ⟨begun, items, skipped, rfl, rounds⟩ := statements_ok ran
  have same : begun = Cursor.start first rest quoted := by
    cases skipped
    exact Cursor.skipBlank_stop line
  subst same
  rcases rounds_cases rounds few with ⟨ended, _⟩ | ⟨_, next, middle, top, others⟩
  · exact absurd ended going
  · have outer : (Cursor.start first rest quoted).kind ≠ .dedent := inside
    obtain ⟨statement, one, rfl⟩ := nextAtTop_statement outer top
    obtain ⟨_, _, again, passes, _, refused⟩ :=
      recovers (ends.ended quoted) (Nat.le_succ rest.length) going inside
    obtain ⟨rfl, rfl⟩ := EStateM.Result.ok.inj (one.symm.trans again)
    have onward : Passes middle.skipBlank last :=
      rounds_pass ((Passes.skip _ middle).room (passes.room room)) others
    rcases statement_ok one with form | ⟨_, _, form, _⟩
    · refine ⟨statement, middle, form, passes, fun ended => ?_⟩
      rw [Cursor.skipBlank_stop (by rw [ended]; decide)] at others
      rw [rounds_end ended others]
      rfl
    · have reported := (refused _ _ form).2
      have kept : middle.reports <:+ last.reports := onward.reports
      rw [reported, silent] at kept
      exact absurd (List.suffix_nil.mp kept) (List.cons_ne_nil _ _)

end Alone

section Main

variable {final : Token} {depth count : Nat} {maxErrors : Int} {statements all : List Stmt} {cursor after : Cursor}

theorem line_ends {body : List Token} {token last : Token} (reads : ∀ token ∈ body, token.kind.isRead = true)
    (kind : token.kind = .newline) (ended : last.kind = .endOfFile) : EndsOnce (body ++ [token, last]) := by
  refine ⟨body ++ [token], last, by simp, ended, ?_⟩
  intro other member
  rcases List.mem_append.mp member with inside | here
  · exact (read_kinds (reads other inside)).2
  · rw [List.mem_singleton.mp here, kind]
    decide

theorem line_isolated {head token : Token} {body rest : List Token}
    (kind : token.kind = .newline) (reads : ∀ token ∈ head :: body, token.kind.isRead = true)
    (settled : Settled false Groups.none (head :: body ++ [token])) (lined : Lined final false Groups.none rest)
    (stands : cursor.rest = head :: body ++ token :: rest)
    (ran : repeatStep (programRound (Rules.ofDepth (depth + 1)) maxErrors) count statements cursor = .ok all after)
    (few : after.reports.length < maxErrors) :
    ∃ piece countLeft next, next.rest = trimmed rest ∧
      repeatStep (programRound (Rules.ofDepth (depth + 1)) maxErrors) countLeft (piece.reverse ++ statements) next =
        .ok all after ∧ Isolated final (head :: body, token) piece := by
  have fits := lined.fits
  have ended := lined.last_kind
  obtain ⟨line, _, inside⟩ := read_inside (reads head (by simp))
  have going := (read_kinds (reads head (by simp))).2
  have near (quoted : Option (List String)) :
      let alone := Cursor.start head (body ++ [token, final]) quoted
      Near (lineMode final rest) (some alone) Groups.none alone cursor := by
    refine ⟨⟨head :: body ++ [token], ?_, ?_, settled⟩, .inr ⟨_, rfl, rfl⟩, fun nests => by cases nests⟩
    · simp [Cursor.start, Cursor.rest]
    · rw [stands]
      simp
  have same : cursor.kind = head.kind := Cursor.kind_split stands
  cases count with
  | zero => cases ran
  | succ count =>
      rcases rounds_cases ran few with ⟨last, _⟩ | ⟨_, next, middle, top, others⟩
      · exact absurd (same.symm.trans last) going
      · obtain ⟨statement, one, rfl⟩ := nextAtTop_statement (by rwa [same]) top
        -- What the line gives alone is the first statement it gives here, and then the line is passed.
        have agrees (limit : Int) (quoted : Option (List String)) (positive : 0 < limit)
            (quiet : (parse limit quoted (head :: body ++ [token, final])).reports = []) :
            (parse limit quoted (head :: body ++ [token, final])).program.statements = [statement] ∧
              middle.skipBlank.rest = trimmed rest := by
          obtain ⟨value, alone, form, _, only⟩ :=
            alone_reads positive (line_ends reads kind ended) line going inside quiet
          obtain ⟨rfl, closed⟩ := (Rules.level_line fits _ depth).agrees fits (near quoted) line form one
          exact ⟨only closed.line.line.1, closed.line.line.2⟩
        by_cases passed : middle.skipBlank.rest = trimmed rest
        · refine ⟨[statement], count, middle.skipBlank, passed, others, fun none => absurd none (List.cons_ne_nil _ _), fun _ limit quoted positive quiet => ?_⟩
          exact ⟨statement, (agrees limit quoted positive quiet).1, rfl⟩
        · obtain ⟨_, resumed⟩ := line_resumes ended fits (near none) line one
          obtain ⟨_, still, stops⟩ := (resumed.line fits).resolve_right passed
          obtain ⟨piece, countLeft, next, stands, later⟩ := line_rounds ended fits others few still stops
          refine ⟨statement :: piece.reverse, countLeft, next, stands, by simpa using later, fun none => absurd none (List.cons_ne_nil _ _), ?_⟩
          exact fun _ limit quoted positive quiet => absurd (agrees limit quoted positive quiet).2 passed

theorem line_left {head token : Token} {body : List Token} {quoted : Option (List String)}
    (ended : final.kind = .endOfFile) (kind : token.kind = .newline)
    (reads : ∀ token ∈ head :: body, token.kind.isRead = true)
    (passes : Passes (Cursor.start head (body ++ [token, final]) quoted) cursor) (closed : cursor.LineEnded) :
    cursor.kind = .endOfFile := by
  obtain ⟨passed, split, _, previous⟩ := passes.tokens
  change head :: body ++ [token, final] = passed ++ cursor.rest at split
  have first := read_inside (reads head (by simp))
  have moved (line : cursor.previous.kind = .newline ∨ cursor.previous.kind = .dedent) :
      cursor.kind = .endOfFile := by
    rcases List.eq_nil_or_concat passed with rfl | ⟨before, last, rfl⟩
    · have same : cursor.previous = head := previous
      rw [same] at line
      exact absurd line (not_or.mpr ⟨first.1, first.2.2⟩)
    · have same : cursor.previous = last := by simpa using previous
      rw [same] at line
      have outside (member : last ∈ head :: body) : False := by
        have inner := read_inside (reads last member)
        exact line.elim inner.1 inner.2.2
      rcases List.append_eq_append_iff.mp split with ⟨more, left, right⟩ | ⟨more, left, right⟩
      · cases more with
        | nil => exact (outside (by rw [← List.append_nil (head :: body), ← left]; simp)).elim
        | cons next others =>
            obtain ⟨_, right⟩ := List.cons.inj right
            cases others with
            | nil => rw [Cursor.kind_split right.symm, ended]
            | cons => simp [Cursor.rest] at right
      · exact (outside (by rw [left]; simp)).elim
  rcases closed with last | dedent | line
  · exact last
  · have member : cursor.current ∈ head :: body ++ [token, final] := by
      rw [split]
      simp [Cursor.rest]
    rcases List.mem_append.mp member with inside | outside
    · exact absurd dedent (read_inside (reads _ inside)).2.2
    · simp only [List.mem_cons, List.not_mem_nil, or_false] at outside
      rcases outside with same | same
      · rw [Cursor.kind, same, kind] at dedent
        cases dedent
      · rw [Cursor.kind, same, ended]
  · exact moved line

theorem last_isolated {head token : Token} {body : List Token} (ended : final.kind = .endOfFile)
    (kind : token.kind = .newline) (reads : ∀ token ∈ head :: body, token.kind.isRead = true)
    (stands : cursor.rest = head :: body ++ [token, final])
    (ran : repeatStep (programRound (Rules.ofDepth (depth + 1)) maxErrors) count statements cursor = .ok all after)
    (few : after.reports.length < maxErrors) :
    ∃ piece, all = piece.reverse ++ statements ∧ Isolated final (head :: body, token) piece := by
  obtain ⟨line, _, inside⟩ := read_inside (reads head (by simp))
  have going := (read_kinds (reads head (by simp))).2
  have same : cursor.kind = head.kind := Cursor.kind_split stands
  obtain ⟨later, grown⟩ := repeatStep_grows (programRound_grows maxErrors) _ _ _ _ _ ran
  refine ⟨later.reverse, by simpa using grown.symm, fun none => absurd none (List.cons_ne_nil _ _), fun _ limit quoted positive quiet => ?_⟩
  obtain ⟨value, alone, form, passes, only⟩ :=
    alone_reads positive (line_ends reads kind ended) line going inside quiet
  let first := Cursor.start head (body ++ [token, final]) quoted
  have near : Near (.whole (cursor.reports.map (·.issue))) (some first) Groups.none first cursor :=
    ⟨⟨stands.symm, head :: body ++ [token], final, by simp [first, Cursor.start, Cursor.rest], ended⟩,
      .inr ⟨first, rfl, rfl⟩, fun _ => rfl⟩
  cases count with
  | zero => cases ran
  | succ count =>
      rcases rounds_cases ran few with ⟨last, _⟩ | ⟨_, next, middle, top, others⟩
      · exact absurd (same.symm.trans last) going
      · obtain ⟨statement, one, rfl⟩ := nextAtTop_statement (by rwa [same]) top
        obtain ⟨rfl, closed⟩ := (Rules.level_whole _ _ depth).agrees trivial near line form one
        rcases closed with ⟨_, on, closed⟩ | ⟨⟨⟨_, _, _, _, gaps⟩, _⟩, _⟩
        · have last := line_left ended kind reads passes closed
          have also : middle.kind = .endOfFile := by rw [← on.same_kind, last]
          rw [Cursor.skipBlank_stop (by rw [also]; decide)] at others
          rw [rounds_end also others] at grown
          have one : later = [statement] := List.append_cancel_right grown
          exact ⟨statement, only last, by rw [one]; rfl⟩
        · exact gaps.elim

theorem lines_from {tokens : List Token} (lined : Lined final false Groups.none tokens)
    (stands : cursor.rest = trimmed tokens)
    (ran : repeatStep (programRound (Rules.ofDepth (depth + 1)) maxErrors) count statements cursor = .ok all after)
    (few : after.reports.length < maxErrors) :
    ∃ pieces : List (List Stmt), all = pieces.flatten.reverse ++ statements ∧
      List.Forall₂ (Isolated final) (logicalLines tokens) pieces := by
  obtain ⟨size, length⟩ : ∃ size, tokens.length = size := ⟨_, rfl⟩
  induction size using Nat.strongRecOn generalizing tokens cursor count statements with | _ size ih => ?_
  cases lined with
  | ended kind =>
      have same : trimmed [final] = [final] := by simp [trimmed, kind]
      have last : cursor.kind = .endOfFile := by rw [Cursor.kind_split (stands.trans same), kind]
      refine ⟨[], rounds_end last ran, ?_⟩
      have none : logicalLines [final] = [] := by simp [logicalLines, linesFrom, kind]
      rw [none]
      exact .nil
  | line _ token rest kind _ later =>
      have same : trimmed (token :: rest) = trimmed rest := by simp [trimmed, kind]
      have shorter : rest.length < size := by rw [← length]; exact Nat.lt_succ_self _
      obtain ⟨pieces, split, isolated⟩ := ih rest.length shorter later (stands.trans same) ran rfl
      refine ⟨[] :: pieces, split, ?_⟩
      have first : logicalLines (token :: rest) = ([], token) :: logicalLines rest :=
        linesFrom_body [] [] token rest (by simp) kind
      rw [first]
      exact .cons ⟨fun _ => rfl, fun some => absurd rfl some⟩ isolated
  | token _ _ head others read word later =>
      obtain ⟨body, token, rest, rfl, kind, inner, follows⟩ := later.split rfl
      have reads : ∀ token ∈ head :: body, token.kind.isRead = true := List.forall_mem_cons.mpr ⟨read, inner⟩
      have same : trimmed (head :: (body ++ token :: rest)) = head :: body ++ token :: rest := by
        simp [trimmed, (read_inside read).1]
      have first : logicalLines (head :: (body ++ token :: rest)) = (head :: body, token) :: logicalLines rest :=
        linesFrom_body [] (head :: body) token rest (fun other member => (read_inside (reads other member)).1) kind
      rw [first]
      rcases follows with ⟨settled, more⟩ | ⟨rfl, last⟩
      · have whole : Settled false Groups.none (head :: body ++ [token]) := .read read word settled
        obtain ⟨piece, countLeft, next, reached, left, isolated⟩ :=
          line_isolated kind reads whole more (stands.trans same) ran few
        have shorter : rest.length < size := by
          rw [← length]
          simp only [List.length_cons, List.length_append]
          omega
        obtain ⟨pieces, split, others⟩ := ih rest.length shorter more reached left rfl
        exact ⟨piece :: pieces, by simpa using split, .cons isolated others⟩
      · obtain ⟨piece, split, isolated⟩ := last_isolated last kind reads (stands.trans same) ran few
        refine ⟨[piece], by simpa using split, ?_⟩
        have none : logicalLines [final] = [] := by simp [logicalLines, linesFrom, last]
        rw [none]
        exact .cons isolated .nil

end Main

section Scanned

open Token (openGroups openGroups_concat Scan)

def withinLine (tokens : List Token) : Bool := tokens.getLast?.any fun token => !token.kind.isLayout

theorem withinLine_layout (before : List Token) {token : Token} (layout : token.kind.isLayout = true) :
    withinLine (before ++ [token]) = false := by
  simp [withinLine, layout]

theorem flat_layout {kind : TokenKind} (layout : kind.isLayout = true) (flat : kind ≠ .indent ∧ kind ≠ .dedent) :
    kind = .newline := by
  cases kind <;> first | rfl | exact absurd rfl flat.1 | exact absurd rfl flat.2 | cases layout

theorem closing_lined {scan : Scan} (laid : scan.Laid) (flat : ∀ token ∈ scan.closing, token.kind ≠ .dedent) :
    Lined scan.ending (withinLine scan.tokens.reverse) (openGroups scan.tokens.reverse)
      (scan.closing ++ [scan.ending]) := by
  have none : scan.indents.length - 1 = 0 := by
    by_contra some
    exact flat ⟨.dedent, .none, "", ⟨scan.place, scan.place⟩⟩
      (List.mem_append_right _ (List.mem_replicate.mpr ⟨some, rfl⟩)) rfl
  have within : withinLine scan.tokens.reverse = scan.lineOpen := by
    rw [withinLine, List.getLast?_reverse]
    rfl
  rw [within, Scan.closing, none]
  cases lineOpen : scan.lineOpen with
  | true => exact .final _ _ rfl rfl
  | false =>
      have outside : openGroups scan.tokens.reverse = Groups.none := by
        unfold Scan.Laid at laid
        unfold Scan.lineOpen at lineOpen
        cases tokens : scan.tokens with
        | nil => rfl
        | cons token earlier =>
            rw [tokens] at laid lineOpen
            have layout : token.kind.isLayout = true := by simpa using lineOpen
            rw [List.reverse_cons, openGroups_concat, Groups.after_layout _ _ _ layout]
            exact Groups.none_of_depth (laid.outside token earlier layout)
      rw [outside]
      exact .ended rfl

variable {tabWidth : Nat} {currencies : List String} {file : Option String} {source : String}
  {stream : Token.Stream}

theorem scanned_lined (scanned : Token.scan tabWidth currencies file source = .ok stream)
    (flat : ∀ token ∈ stream.tokens, token.kind ≠ .indent ∧ token.kind ≠ .dedent) :
    ∃ last, stream.tokens.getLast? = some last ∧ Lined last false Groups.none stream.tokens := by
  obtain ⟨ended, ran, _, laid, _, tokens⟩ := Token.scan_cases tabWidth currencies file source stream scanned
  have worded := Scan.rounds_worded _ file source _ ended ran
  have within (before later : List Token) (split : ended.tokens.reverse = before ++ later) :
      Lined ended.ending (withinLine before) (openGroups before) (later ++ ended.closing ++ [ended.ending]) := by
    induction later generalizing before with
    | nil =>
        rw [List.append_nil] at split
        rw [← split]
        exact closing_lined laid fun token member => (flat token (by simp [tokens, member])).2
    | cons token later ih =>
        have member : token ∈ ended.tokens := by
          rw [← List.mem_reverse, split]
          simp
        have rest := ih (before ++ [token]) (by rw [split]; simp)
        rw [openGroups_concat] at rest
        by_cases layout : token.kind.isLayout = true
        · have line := flat_layout layout (flat token (by simp [tokens, member]))
          have outside := Groups.none_of_depth (laid.outside_within before token later split layout)
          rw [Groups.after_layout _ _ _ layout, withinLine_layout before layout, outside] at rest
          rw [outside]
          refine .line _ token _ line ?_ rest
          refine Bool.eq_false_iff.mpr fun named => ?_
          rw [(worded token member named).1] at layout
          cases layout
        · have read : token.kind.isRead = true := by
            simpa [TokenKind.isRead, layout] using laid.goes_on token member
          have started : withinLine (before ++ [token]) = true := by simpa [withinLine] using layout
          rw [started] at rest
          exact .token _ _ token _ read (fun named => (worded token member named).2) rest
  refine ⟨ended.ending, by rw [tokens]; simp, ?_⟩
  have all := within [] ended.tokens.reverse rfl
  rw [tokens]
  exact all

end Scanned

theorem lines_isolated (tabWidth : Nat) (currencies : List String) (file : Option String) (source : String)
    (stream : Token.Stream) (scanned : Token.scan tabWidth currencies file source = .ok stream)
    (flat : ∀ token ∈ stream.tokens, token.kind ≠ .indent ∧ token.kind ≠ .dedent)
    (maxErrors : Int) (quoted : Option (List String))
    (few : (parse maxErrors quoted stream.tokens).reports.length < maxErrors) :
    ∃ last pieces, stream.tokens.getLast? = some last ∧
      (parse maxErrors quoted stream.tokens).program.statements = pieces.flatten ∧
      List.Forall₂ (Isolated last) (logicalLines stream.tokens) pieces := by
  obtain ⟨last, final, lined⟩ := scanned_lined scanned flat
  have ends := scanned_ends scanned
  obtain ⟨first, rest, tokens⟩ := ends.cons
  rw [tokens] at ends lined few final ⊢
  obtain ⟨statements, cursor, ran, _⟩ := statements_end maxErrors (ends.room quoted)
  rw [parse_ok ran] at few ⊢
  obtain ⟨begun, all, skipped, rfl, rounds⟩ := statements_ok ran
  obtain ⟨head, others, split, line, _⟩ := lined.head
  cases skipped
  have stands : (Cursor.start first rest quoted).skipBlank.rest = trimmed (first :: rest) :=
    skipBlank_trims split line
  have below : (cursor.reports.length : Int) < maxErrors := by simpa using few
  obtain ⟨pieces, joined, isolated⟩ := lines_from lined stands rounds below
  exact ⟨last, pieces, final, by simp [joined], isolated⟩

theorem bad_lines_isolated :
    let source := "PRINT 1\nLET = 2 PRINT 3\n\nIF x\nPRINT 4\nLET y = (5"
    ∃ stream last pieces, Token.scan 4 [] none source = .ok stream ∧
      (parse 20 none stream.tokens).reports.length = 3 ∧ stream.tokens.getLast? = some last ∧
      (parse 20 none stream.tokens).program.statements = pieces.flatten ∧
      List.Forall₂ (Isolated last) (logicalLines stream.tokens) pieces := by
  intro source
  obtain ⟨stream, scanned, facts⟩ := Token.scanned_such (Token.scan 4 [] none source)
    (fun stream => (stream.tokens.all fun token => token.kind != .indent && token.kind != .dedent) &&
      (parse 20 none stream.tokens).reports.length == 3) (by decide +kernel)
  simp only [Bool.and_eq_true, beq_iff_eq, List.all_eq_true, bne_iff_ne] at facts
  obtain ⟨last, pieces, ends, split, isolated⟩ := lines_isolated 4 [] none source stream scanned facts.1 20 none
    (by rw [facts.2]; decide)
  exact ⟨stream, last, pieces, scanned, facts.2, ends, split, isolated⟩

end Fiscal.Grammar
