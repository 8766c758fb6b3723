import Fiscal.Proofs.Grammar.Blocks
import Fiscal.Proofs.Grammar.Walk

set_option autoImplicit false

namespace Fiscal.Grammar

open Source

section Blocks

def Cursor.indentCount (cursor : Cursor) : Nat := cursor.indents.length

theorem Passes.indentCount_le {first last : Cursor} (passes : Passes first last) :
    last.indentCount ≤ first.indentCount :=
  passes.indents.length_le

theorem advance_reports (cursor : Cursor) : cursor.advance.reports = cursor.reports := by
  unfold Cursor.advance
  split
  · rfl
  · split <;> rfl

def Quiet (first last : Cursor) : Prop :=
  first.Ended → Passes first last ∧ (last.reports = first.reports ∨ last.indentCount < first.indentCount)

instance : Walk Quiet where
  refl cursor _ := ⟨.refl cursor, .inl rfl⟩
  trans before after ended := by
    obtain ⟨early, same⟩ := before ended
    obtain ⟨late, sameLater⟩ := after (early.ended ended)
    refine ⟨early.trans late, ?_⟩
    rcases same with same | entered
    · rcases sameLater with sameLater | entered
      · exact .inl (sameLater.trans same)
      · exact .inr (Nat.lt_of_lt_of_le entered early.indentCount_le)
    · exact .inr (Nat.lt_of_le_of_lt late.indentCount_le entered)
  advance cursor _ := ⟨.advance cursor, .inl (advance_reports cursor)⟩
  skip goOn cursor _ := ⟨.skip goOn cursor, .inl rfl⟩

theorem indent_passed {cursor : Cursor} (ended : cursor.Ended) (indent : cursor.kind = .indent) :
    cursor.advance.indentCount < cursor.indentCount := by
  rw [Cursor.indentCount, Cursor.indentCount, Cursor.indents_advance ended indent]
  exact Nat.lt_succ_self _

theorem reached_expect {α : Type} (kind : TokenKind) (expected : String) (next : Token → Reading α) (cursor : Cursor) :
    reached ((expect kind expected >>= next) cursor) =
      if cursor.kind = kind then reached (next cursor.current cursor.advance) else cursor := by
  change reached (EStateM.bind (expect kind expected) next cursor) = _
  have run : expect kind expected cursor =
      (if (cursor.kind == kind) = true then advance else unexpected expected) cursor := rfl
  unfold EStateM.bind
  rw [run]
  by_cases found : cursor.kind = kind
  · rw [if_pos (beq_iff_eq.mpr found), if_pos found]
    rfl
  · rw [if_neg (mt beq_iff_eq.mp found), if_neg found]
    rfl

theorem quiet_block {inner : Rules} (statement : Goes Passes inner.statement) : Goes Quiet (block inner) := by
  refine Goes.skipNewlines.bind fun _ cursor => ?_
  change Quiet cursor (reached ((expect .indent "indented block" >>= blockBody inner) cursor))
  rw [reached_expect]
  intro ended
  by_cases indent : cursor.kind = .indent
  · rw [if_pos indent]
    have body := Goes.blockBody statement cursor.current cursor.advance
    exact ⟨(Passes.advance cursor).trans body, .inr (Nat.lt_of_le_of_lt body.indentCount_le (indent_passed ended indent))⟩
  · rw [if_neg indent]
    exact ⟨.refl cursor, .inl rfl⟩

theorem Rules.quiet_form (depth : Nat) : Grammar.Goes Quiet (statementForm (ofDepth depth)) :=
  .statementForm (.expression (ofDepth_goes Quiet depth)) (quiet_block (statement_passes depth))

end Blocks

section Rounds

def Sparing (first last : Cursor) : Prop :=
  Passes first last ∧ (last.reports.length ≤ first.reports.length + 1 ∨ last.indentCount < first.indentCount)

theorem sparing_statement (depth : Nat) {cursor : Cursor} (ended : cursor.Ended) :
    Sparing cursor (reached ((Rules.ofDepth depth).statement cursor)) := by
  cases depth with
  | zero => exact ⟨.refl cursor, .inl (Nat.le_succ _)⟩
  | succ depth =>
      obtain ⟨passes, quiet⟩ := Rules.quiet_form depth cursor ended
      change Sparing cursor (reached (statement (Rules.ofDepth depth) cursor))
      rcases reached_statement (Rules.ofDepth depth) cursor with same | ⟨diagnostic, resumed⟩
      · rw [same]
        exact ⟨passes, quiet.imp_left fun same => by rw [same]; exact Nat.le_succ _⟩
      · rw [resumed]
        have onward : Passes _ (cursor.recovered _ diagnostic) :=
          (Passes.report (.refl (reached (statementForm (Rules.ofDepth depth) cursor))) diagnostic).trans
            (.resume cursor.ahead.length _)
        refine ⟨passes.recovered diagnostic, ?_⟩
        rcases quiet with same | entered
        · refine .inl (Nat.le_of_eq ?_)
          rw [Cursor.recovered, resume_reports, ← same]
          rfl
        · exact .inr (Nat.lt_of_le_of_lt onward.indentCount_le entered)

theorem nextAtTop_sparing {depth : Nat} {statements next : List Stmt} {cursor middle : Cursor} (ended : cursor.Ended)
    (ran : nextAtTop (Rules.ofDepth depth) statements cursor = .ok next middle) : Sparing cursor middle := by
  obtain ⟨_, _, here, one⟩ := bind_ok ran
  cases here
  split at one
  · obtain ⟨_, _, stray, same⟩ := bind_ok one
    cases same
    cases stray
    refine ⟨(Passes.advance cursor).report _, .inl (Nat.le_of_eq ?_)⟩
    rw [List.length_cons, advance_reports]
  · obtain ⟨statement, _, read, same⟩ := bind_ok one
    cases same
    have sparing := sparing_statement depth ended
    rw [read] at sparing
    exact sparing

-- A round of a reading at the top: the tokens it passes and what it reports.
structure Round where
  passed : List Token
  reports : List Diagnostic

inductive Rounds (rules : Rules) : Cursor → List Round → Prop where
  | none (cursor : Cursor) (ended : cursor.atEnd = true) : Rounds rules cursor []
  | next (cursor middle after : Cursor) (round : Round) (rounds : List Round) (statements : List Stmt)
      (going : cursor.atEnd = false) (read : nextAtTop rules [] cursor = .ok statements middle)
      (passed : cursor.rest = round.passed ++ middle.rest)
      (reported : middle.reports = round.reports.reverse ++ cursor.reports)
      (skipped : skipNewlines middle = .ok () after) (others : Rounds rules after rounds) :
      Rounds rules cursor (round :: rounds)

-- The reports of the first rounds, up to the one that comes to a limit.
def reportedUpTo (limit : Int) : List Round → List Diagnostic
  | [] => []
  | round :: rounds =>
      round.reports ++ if limit ≤ round.reports.length then [] else reportedUpTo (limit - round.reports.length) rounds

theorem nextAtTop_from {rules : Rules} {statements next : List Stmt} {cursor middle : Cursor}
    (ran : nextAtTop rules statements cursor = .ok next middle) :
    ∃ fresh, nextAtTop rules [] cursor = .ok fresh middle := by
  have apart : nextAtTop rules statements = nextAtTop rules [] >>= fun fresh => pure (fresh ++ statements) := by
    unfold nextAtTop
    rw [bind_assoc]
    refine congrArg _ (funext fun stray => ?_)
    cases stray with
    | true => rfl
    | false => simp only [Bool.false_eq_true, if_false, bind_assoc, pure_bind, List.singleton_append]
  rw [apart] at ran
  obtain ⟨fresh, _, read, same⟩ := bind_ok ran
  cases same
  exact ⟨fresh, read⟩

theorem rounds_exist {depth : Nat} (cursor : Cursor) (room : Room depth cursor) :
    ∃ rounds, Rounds (Rules.ofDepth depth) cursor rounds := by
  induction length : cursor.ahead.length using Nat.strongRecOn generalizing cursor with
  | ind length ih =>
      by_cases ended : cursor.atEnd = true
      · exact ⟨[], .none cursor ended⟩
      · have going : cursor.kind ≠ .endOfFile := by simpa [Cursor.atEnd] using ended
        have leads := Reads.nextAtTop (Rules.sound depth) [] going room
        cases read : nextAtTop (Rules.ofDepth depth) [] cursor with
        | error halt after =>
            rw [read] at leads
            cases halt with
            | unfinished => exact leads.elim
            | refused diagnostic => exact absurd read (Tolerant.nextAtTop (.ofDepth depth) [] cursor diagnostic after)
        | ok statements middle =>
            rw [read] at leads
            obtain ⟨passes, shorter, _⟩ := leads
            have skip := Passes.skip (fun _ current => current.kind == .newline) middle
            obtain ⟨rounds, others⟩ := ih _ (by
              have onward := skip.length_le
              have taken := shorter trivial
              unfold Shorter at taken
              omega) _ ((passes.trans skip).room room) rfl
            obtain ⟨passed, split, _⟩ := passes.tokens
            obtain ⟨fresh, reported⟩ := passes.reports
            refine ⟨⟨passed, fresh.reverse⟩ :: rounds, .next cursor middle _ _ _ statements ?_ read split ?_ rfl others⟩
            · simpa using ended
            · rw [List.reverse_reverse, reported]

theorem rounds_sparing {depth : Nat} {cursor : Cursor} {rounds : List Round} (ended : cursor.Ended)
    (leads : Rounds (Rules.ofDepth depth) cursor rounds) :
    ∀ round ∈ rounds, round.reports.length ≤ 1 ∨ ∃ token ∈ round.passed, token.kind = .indent := by
  induction leads with
  | none => exact List.forall_mem_nil _
  | next cursor middle after round rounds statements going read passed reported skipped others ih =>
      obtain ⟨passes, few⟩ := nextAtTop_sparing ended read
      refine List.forall_mem_cons.mpr ⟨?_, ih ?_⟩
      · rcases few with few | entered
        · rw [reported, List.length_append, List.length_reverse] at few
          exact .inl (by omega)
        · have more : (Token.indentStarts middle.rest).length < (Token.indentStarts cursor.rest).length := entered
          rw [passed, Token.indentStarts_append, List.length_append] at more
          have some : (Token.indentStarts round.passed).length ≠ 0 := by omega
          obtain ⟨start, begun⟩ := List.exists_mem_of_length_pos (Nat.pos_of_ne_zero some)
          obtain ⟨token, member, _⟩ := List.mem_map.mp begun
          exact .inr ⟨token, (List.mem_filter.mp member).1, beq_iff_eq.mp (List.mem_filter.mp member).2⟩
      · cases skipped
        exact (passes.trans (.skip _ middle)).ended ended

theorem rounds_passed {rules : Rules} {cursor : Cursor} {rounds : List Round} (leads : Rounds rules cursor rounds) :
    ∀ round ∈ rounds, ∀ token ∈ round.passed, token ∈ cursor.rest := by
  induction leads with
  | none => exact List.forall_mem_nil _
  | next cursor middle after round rounds statements going read passed reported skipped others ih =>
      rw [passed]
      refine List.forall_mem_cons.mpr ⟨fun token => List.mem_append_left _, fun later among token member => ?_⟩
      cases skipped
      obtain ⟨blank, split, _⟩ := (Passes.skip (fun _ current => current.kind == .newline) middle).tokens
      rw [split]
      exact List.mem_append_right _ (List.mem_append_right _ (ih later among token member))

theorem reports_upTo {rules : Rules} {cursor after : Cursor} {rounds : List Round} (leads : Rounds rules cursor rounds)
    {maxErrors : Int} {count : Nat} {statements last : List Stmt}
    (ran : repeatStep (programRound rules maxErrors) count statements cursor = .ok last after) :
    after.reports = (reportedUpTo (maxErrors - cursor.reports.length) rounds).reverse ++ cursor.reports := by
  induction leads generalizing count statements with
  | none cursor ended =>
      cases count with
      | zero => cases ran
      | succ count =>
          obtain ⟨_, _, one, others⟩ := bind_ok ran
          rcases programRound_cases one with ⟨_, rfl, rfl⟩ | ⟨going, _⟩
          · cases others
            rfl
          · rw [ended] at going
            cases going
  | next cursor middle later round rounds _ going read passed reported skipped _ ih =>
      have lengths := congrArg List.length reported
      rw [List.length_append, List.length_reverse] at lengths
      cases count with
      | zero => cases ran
      | succ count =>
          obtain ⟨_, _, one, others⟩ := bind_ok ran
          rcases programRound_cases one with ⟨ended, _⟩ | ⟨_, next, reachedTop, top, stop⟩
          · rw [ended] at going
            cases going
          · obtain ⟨fresh, same⟩ := nextAtTop_from top
            cases read.symm.trans same
            rcases stop with ⟨limit, rfl, rfl⟩ | ⟨below, rfl, onward⟩
            · cases others
              rw [reportedUpTo, if_pos (by omega), List.append_nil, reported]
            · cases skipped.symm.trans onward
              have reports : later.reports = middle.reports := by
                cases skipped
                rfl
              have left : maxErrors - (middle.reports.length : Int) =
                  maxErrors - cursor.reports.length - round.reports.length := by omega
              rw [ih others, reports, left, reportedUpTo, if_neg (by omega), List.reverse_append, List.append_assoc,
                ← reported]

section Limit

theorem lt_reportedUpTo_iff (rounds : List Round) (limit : Int) (positive : 1 ≤ limit) :
    limit < (reportedUpTo limit rounds).length ↔
      ∃ earlier round later, rounds = earlier ++ round :: later ∧ (earlier.flatMap Round.reports).length < limit ∧
        limit < (earlier.flatMap Round.reports).length + round.reports.length := by
  induction rounds generalizing limit with
  | nil =>
      refine iff_of_false (by simp only [reportedUpTo, List.length_nil]; omega) ?_
      rintro ⟨earlier, round, later, split, _⟩
      exact List.append_ne_nil_of_right_ne_nil earlier (List.cons_ne_nil round later) split.symm
  | cons first rounds ih =>
      rw [reportedUpTo, List.length_append]
      by_cases reached : limit ≤ first.reports.length
      · rw [if_pos reached]
        constructor
        · intro beyond
          exact ⟨[], first, rounds, rfl, Int.lt_of_lt_of_le Int.zero_lt_one positive, by simpa using beyond⟩
        · rintro ⟨earlier, round, later, split, before, beyond⟩
          cases earlier with
          | nil =>
              cases split
              simpa using beyond
          | cons _ earlier =>
              cases split
              rw [List.flatMap_cons, List.length_append] at before
              omega
      · rw [if_neg reached]
        have others := ih (limit - first.reports.length) (by omega)
        constructor
        · intro beyond
          obtain ⟨earlier, round, later, rfl, before, beyond⟩ := others.mp (by omega)
          refine ⟨first :: earlier, round, later, rfl, ?_, ?_⟩
          · rw [List.flatMap_cons, List.length_append]
            omega
          · rw [List.flatMap_cons, List.length_append]
            omega
        · rintro ⟨earlier, round, later, split, before, beyond⟩
          cases earlier with
          | nil =>
              cases split
              rw [List.flatMap_nil, List.length_nil] at beyond
              omega
          | cons _ earlier =>
              cases split
              rw [List.flatMap_cons, List.length_append] at before beyond
              have := others.mpr ⟨earlier, round, later, rfl, by omega, by omega⟩
              omega

-- The rounds in which a list of tokens is read at the top, if no limit stops the reading.
def RoundsOf (lines : Option (List String)) : List Token → List Round → Prop
  | [], _ => False
  | first :: rest, rounds =>
      ∃ begun, skipNewlines (Cursor.start first rest lines) = .ok () begun ∧
        Rounds (Rules.ofDepth (rest.length + 2)) begun rounds

-- With a limit the parse reports what its first rounds report, up to the round that comes to the limit. So it goes
-- beyond the limit just if that round does, and a round that reports more than one error has entered an indented block.
theorem reports_of_limited_parse (lines : Option (List String)) (tokens : List Token)
    (ends : tokens.getLast?.map Token.kind = some .endOfFile) :
    ∃ rounds, RoundsOf lines tokens rounds ∧
      (∀ round ∈ rounds, round.reports.length ≤ 1 ∨ ∃ token ∈ round.passed, token.kind = .indent) ∧
      (∀ maxErrors, (parse maxErrors lines tokens).reports = reportedUpTo maxErrors rounds) ∧
      (∀ maxErrors : Int, 1 ≤ maxErrors →
        (maxErrors < (parse maxErrors lines tokens).reports.length ↔
          ∃ earlier round later, rounds = earlier ++ round :: later ∧
            (earlier.flatMap Round.reports).length < maxErrors ∧
            maxErrors < (earlier.flatMap Round.reports).length + round.reports.length)) ∧
      ((∀ token ∈ tokens, token.kind ≠ .indent) → ∀ maxErrors : Int, 1 ≤ maxErrors →
        (parse maxErrors lines tokens).reports.length ≤ maxErrors) := by
  cases tokens with
  | nil => cases ends
  | cons first rest =>
      have ended : (Cursor.start first rest lines).Ended := by
        rw [List.getLast?_cons] at ends
        exact Option.some.inj ends
      have room : Room (rest.length + 2) (Cursor.start first rest lines) := ⟨ended, by simp [Cursor.start]⟩
      have passes := Passes.skip (fun _ current => current.kind == .newline) (Cursor.start first rest lines)
      obtain ⟨rounds, leads⟩ := rounds_exist _ (passes.room room)
      have sparing := rounds_sparing (passes.ended ended) leads
      have reports (maxErrors : Int) :
          (parse maxErrors lines (first :: rest)).reports = reportedUpTo maxErrors rounds := by
        obtain ⟨statements, cursor, ran, _⟩ := statements_end maxErrors room
        obtain ⟨begun, last, skipped, _, repeated⟩ := statements_ok ran
        cases skipped
        have all := reports_upTo leads repeated
        rw [parse_ok ran]
        simp [all, Cursor.skip, Cursor.start]
      have beyond (maxErrors : Int) (positive : 1 ≤ maxErrors) := lt_reportedUpTo_iff rounds maxErrors positive
      refine ⟨rounds, ⟨_, rfl, leads⟩, sparing, reports, fun maxErrors positive => ?_,
        fun flat maxErrors positive => ?_⟩
      · rw [reports]
        exact beyond maxErrors positive
      · rw [reports]
        refine Int.not_lt.mp fun more => ?_
        obtain ⟨earlier, round, later, split, before, after⟩ := (beyond maxErrors positive).mp more
        have member : round ∈ rounds := split ▸ List.mem_append_right _ List.mem_cons_self
        rcases sparing round member with few | ⟨token, within, indent⟩
        · omega
        · obtain ⟨passed, whole, _⟩ := passes.tokens
          have among : token ∈ (Cursor.start first rest lines).rest :=
            whole ▸ List.mem_append_right _ (rounds_passed leads round member token within)
          exact flat token among indent

theorem block_beyond_limit :
    let source := "IF true THEN\n    LET = 1\n    LET = 2\nEND"
    ∃ stream, Token.scan 4 [] none source = .ok stream ∧ (parse 1 none stream.tokens).reports.length = 2 ∧
      ∃ rounds, RoundsOf none stream.tokens rounds ∧
        ∃ round ∈ rounds, 1 < round.reports.length ∧ ∃ token ∈ round.passed, token.kind = .indent := by
  intro source
  obtain ⟨stream, scanned, facts⟩ := Token.scanned_such (Token.scan 4 [] none source)
    (fun stream => (parse 1 none stream.tokens).reports.length == 2 &&
      stream.tokens.getLast?.map Token.kind == some .endOfFile) (by decide +kernel)
  simp only [Bool.and_eq_true, beq_iff_eq] at facts
  obtain ⟨two, ends⟩ := facts
  obtain ⟨rounds, read, sparing, _, beyond, _⟩ := reports_of_limited_parse none stream.tokens ends
  obtain ⟨earlier, round, later, split, before, more⟩ := (beyond 1 (by decide)).mp (by rw [two]; decide)
  have member : round ∈ rounds := split ▸ List.mem_append_right _ List.mem_cons_self
  have several : 1 < round.reports.length := by omega
  have entered := (sparing round member).resolve_left (by omega)
  exact ⟨stream, scanned, two, rounds, read, round, member, several, entered⟩

end Limit

end Rounds

end Fiscal.Grammar
