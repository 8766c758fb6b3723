import Fiscal.Proofs.Grammar.ParallelRecovery

set_option autoImplicit false

namespace Fiscal.Grammar

open Token (Groups)

section Accumulating

variable {rules : Rules} {maxErrors : Int}

def extended (earlier : List Stmt) : EStateM.Result Halt Cursor (List Stmt) → EStateM.Result Halt Cursor (List Stmt)
  | .ok statements after => .ok (statements ++ earlier) after
  | .error halt after => .error halt after

theorem nextAtTop_extended (earlier : List Stmt) (cursor : Cursor) :
    nextAtTop rules earlier cursor = extended earlier (nextAtTop rules [] cursor) := by
  by_cases dedent : cursor.kind = .dedent
  · have stray (statements : List Stmt) : nextAtTop rules statements cursor =
        (strayDedent >>= fun _ => pure statements) cursor := at?_found dedent
    rw [stray, stray]
    rfl
  · have read (statements : List Stmt) : nextAtTop rules statements cursor =
        (rules.statement >>= fun statement => pure (statement :: statements)) cursor := at?_missing dedent
    rw [read, read]
    change EStateM.bind _ _ cursor = extended earlier (EStateM.bind _ _ cursor)
    unfold EStateM.bind
    cases rules.statement cursor with
    | ok => rfl
    | error => rfl

theorem extended_extended (earlier later : List Stmt) (result : EStateM.Result Halt Cursor (List Stmt)) :
    extended earlier (extended later result) = extended (later ++ earlier) result := by
  cases result with
  | ok statements after => simp [extended]
  | error => rfl

def extendedRound (earlier : List Stmt) :
    EStateM.Result Halt Cursor (List Stmt × Bool) → EStateM.Result Halt Cursor (List Stmt × Bool)
  | .ok last after => .ok (last.1 ++ earlier, last.2) after
  | .error halt after => .error halt after

theorem programRound_extended (earlier : List Stmt) (cursor : Cursor) :
    programRound rules maxErrors earlier cursor =
      extendedRound earlier (programRound rules maxErrors [] cursor) := by
  change (if cursor.atEnd = true then _ else _ : Reading _) cursor =
    extendedRound earlier ((if cursor.atEnd = true then _ else _ : Reading _) cursor)
  split
  · rfl
  · change EStateM.bind _ _ cursor = extendedRound earlier (EStateM.bind _ _ cursor)
    unfold EStateM.bind
    rw [nextAtTop_extended]
    cases nextAtTop rules [] cursor with
    | error => rfl
    | ok next middle =>
        change (if maxErrors ≤ middle.reports.length then _ else _ : Reading _) middle =
          extendedRound earlier ((if maxErrors ≤ middle.reports.length then _ else _ : Reading _) middle)
        split <;> rfl

theorem rounds_extended (count : Nat) (earlier : List Stmt) (cursor : Cursor) :
    repeatStep (programRound rules maxErrors) count earlier cursor =
      extended earlier (repeatStep (programRound rules maxErrors) count [] cursor) := by
  induction count generalizing earlier cursor with
  | zero => rfl
  | succ count ih =>
      change EStateM.bind _ _ cursor = extended earlier (EStateM.bind _ _ cursor)
      unfold EStateM.bind
      rw [programRound_extended]
      cases programRound rules maxErrors [] cursor with
      | error => rfl
      | ok last after =>
          obtain ⟨next, more⟩ := last
          cases more with
          | false => rfl
          | true =>
              change repeatStep _ count (next ++ earlier) after = extended earlier (repeatStep _ count next after)
              rw [ih (next ++ earlier), ih next, extended_extended]

end Accumulating

namespace Parallel

variable {first second : Cursor} {base : Option Cursor} {maxErrors : Int} {depth depthOther : Nat}

theorem strayDedent {start : Option Cursor} (near : Near (.whole []) start Groups.none first second)
    (dedent : first.kind = .dedent) :
    Keeps (.whole []) base Groups.none first second strayDedent Grammar.strayDedent := by
  have after := near.advance (by rw [dedent]; decide) (by rw [dedent]; decide)
  have issues := after.reports trivial
  refine ⟨rfl, after.rest, after.previous, fun _ => ?_⟩
  unfold sameIssues at issues ⊢
  exact congrArg (List.cons _) issues

theorem nextAtTop (near : Near (.whole []) (some first) Groups.none first second) (line : first.kind ≠ .newline)
    (going : first.kind ≠ .endOfFile) (statements : List Stmt) :
    Keeps (.whole []) base Groups.none first second (nextAtTop (Rules.ofDepth (depth + 1)) statements)
      (Grammar.nextAtTop (Rules.ofDepth (depthOther + 1)) statements) := by
  refine .at? near.same_kind _ (.both (fun dedent => ?_) fun inside => ?_)
  · exact (strayDedent near (by simpa using dedent)).bind fun _ _ _ on => .pure _ on
  · refine (statement (Rules.level_whole [] depth depthOther) near line going (by simpa using inside)).bind ?_
    exact fun _ _ _ on => .pure _ on

def Standing (first second : Cursor) : Prop :=
  Near (.whole []) (some first) Groups.none first second ∧ first.kind ≠ .newline

theorem programRound (standing : Standing first second) (statements : List Stmt) :
    Parallel (.whole []) base (fun last one two =>
        if last.2 = true then Standing one two else sameIssues (.whole []) one two) first second
      (programRound (Rules.ofDepth (depth + 1)) maxErrors statements)
      (Grammar.programRound (Rules.ofDepth (depthOther + 1)) maxErrors statements) := by
  obtain ⟨near, line⟩ := standing
  refine .get ?_
  have ended : second.atEnd = first.atEnd := by rw [Cursor.atEnd, Cursor.atEnd, near.same_kind]
  rw [ended]
  refine .both (fun _ => .pure _ (near.reports trivial)) fun going => ?_
  have onward : first.kind ≠ .endOfFile := by simpa [Cursor.atEnd] using going
  refine (nextAtTop near line onward statements).bind fun _ one two on => .get ?_
  have issues := on.reports trivial
  have same : two.reports.length = one.reports.length := by
    simpa [sameIssues, Mode.earlier] using congrArg List.length issues
  rw [same]
  refine .both (fun _ => .pure _ issues) fun _ => ?_
  have skipped : Parallel (.whole []) base (fun _ => Standing) one two Grammar.skipNewlines
      Grammar.skipNewlines := by
    have fits : (Mode.whole []).Fits := trivial
    refine ⟨rfl, ?_⟩
    rcases on.skip fits with ⟨still, stops⟩ | ⟨gapped, _⟩
    · exact ⟨still.based _, stops⟩
    · exact gapped.rest.elim
  exact skipped.bind fun _ _ _ standing => .pure _ standing

end Parallel

theorem rounds_whole {first second after afterOther : Cursor} {depth depthOther count countOther : Nat}
    {maxErrors : Int} {all allOther : List Stmt} (standing : Parallel.Standing first second)
    (ran : repeatStep (programRound (Rules.ofDepth (depth + 1)) maxErrors) count [] first = .ok all after)
    (ranOther : repeatStep (programRound (Rules.ofDepth (depthOther + 1)) maxErrors) countOther [] second =
      .ok allOther afterOther) : all = allOther ∧ sameIssues (.whole []) after afterOther := by
  have rounds (statements : List Stmt) (one two : Cursor) (standing : Parallel.Standing one two) :
      Parallel (.whole []) none (fun last one two =>
          if last.2 = true then Parallel.Standing one two else sameIssues (.whole []) one two) one two
        (programRound (Rules.ofDepth (depth + 1)) maxErrors statements)
        (programRound (Rules.ofDepth (depthOther + 1)) maxErrors statements) ∨
      Stalls (.whole []) one (programRound (Rules.ofDepth (depth + 1)) maxErrors statements) :=
    .inl (Parallel.programRound standing statements)
  have together := Parallel.repeatUntil rounds programRound_ended count countOther [] standing
  rcases together with together | ⟨strict, _⟩
  · unfold Parallel at together
    rw [ran, ranOther] at together
    exact together
  · exact strict.elim

section Seam

variable {near far beyond : List Token} {first second after afterOther : Cursor}
  {depth depthOther count countOther : Nat} {maxErrors : Int} {statements all allOther : List Stmt}

def Facing (near far beyond : List Token) (first second : Cursor) : Prop :=
  On (.cut true near far beyond) Groups.none first second ∧ first.kind ≠ .newline ∨
    Gapped (.cut true near far beyond) first second

theorem Facing.issues (facing : Facing near far beyond first second) (quiet : first.reports = []) :
    second.reports = [] := by
  have same : sameIssues (.cut true near far beyond) first second := by
    rcases facing with ⟨on, _⟩ | gapped
    · exact on.reports rfl
    · exact gapped.reports rfl
  unfold sameIssues at same
  rw [quiet] at same
  simpa [Mode.earlier] using same

theorem Loose.facing (fits : (Mode.cut true near far beyond).Fits)
    (loose : Loose (.cut true near far beyond) first second) :
    Facing near far beyond first.skipBlank second.skipBlank := by
  obtain ⟨_, on | lagging⟩ := loose
  · rcases on.skip fits with ⟨still, stops⟩ | ⟨gapped, _⟩
    · exact .inl ⟨still, stops⟩
    · exact .inr gapped
  · obtain ⟨same, gapped⟩ := lagging.skip
    exact .inr (same.symm ▸ gapped)

theorem statement_facing (fits : (Mode.cut true near far beyond).Fits) (room : Room depth first)
    (on : On (.cut true near far beyond) Groups.none first second) (line : first.kind ≠ .newline)
    (going : first.kind ≠ .endOfFile) (inside : first.kind ≠ .dedent) {statement other : Stmt}
    (ran : (Rules.ofDepth depth).statement first = .ok statement after) (quiet : after.reports = first.reports)
    (ranOther : (Rules.ofDepth depthOther).statement second = .ok other afterOther) :
    statement = other ∧ Loose (.cut true near far beyond) after afterOther := by
  have leads := (Rules.sound depth).statement first going inside room
  rw [ran] at leads
  have strict := (leads.2.2 quiet).2
  have together := (Rules.level_strict fits depth depthOther).statement rfl none first second on line going inside
  unfold Parallel at together
  rw [strict, ranOther] at together
  exact together

theorem Gapped.stands (gapped : Gapped (.cut true near far beyond) first second) (ended : first.kind = .endOfFile) :
    second.rest = beyond := by
  obtain ⟨_, _, _, _, split, _, ⟨dedent, _⟩ | ⟨_, _, farSplit⟩, _⟩ := Gap.heads gapped.rest
  · rw [Cursor.kind_split split, dedent] at ended
    cases ended
  · exact farSplit

theorem stray_reports {rules : Rules} (dedent : first.kind = .dedent)
    (ran : nextAtTop rules statements first = .ok all after) : after.reports ≠ [] := by
  have stray : nextAtTop rules statements first = (strayDedent >>= fun _ => pure statements) first :=
    at?_found dedent
  rw [stray] at ran
  cases ran
  exact List.cons_ne_nil _ _

theorem rounds_statement {rules : Rules} (going : first.kind ≠ .endOfFile) (inside : first.kind ≠ .dedent)
    (ran : repeatStep (programRound rules maxErrors) count statements first = .ok all after) :
    ∃ statement middle, rules.statement first = .ok statement middle ∧
      (middle.reports.length < maxErrors → ∃ countLeft,
        repeatStep (programRound rules maxErrors) countLeft (statement :: statements) middle.skipBlank =
          .ok all after) := by
  cases count with
  | zero => cases ran
  | succ count =>
      obtain ⟨⟨next, more⟩, middle, one, others⟩ := bind_ok ran
      rcases programRound_cases one with ⟨ended, _⟩ | ⟨_, top, stop, read, stopped⟩
      · exact absurd (by simpa [Cursor.atEnd] using ended) going
      · obtain ⟨statement, form, rfl⟩ := nextAtTop_statement inside read
        refine ⟨statement, stop, form, fun few => ?_⟩
        rcases stopped with ⟨limit, _⟩ | ⟨_, same, skipped⟩
        · exact absurd few (Int.not_lt.mpr limit)
        · cases same
          cases skipped
          exact ⟨count, others⟩

-- A program that is read without a report is read in the same way up to the seam.
theorem rounds_to_seam (fits : (Mode.cut true near far beyond).Fits) (positive : 0 < maxErrors)
    (room : Room depth first) (facing : Facing near far beyond first second)
    (ran : repeatStep (programRound (Rules.ofDepth depth) maxErrors) count statements first = .ok all after)
    (quiet : after.reports = [])
    (ranOther : repeatStep (programRound (Rules.ofDepth depthOther) maxErrors) countOther statements second =
      .ok allOther afterOther) :
    ∃ countLeft next, next.rest = beyond ∧ next.reports = [] ∧
      repeatStep (programRound (Rules.ofDepth depthOther) maxErrors) countLeft all next = .ok allOther afterOther := by
  induction count generalizing statements first second countOther with
  | zero => cases ran
  | succ count ih =>
      have few : (after.reports.length : Int) < maxErrors := by rw [quiet]; exact positive
      have silent : first.reports = [] := by
        have grown := (rounds_pass room ran).reports
        rwa [quiet, List.suffix_nil] at grown
      have silentOther := facing.issues silent
      rcases rounds_cases ran few with ⟨ended, rfl, rfl⟩ | ⟨going, next, middle, top, others⟩
      · rcases facing with ⟨on, _⟩ | gapped
        · exact absurd ended on.going
        · exact ⟨countOther, second, gapped.stands ended, silentOther, ranOther⟩
      · have leads := Reads.nextAtTop (Rules.sound depth) statements going room
        rw [top] at leads
        have onward : Room depth middle.skipBlank := (Passes.skip _ middle).room (leads.1.room room)
        have still : middle.reports = [] := by
          have grown : middle.reports <:+ after.reports := (rounds_pass onward others).reports
          rwa [quiet, List.suffix_nil] at grown
        have inside : first.kind ≠ .dedent := fun dedent => stray_reports dedent top still
        have outside : ¬ Gapped (.cut true near far beyond) first second := by
          intro gapped
          obtain ⟨⟨dedent, _⟩ | ended, _⟩ := gapped.cases
          · exact inside dedent
          · exact going ended
        obtain ⟨on, line⟩ := facing.resolve_right outside
        obtain ⟨statement, one, rfl⟩ := nextAtTop_statement inside top
        obtain ⟨other, later, oneOther, othersOther⟩ := rounds_statement (by rwa [← on.same_kind])
          (by rwa [← on.same_kind]) ranOther
        obtain ⟨rfl, loose⟩ := statement_facing fits room on line going inside one (still.trans silent.symm) oneOther
        have facing := loose.facing fits
        have none : later.reports = [] := facing.issues still
        obtain ⟨countLeft, left⟩ := othersOther (by rw [none]; exact positive)
        exact ih onward facing others left

end Seam

theorem dedents_gap {dedents beyond : List Token} {last head : Token} {others : List Token}
    (kinds : ∀ token ∈ dedents, token.kind = .dedent) (ended : last.kind = .endOfFile)
    (split : beyond = head :: others) (line : head.kind ≠ .newline) (block : head.kind ≠ .indent) :
    Gap true beyond (dedents ++ [last]) (dedents ++ beyond) := by
  induction dedents with
  | nil => exact .ended last head others ended split line block
  | cons token rest ih =>
      exact .dedent token _ _ rfl (kinds token (by simp)) (ih fun other member => kinds other (by simp [member]))

theorem EndsOnce.after {front tokens : List Token} (going : ∀ token ∈ front, token.kind ≠ .endOfFile)
    (ends : EndsOnce tokens) : EndsOnce (front ++ tokens) := by
  obtain ⟨body, last, rfl, kind, others⟩ := ends
  refine ⟨front ++ body, last, by simp, kind, fun token member => ?_⟩
  rcases List.mem_append.mp member with early | late
  · exact going token early
  · exact others token late

theorem Settled.going {nested : Bool} {groups : Groups} {body : List Token} (settled : Settled nested groups body) :
    ∀ token ∈ body, token.kind ≠ .endOfFile := by
  induction settled with
  | last _ token kind => simp [kind]
  | cons _ token rest going _ _ _ ih => exact List.forall_mem_cons.mpr ⟨going, ih⟩

theorem rounds_left {rules : Rules} {maxErrors : Int} {count : Nat} {statements all : List Stmt} {cursor after : Cursor}
    (ran : repeatStep (programRound rules maxErrors) count statements cursor = .ok all after) :
    ∃ new, repeatStep (programRound rules maxErrors) count [] cursor = .ok new after ∧ all = new ++ statements := by
  rw [rounds_extended] at ran
  cases one : repeatStep (programRound rules maxErrors) count [] cursor with
  | ok new last =>
      rw [one] at ran
      cases ran
      exact ⟨new, rfl, rfl⟩
  | error halt last =>
      rw [one] at ran
      cases ran

section Append

variable {body blank dedents beyond : List Token} {last : Token}

structure Abutting (body blank dedents beyond : List Token) (last : Token) : Prop where
  settled : Settled true Groups.none body
  lines : ∀ token ∈ blank, token.kind = .newline
  closes : ∀ token ∈ dedents, token.kind = .dedent
  ended : last.kind = .endOfFile
  begins : ∃ head others, beyond = head :: others ∧ head.kind ≠ .newline ∧ head.kind ≠ .indent
  ends : EndsOnce beyond

namespace Abutting

variable (abutting : Abutting body blank dedents beyond last)

include abutting

theorem fits : (Mode.cut true (dedents ++ [last]) (blank ++ (dedents ++ beyond)) beyond).Fits := by
  obtain ⟨head, others, split, line, block⟩ := abutting.begins
  exact ⟨blank, dedents ++ beyond, rfl, abutting.lines, dedents_gap abutting.closes abutting.ended split line block⟩

theorem first_ends : EndsOnce (body ++ (dedents ++ [last])) := by
  refine .after abutting.settled.going (.after (fun token member => ?_) ⟨[], last, rfl, abutting.ended, by simp⟩)
  rw [abutting.closes token member]
  decide

theorem second_ends : EndsOnce (blank ++ beyond) := by
  refine .after (fun token member => ?_) abutting.ends
  rw [abutting.lines token member]
  decide

theorem both_end : EndsOnce (body ++ (blank ++ (dedents ++ beyond))) := by
  refine .after abutting.settled.going (.after (fun token member => ?_) (.after (fun token member => ?_) abutting.ends))
  · rw [abutting.lines token member]
    decide
  · rw [abutting.closes token member]
    decide

end Abutting

theorem parse_append (abutting : Abutting body blank dedents beyond last) {maxErrors : Int} (positive : 0 < maxErrors)
    (lines linesOther linesBoth : Option (List String))
    (quiet : (parse maxErrors lines (body ++ (dedents ++ [last]))).reports = []) :
    (parse maxErrors linesBoth (body ++ (blank ++ (dedents ++ beyond)))).program.statements =
        (parse maxErrors lines (body ++ (dedents ++ [last]))).program.statements ++
          (parse maxErrors linesOther (blank ++ beyond)).program.statements ∧
      (parse maxErrors linesBoth (body ++ (blank ++ (dedents ++ beyond)))).reports.map (·.issue) =
        (parse maxErrors linesOther (blank ++ beyond)).reports.map (·.issue) := by
  have fits := abutting.fits
  have ends := abutting.first_ends
  have endsBoth := abutting.both_end
  have endsOther := abutting.second_ends
  have settled := abutting.settled
  obtain ⟨head, rest, rfl⟩ := settled.cons_split
  rw [List.cons_append] at ends endsBoth quiet ⊢
  obtain ⟨initial, later, second⟩ := endsOther.cons
  obtain ⟨_, stopped, ran, _⟩ := statements_end maxErrors (ends.room lines)
  obtain ⟨_, stoppedBoth, ranBoth, _⟩ := statements_end maxErrors (endsBoth.room linesBoth)
  have silent := reports_of_parse ran quiet
  obtain ⟨_, all, skipped, rfl, rounds⟩ := statements_ok ran
  obtain ⟨_, allBoth, skippedBoth, rfl, roundsBoth⟩ := statements_ok ranBoth
  cases skipped
  cases skippedBoth
  -- Up to the seam both read the first program.
  have on : On (.cut true (dedents ++ [last]) (blank ++ (dedents ++ beyond)) beyond) Groups.none
      (Cursor.start head (rest ++ (dedents ++ [last])) lines)
      (Cursor.start head (rest ++ (blank ++ (dedents ++ beyond))) linesBoth) :=
    ⟨⟨head :: rest, rfl, rfl, settled⟩, .inl rfl, fun _ => rfl⟩
  have facing := Loose.facing fits ⟨rfl, .inl on⟩
  have room := (Passes.skip (fun _ current => current.kind == .newline) _).room (ends.room lines)
  obtain ⟨countLeft, next, stands, none, left⟩ := rounds_to_seam fits positive room facing rounds silent roundsBoth
  obtain ⟨new, leftOver, rfl⟩ := rounds_left left
  -- After it the second program is read as it is read alone.
  rw [second] at endsOther
  rw [List.cons_append, second]
  obtain ⟨_, stoppedOther, ranOther, _⟩ := statements_end maxErrors (endsOther.room linesOther)
  rw [parse_ok ran, parse_ok ranBoth, parse_ok ranOther]
  obtain ⟨_, allOther, skippedOther, rfl, roundsOther⟩ := statements_ok ranOther
  cases skippedOther
  obtain ⟨first, others, split, line, _⟩ := abutting.begins
  have begun : (Cursor.start initial later linesOther).skipBlank.rest = beyond := by
    rw [split]
    have whole : (Cursor.start initial later linesOther).rest = blank ++ first :: others := by
      rw [← split, second]
      rfl
    exact (Cursor.skipBlank_over blank abutting.lines line whole).1
  have standing : Parallel.Standing (Cursor.start initial later linesOther).skipBlank next := by
    obtain ⟨tokens, final, ended, kind, _⟩ := abutting.ends
    refine ⟨⟨⟨begun.trans stands.symm, tokens, final, begun.trans ended, kind⟩, .inr ⟨_, rfl, rfl⟩, fun _ => ?_⟩, ?_⟩
    · change next.reports.map _ = _
      rw [none]
      rfl
    · rwa [Cursor.kind_split (begun.trans split)]
  obtain ⟨rfl, issues⟩ := rounds_whole standing roundsOther leftOver
  refine ⟨by simp, ?_⟩
  simpa [sameIssues, Mode.earlier] using issues

end Append

end Fiscal.Grammar
