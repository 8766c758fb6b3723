import Fiscal.Proofs.Token.Beside
import Fiscal.Proofs.Token.LineStart

set_option autoImplicit false

namespace Fiscal.Token

open Source

namespace Scan

-- One round after the other, each with text ahead.
inductive Reaches (dialect : Dialect) : Scan → Scan → Prop where
  | refl (scan : Scan) : Reaches dialect scan scan
  | step (scan next last : Scan) (more : scan.ahead ≠ []) (ran : scan.round dialect = .ok next)
      (later : Reaches dialect next last) : Reaches dialect scan last

section Growth

variable {scan next : Scan} {dialect : Dialect}

theorem Reads.grows (reads : scan.Reads next) : scan.tokens <:+ next.tokens ∧ scan.reports <:+ next.reports := by
  cases reads with
  | nothing => exact ⟨List.suffix_refl _, List.suffix_refl _⟩
  | newline =>
      unfold readNewline
      dsimp only
      split
      · exact ⟨List.suffix_cons _ _, List.suffix_refl _⟩
      · exact ⟨List.suffix_refl _, List.suffix_refl _⟩
  | token _ _ _ _ _ _ _ _ _ _ _ _ grown => exact ⟨List.suffix_cons _ _, grown⟩

theorem startLine_grows (scan : Scan) (width : Nat) (place : Location) :
    scan.tokens <:+ (scan.startLine width place).tokens := by
  unfold startLine settleIndent
  dsimp only
  split
  · split
    · split
      · exact List.suffix_cons _ _
      · exact List.suffix_append _ _
    · exact List.suffix_refl _
  · exact List.suffix_refl _

theorem round_grows (ran : scan.round dialect = .ok next) :
    scan.tokens <:+ next.tokens ∧ scan.reports <:+ next.reports := by
  cases round_cases dialect scan next ran with
  | comment _ _ reads _ => exact reads.grows
  | within _ _ reads => exact reads.grows
  | starts _ _ reads =>
      obtain ⟨tokens, reports⟩ := reads.grows
      refine ⟨(startLine_grows (scan.advance (trivia scan.ahead).length) _ _).trans tokens, ?_⟩
      rwa [startLine_reports] at reports

end Growth

namespace Reaches

variable {dialect : Dialect} {scan last : Scan} {count : Nat}

theorem trans {middle : Scan} (first : Reaches dialect scan middle) (second : Reaches dialect middle last) :
    Reaches dialect scan last := by
  induction first with
  | refl => exact second
  | step scan next middle more ran _ ih => exact .step scan next last more ran (ih second)

theorem grows (reaches : Reaches dialect scan last) : scan.tokens <:+ last.tokens ∧ scan.reports <:+ last.reports := by
  induction reaches with
  | refl => exact ⟨List.suffix_refl _, List.suffix_refl _⟩
  | step scan next last _ ran _ ih => exact ⟨(round_grows ran).1.trans ih.1, (round_grows ran).2.trans ih.2⟩

theorem of_rounds (ran : scan.rounds dialect count = .ok last) : Reaches dialect scan last := by
  induction count generalizing scan with
  | zero =>
      cases ran
      exact .refl _
  | succ count ih =>
      rw [Scan.rounds] at ran
      split at ran
      · cases ran
        exact .refl _
      · rename_i more
        cases one : scan.round dialect with
        | error fault =>
            rw [one] at ran
            cases ran
        | ok next =>
            rw [one] at ran
            exact .step scan next last (by simpa using more) one (ih ran)

theorem rounds (reaches : Reaches dialect scan last) (ended : last.ahead = [])
    (enough : scan.ahead.length ≤ count) : scan.rounds dialect count = .ok last := by
  induction reaches generalizing count with
  | refl scan =>
      cases count with
      | zero => rfl
      | succ count => rw [Scan.rounds, ended]; rfl
  | step scan next last more ran _ ih =>
      have shorter := round_shorter dialect scan next ran more
      cases count with
      | zero => omega
      | succ count =>
          rw [Scan.rounds, if_neg (by simpa using more), ran]
          exact ih ended (by omega)

end Reaches

section Both

variable {more : List Char} {base baseOther : List Token} {first second last : Scan}
  {dialect dialectOther : Dialect}

theorem Reaches.onward (reaches : Reaches dialect first last) (tabs : dialectOther.tabWidth = dialect.tabWidth)
    (known : dialectOther.currencies = dialect.currencies) (quiet : more = [] ∨ last.reports = [])
    (onward : Onward more base baseOther first second)
    (level : second.indents = first.indents) :
    ∃ other, Reaches dialectOther second other ∧ Onward more base baseOther last other ∧
      other.indents = last.indents := by
  induction reaches generalizing second with
  | refl => exact ⟨second, .refl _, onward, level⟩
  | step first next last going ran later ih =>
      have bounded := onward.bounded.resolve_right fun ended => going ended.ended
      have silent : more = [] ∨ next.reports = first.reports := by
        refine quiet.imp_right fun none => ?_
        have late := later.grows.2
        rw [none, List.suffix_nil] at late
        have early := (round_grows ran).2
        rw [late, List.suffix_nil] at early
        rw [late, early]
      obtain ⟨middle, ranOther, still, same⟩ := round_onward tabs known onward.beside bounded level ran silent
      obtain ⟨other, reached, done, levelled⟩ := ih quiet still same
      refine ⟨other, .step second middle other ?_ ranOther reached, done, levelled⟩
      rw [onward.beside.ahead]
      exact List.append_ne_nil_of_left_ne_nil going _

theorem Reaches.lineEnded (reaches : Reaches dialect first last) (ended : last.ahead = [])
    (quiet : last.reports = []) (line : first.ahead.getLast? = some '\n') : last.LineEnded := by
  -- Whatever follows makes no difference, so let it be a blank.
  have beside : Beside [' '] [] [] first { first with ahead := first.ahead ++ [' '] } :=
    ⟨rfl, rfl, rfl, ⟨first.tokens.map Token.bare, by simp, by simp⟩, rfl⟩
  obtain ⟨_, _, onward, _⟩ := reaches.onward rfl rfl (.inr quiet) ⟨beside, .inl (.inr line)⟩ rfl
  refine onward.bounded.resolve_left fun bounded => ?_
  rw [ended] at bounded
  cases bounded.nil

end Both

def leader? (tokens : List Token) : Option Token := tokens.reverse.find? (·.kind != .newline)

theorem leader_blank (tokens : List Token) (blank : ∀ token ∈ tokens, token.kind = .newline) : leader? tokens = none := by
  simpa [leader?] using blank

theorem leader_new {token : Token} {tokens : List Token} (blank : ∀ token ∈ tokens, token.kind = .newline)
    (other : token.kind ≠ .newline) : leader? (token :: tokens) = some token := by
  have none := leader_blank tokens blank
  unfold leader? at none ⊢
  rw [List.reverse_cons, List.find?_append, none]
  simp [other]

theorem leader_kept {tokens later : List Token} {token : Token} (grown : tokens <:+ later)
    (found : leader? tokens = some token) : leader? later = some token := by
  obtain ⟨new, rfl⟩ := grown
  unfold leader? at found ⊢
  rw [List.reverse_append, List.find?_append, found]
  rfl

section Second

structure Waiting (levels : List Nat) (body : List Token) (alone both : Scan) : Prop where
  beside : Beside [] [] body alone both
  starts : alone.lineStart = true
  outside : alone.groups.depth = 0
  bottom : alone.indents = [0]
  levels : both.indents = levels
  blank : ∀ token ∈ alone.tokens, token.kind = .newline

def dedents (levels : List Nat) : List Token := List.replicate (levels.length - 1) ⟨.dedent, .none, "", default⟩

structure Going (levels : List Nat) (body : List Token) (head : Token) (blank : List Token) (alone both : Scan) :
    Prop where
  beside : Beside [] (head :: blank) (head :: (dedents levels ++ (blank ++ body))) alone both
  level : both.indents = alone.indents
  read : head.kind.isRead = true
  blank : ∀ token ∈ blank, token.kind = .newline

variable {levels : List Nat} {body : List Token} {alone both next last : Scan} {dialect dialectOther : Dialect}

theorem Beside.rebase {more : List Char} {base baseOther front : List Token}
    (beside : Beside more base baseOther alone both) (split : alone.tokens.map Token.bare = front ++ base) :
    Beside more (front ++ base) (front ++ baseOther) alone both := by
  obtain ⟨new, here, there⟩ := beside.tokens
  obtain rfl : new = front := List.append_cancel_right (here.symm.trans split)
  exact ⟨beside.ahead, beside.lineStart, beside.groups, ⟨[], here, there⟩, beside.issues⟩

theorem Waiting.passed_blank (waiting : Waiting levels body alone both)
    (code : (alone.advance (trivia alone.ahead).length).atCode = false) :
    Waiting levels body (alone.passed dialect) (both.passed dialectOther) := by
  have same : both.ahead = alone.ahead := by rw [waiting.beside.ahead, List.append_nil]
  have advanced : Beside _ _ _ (alone.advance (trivia alone.ahead).length)
      (both.advance (trivia alone.ahead).length) := waiting.beside.advance (.inl rfl)
  have codeOther : (both.advance (trivia alone.ahead).length).atCode = false := by
    rw [advanced.atCode (.inl rfl), code]
  have still : alone.passed dialect = alone.advance (trivia alone.ahead).length := by
    rw [passed, if_pos waiting.starts, startLine, if_neg (by rw [code]; decide)]
  have stillOther : both.passed dialectOther = both.advance (trivia alone.ahead).length := by
    rw [passed, waiting.beside.lineStart, if_pos waiting.starts, same, startLine, if_neg (by rw [codeOther]; decide)]
  rw [still, stillOther]
  refine ⟨advanced, ?_, waiting.outside, waiting.bottom, waiting.levels, waiting.blank⟩
  rw [advance_lineStart, waiting.starts, Bool.true_or]

theorem readToken_blank {scan next : Scan} (code : scan.atCode = false) (ran : scan.readToken dialect = .ok next) :
    scan.ahead = [] ∧ next = scan ∨ (∃ rest, scan.ahead = '\n' :: rest ∧ next = scan.readNewline) ∨
      next = scan.readInvalid dialect (.unexpectedCharacter '\x00') 1 := by
  unfold readToken at ran
  split at ran
  · rename_i ended
    cases ran
    exact .inl ⟨ended, rfl⟩
  · rename_i c rest ahead
    by_cases feed : c = '\n'
    · rw [if_pos feed] at ran
      cases ran
      exact .inr (.inl ⟨rest, by rw [ahead, feed], rfl⟩)
    · have nul : c = '\x00' := by
        rw [atCode, ahead] at code
        simpa [feed] using code
      subst nul
      rw [if_neg (by decide), if_neg (by decide), if_neg (by decide), if_neg (by decide)] at ran
      cases ran
      refine .inr (.inr ?_)
      have alone : rest.head?.bind (pairKind? '\x00') = none := by
        cases rest with
        | nil => rfl
        | cons next others =>
            refine Option.eq_none_iff_forall_ne_some.mpr fun kind found => ?_
            exact (pairKind_read '\x00' next kind found).2.2.1 rfl
      rw [readSymbol, alone]
      rfl

def Leads (tokens : List Token) : Prop :=
  ∀ token, leader? tokens = some token → token.kind ≠ .indent ∧ token.kind ≠ .invalid

theorem Leads.earlier {tokens later : List Token} (leads : Leads later) (grown : tokens <:+ later) : Leads tokens :=
  fun token found => leads token (leader_kept grown found)

theorem Waiting.rests (waiting : Waiting levels body alone both) (code : alone.atCode = false)
    (ran : alone.readToken dialect = .ok next) (leads : Leads next.tokens)
    (known : dialectOther.currencies = dialect.currencies) :
    ∃ other, both.readToken dialectOther = .ok other ∧ Waiting levels body next other := by
  obtain ⟨other, ranOther, onward⟩ := readToken_onward known waiting.beside (.inl rfl) ran (.inl rfl)
  have level := (readToken_reads dialect _ next ran).indents
  have levelOther := (readToken_reads dialectOther _ other ranOther).indents
  refine ⟨other, ranOther, ?_⟩
  rcases readToken_blank code ran with ⟨_, rfl⟩ | ⟨rest, ahead, rfl⟩ | rfl
  · exact ⟨onward.beside, waiting.starts, waiting.outside, waiting.bottom, levelOther.trans waiting.levels, waiting.blank⟩
  · have starts : alone.readNewline.lineStart = true := by
      unfold readNewline
      dsimp only
      rw [if_pos waiting.outside]
      change (alone.lineStart || _) = true
      rw [waiting.starts, Bool.true_or]
    have outside : alone.readNewline.groups.depth = 0 := by
      unfold readNewline
      dsimp only
      rw [if_pos waiting.outside]
      exact waiting.outside
    refine ⟨onward.beside, starts, outside, level.trans waiting.bottom, levelOther.trans waiting.levels, ?_⟩
    unfold readNewline
    dsimp only
    rw [if_pos waiting.outside]
    exact List.forall_mem_cons.mpr ⟨rfl, waiting.blank⟩
  · have found : leader? (alone.readInvalid dialect (.unexpectedCharacter '\x00') 1).tokens = some _ :=
      leader_new waiting.blank (by rintro ⟨⟩)
    exact absurd rfl (leads _ found).2

theorem Reads.code {scan next : Scan} (reads : scan.Reads next) (code : scan.atCode = true) :
    ∃ token, next.tokens = token :: scan.tokens ∧ token.kind.isRead = true := by
  cases reads with
  | nothing ended =>
      rw [atCode, ended] at code
      cases code
  | newline rest feed =>
      rw [atCode, feed] at code
      cases code
  | token c rest kind payload count reports _ read => exact ⟨_, rfl, read⟩

theorem passed_code {scan : Scan} (starts : scan.lineStart = true) (outside : scan.groups.depth = 0)
    (code : (scan.advance (trivia scan.ahead).length).atCode = true) :
    scan.passed dialect =
      { scan.advance (trivia scan.ahead).length with lineStart := false }.settleIndent
        (indentWidth dialect.tabWidth scan.ahead) scan.place := by
  rw [passed, if_pos starts, startLine, if_pos code]
  exact if_pos outside

theorem Waiting.begins (waiting : Waiting levels body alone both) (stacked : Stacked levels)
    (code : (alone.advance (trivia alone.ahead).length).atCode = true)
    (tabs : dialectOther.tabWidth = dialect.tabWidth) (leads : Leads (alone.passed dialect).tokens) :
    (alone.passed dialect).tokens = alone.tokens ∧
      Beside [] (alone.tokens.map Token.bare) (dedents levels ++ (alone.tokens.map Token.bare ++ body))
        (alone.passed dialect) (both.passed dialectOther) ∧
      (both.passed dialectOther).indents = (alone.passed dialect).indents := by
  have same : both.ahead = alone.ahead := by rw [waiting.beside.ahead, List.append_nil]
  have advanced : Beside _ _ _ (alone.advance (trivia alone.ahead).length)
      (both.advance (trivia alone.ahead).length) := waiting.beside.advance (.inl rfl)
  have codeOther : (both.advance (trivia both.ahead).length).atCode = true := by
    rw [same, advanced.atCode (.inl rfl), code]
  have startedOther : both.passed dialectOther = _ :=
    passed_code (waiting.beside.lineStart.trans waiting.starts)
      (waiting.beside.depth.trans waiting.outside) codeOther
  have started : alone.passed dialect = _ := passed_code waiting.starts waiting.outside code
  rw [same, tabs] at startedOther
  have flat : indentWidth dialect.tabWidth alone.ahead = 0 := by
    refine Nat.eq_zero_of_not_pos fun deeper => ?_
    have indented : (alone.passed dialect).tokens =
        ⟨.indent, .none, "", ⟨alone.place, (alone.advance (trivia alone.ahead).length).place⟩⟩ :: alone.tokens := by
      rw [started, settleIndent, if_pos]
      · rfl
      · simpa [waiting.bottom] using deeper
    have found : leader? (⟨.indent, .none, "", ⟨alone.place,
        (alone.advance (trivia alone.ahead).length).place⟩⟩ :: alone.tokens) = some _ :=
      leader_new waiting.blank (by rintro ⟨⟩)
    exact (leads _ (indented ▸ found)).1 rfl
  obtain ⟨new, here, there⟩ := waiting.beside.tokens
  rw [List.append_nil] at here
  have zero := settleIndent_zero { alone.advance (trivia alone.ahead).length with lineStart := false } alone.place
    (waiting.bottom.symm ▸ Stacked.zero)
  have zeroOther := settleIndent_zero { both.advance (trivia alone.ahead).length with lineStart := false } both.place
    (waiting.levels.symm ▸ stacked)
  rw [flat, zero] at started
  rw [flat, zeroOther] at startedOther
  rw [started, startedOther]
  have none : List.replicate (alone.indents.length - 1)
      (⟨.dedent, .none, "", ⟨alone.place, (alone.advance (trivia alone.ahead).length).place⟩⟩ : Token) ++ alone.tokens =
      alone.tokens := by
    rw [waiting.bottom]
    rfl
  refine ⟨none, ⟨advanced.ahead, rfl, advanced.groups, ⟨[], congrArg _ none, ?_⟩, advanced.issues⟩, rfl⟩
  change (List.replicate (both.indents.length - 1) _ ++ both.tokens).map Token.bare = _
  rw [List.map_append, List.map_replicate, there, here, waiting.levels]
  rfl

theorem Waiting.goes (waiting : Waiting levels body alone both) (stacked : Stacked levels)
    (code : (alone.advance (trivia alone.ahead).length).atCode = true)
    (tabs : dialectOther.tabWidth = dialect.tabWidth) (known : dialectOther.currencies = dialect.currencies)
    (ran : (alone.passed dialect).readToken dialect = .ok next) (leads : Leads next.tokens) :
    ∃ other head, (both.passed dialectOther).readToken dialectOther = .ok other ∧
      Going levels body head (alone.tokens.map Token.bare) next other := by
  have reads := readToken_reads dialect _ next ran
  obtain ⟨tokens, beside, level⟩ := waiting.begins stacked code tabs (leads.earlier reads.grows.1)
  obtain ⟨other, ranOther, onward⟩ := readToken_onward known beside (.inl rfl) ran (.inl rfl)
  have still := reads.indents
  have stillOther := (readToken_reads dialectOther _ other ranOther).indents
  obtain ⟨head, latest, read⟩ := reads.code (by rwa [atCode, passed_ahead])
  have split : next.tokens.map Token.bare = [head.bare] ++ alone.tokens.map Token.bare := by
    rw [latest, tokens]
    rfl
  refine ⟨other, head.bare, ranOther, onward.beside.rebase split, by rw [still, stillOther, level], read, ?_⟩
  intro token member
  obtain ⟨source, among, rfl⟩ := List.mem_map.mp member
  exact waiting.blank source among

theorem Waiting.round (waiting : Waiting levels body alone both) (stacked : Stacked levels)
    (tabs : dialectOther.tabWidth = dialect.tabWidth) (known : dialectOther.currencies = dialect.currencies)
    (ran : alone.round dialect = .ok next) (leads : Leads next.tokens) :
    ∃ other, both.round dialectOther = .ok other ∧
      (Waiting levels body next other ∨ ∃ head blank, Going levels body head blank next other) := by
  have same : both.ahead = alone.ahead := by rw [waiting.beside.ahead, List.append_nil]
  cases closed : (trivia alone.ahead).openComment with
  | none =>
      rw [round_closed dialect alone closed] at ran
      rw [round_closed dialectOther both (by rw [same, closed])]
      cases code : (alone.advance (trivia alone.ahead).length).atCode with
      | false =>
          have rests : Waiting levels body (alone.passed dialect) (both.passed dialectOther) :=
            waiting.passed_blank code
          obtain ⟨other, ranOther, still⟩ := rests.rests (by rwa [atCode, passed_ahead]) ran leads known
          exact ⟨other, ranOther, .inl still⟩
      | true =>
          obtain ⟨other, head, ranOther, going⟩ := waiting.goes stacked code tabs known ran leads
          exact ⟨other, ranOther, .inr ⟨head, _, going⟩⟩
  | some offset =>
      rw [Scan.round, closed] at ran
      cases ran
      have found : leader? ((alone.advance offset).readInvalid dialect .unterminatedComment
          ((trivia alone.ahead).length - offset)).tokens = some _ := leader_new waiting.blank (by rintro ⟨⟩)
      exact absurd rfl (leads _ found).2

-- Until code begins both scans read line ends, and from then on the same tokens.
theorem Waiting.reaches (waiting : Waiting levels body alone both) (stacked : Stacked levels)
    (reaches : Reaches dialect alone last) (leads : Leads last.tokens)
    (tabs : dialectOther.tabWidth = dialect.tabWidth) (known : dialectOther.currencies = dialect.currencies) :
    ∃ other, Reaches dialectOther both other ∧
      (Waiting levels body last other ∨ ∃ head blank, Going levels body head blank last other) := by
  induction reaches generalizing both with
  | refl => exact ⟨both, .refl _, .inl waiting⟩
  | step alone next last onward ran later ih =>
      have more : both.ahead ≠ [] := by rwa [waiting.beside.ahead, List.append_nil]
      obtain ⟨middle, ranOther, still | ⟨head, blank, going⟩⟩ :=
        waiting.round stacked tabs known ran (leads.earlier later.grows.1)
      · obtain ⟨other, reached, done⟩ := ih still leads
        exact ⟨other, .step both middle other more ranOther reached, done⟩
      · obtain ⟨other, reached, beside, level⟩ :=
          later.onward tabs known (.inl rfl) ⟨going.beside, .inl (.inl rfl)⟩ going.level
        exact ⟨other, .step both middle other more ranOther reached,
          .inr ⟨head, blank, beside.beside, level, going.read, going.blank⟩⟩

end Second

section Ending

variable {more : List Char} {base baseOther : List Token} {first second : Scan}

theorem reportUnclosed_issues (scan : Scan) (name : String) (places : List Location) :
    (scan.reportUnclosed name places).reports.map (·.issue) =
      List.replicate places.length (.unclosedGroup name) ++ scan.reports.map (·.issue) := by
  unfold reportUnclosed
  rw [← List.length_reverse]
  induction places.reverse generalizing scan with
  | nil => rfl
  | cons place others ih =>
      rw [List.foldl_cons, ih, List.length_cons, List.replicate_succ', List.append_assoc]
      rfl

def unclosed (groups : Groups) : List Issue :=
  List.replicate groups.braces.length (.unclosedGroup "brace") ++
    (List.replicate groups.brackets.length (.unclosedGroup "bracket") ++
      List.replicate groups.parens.length (.unclosedGroup "parenthesis"))

theorem settleIndent_reports (scan : Scan) (width : Nat) (place : Location) :
    (scan.settleIndent width place).reports = scan.reports := by
  unfold settleIndent
  split <;> rfl

theorem finish_reports (scan : Scan) :
    scan.finish.reports = (((scan.reportUnclosed "parenthesis" scan.groups.parens).reportUnclosed
      "bracket" scan.groups.brackets).reportUnclosed "brace" scan.groups.braces).reports := by
  unfold finish
  dsimp only
  obtain ⟨parens, first⟩ := reportUnclosed_eq scan "parenthesis" scan.groups.parens
  rw [first]
  obtain ⟨brackets, second⟩ := reportUnclosed_eq { scan with reports := parens } "bracket" scan.groups.brackets
  rw [second]
  change (settleIndent 0 _ _).reports = _
  rw [settleIndent_reports]
  split <;> rfl

theorem finish_issues (scan : Scan) :
    scan.finish.reports.map (·.issue) = unclosed scan.groups ++ scan.reports.map (·.issue) := by
  rw [finish_reports, reportUnclosed_issues, reportUnclosed_issues, reportUnclosed_issues, unclosed, List.append_assoc,
    List.append_assoc]

theorem Beside.finish_issues (beside : Beside more base baseOther first second) :
    second.finish.reports.map (·.issue) = first.finish.reports.map (·.issue) := by
  have same (part : Groups → List Location) (lengths : ∀ groups, (part groups.bare).length = (part groups).length) :
      (part second.groups).length = (part first.groups).length := by
    rw [← lengths, beside.groups, lengths]
  rw [Scan.finish_issues, Scan.finish_issues, beside.issues, unclosed, unclosed, same (·.braces) (by simp [Groups.bare]),
    same (·.brackets) (by simp [Groups.bare]), same (·.parens) (by simp [Groups.bare])]

theorem finish_quiet {scan : Scan} (quiet : scan.finish.reports = []) : scan.reports = [] ∧ scan.groups.depth = 0 := by
  have none := finish_issues scan
  rw [quiet, List.map_nil] at none
  have both := List.append_eq_nil_iff.mp none.symm
  refine ⟨List.map_eq_nil_iff.mp both.2, ?_⟩
  have lengths := congrArg List.length both.1
  simp only [unclosed, List.length_append, List.length_replicate, List.length_nil] at lengths
  unfold Groups.depth
  omega

theorem lineOpen_bare (scan : Scan) :
    scan.lineOpen = (scan.tokens.map Token.bare).head?.any fun token => !token.kind.isLayout := by
  unfold lineOpen
  cases scan.tokens with
  | nil => rfl
  | cons => rfl

theorem closing_closed {scan : Scan} (closed : scan.lineOpen = false) :
    scan.closing.map Token.bare = dedents scan.indents := by
  rw [closing, closed]
  simp [dedents, Token.bare]

theorem closing_bare (opened : second.lineOpen = first.lineOpen) (level : second.indents = first.indents) :
    second.closing.map Token.bare = first.closing.map Token.bare := by
  unfold closing
  rw [opened, level]
  split <;> simp [Token.bare]

end Ending

end Scan

open Scan (Reaches Waiting Going Beside Leads leader?)

structure Joined (ended : Scan) (blank beyond one two both : List Token) : Prop where
  first : one.map Token.bare =
    ended.tokens.reverse.map Token.bare ++ (Scan.dedents ended.indents ++ [⟨.endOfFile, .none, "", default⟩])
  second : two.map Token.bare = blank ++ beyond
  together : both.map Token.bare =
    ended.tokens.reverse.map Token.bare ++ (blank ++ (Scan.dedents ended.indents ++ beyond))
  lines : ∀ token ∈ blank, token.kind = .newline
  begins : ∃ head others, beyond = head :: others ∧ head.kind ≠ .newline ∧ head.kind ≠ .indent

section Streams

variable {ended alone both : Scan}

theorem Scan.LineEnded.closed (lineEnded : ended.LineEnded) (outside : ended.groups.depth = 0) : ended.lineOpen = false := by
  obtain ⟨token, earlier, tokens, kind⟩ := lineEnded.newline outside
  rw [Scan.lineOpen, tokens]
  simp [kind, TokenKind.isLayout]

theorem stream_bare (scan : Scan) : (scan.tokens.reverse ++ scan.closing ++ [scan.ending]).map Token.bare =
    (scan.tokens.map Token.bare).reverse ++ (scan.closing.map Token.bare ++ [⟨.endOfFile, .none, "", default⟩]) := by
  simp [Scan.ending, Token.bare]

theorem Scan.Waiting.joined (waiting : Waiting ended.indents (ended.tokens.map Token.bare) alone both)
    (closed : ended.lineOpen = false) :
    Joined ended (alone.tokens.map Token.bare).reverse [⟨.endOfFile, .none, "", default⟩]
      (ended.tokens.reverse ++ ended.closing ++ [ended.ending])
      (alone.tokens.reverse ++ alone.closing ++ [alone.ending]) (both.tokens.reverse ++ both.closing ++ [both.ending]) := by
  obtain ⟨new, here, there⟩ := waiting.beside.tokens
  rw [List.append_nil] at here
  have lines : ∀ token ∈ new, token.kind = .newline := by
    intro token member
    rw [← here] at member
    obtain ⟨source, among, rfl⟩ := List.mem_map.mp member
    exact waiting.blank source among
  have headed (front : List Token) (kinds : ∀ token ∈ front, token.kind = .newline) (rest : List Token)
      (others : (rest.head?.any fun token => !token.kind.isLayout) = false) :
      ((front ++ rest).head?.any fun token => !token.kind.isLayout) = false := by
    cases front with
    | nil => exact others
    | cons token front => simp [kinds token (by simp), TokenKind.isLayout]
  have shut : alone.lineOpen = false := by
    rw [Scan.lineOpen_bare, here]
    simpa using headed new lines [] rfl
  have shutBoth : both.lineOpen = false := by
    rw [Scan.lineOpen_bare, there]
    exact headed new lines _ (by rw [← Scan.lineOpen_bare, closed])
  refine ⟨?_, ?_, ?_, ?_, ⟨_, _, rfl, by decide, by decide⟩⟩
  · rw [stream_bare, Scan.closing_closed closed, List.map_reverse]
  · rw [stream_bare, Scan.closing_closed shut, waiting.bottom]
    rfl
  · rw [stream_bare, Scan.closing_closed shutBoth, waiting.levels, there, here]
    simp
  · simpa [here] using lines

theorem Scan.Going.joined {head : Token} {blank : List Token}
    (going : Going ended.indents (ended.tokens.map Token.bare) head blank alone both) (closed : ended.lineOpen = false) :
    ∃ beyond, Joined ended blank.reverse beyond (ended.tokens.reverse ++ ended.closing ++ [ended.ending])
      (alone.tokens.reverse ++ alone.closing ++ [alone.ending]) (both.tokens.reverse ++ both.closing ++ [both.ending]) := by
  obtain ⟨new, here, there⟩ := going.beside.tokens
  have opened : both.lineOpen = alone.lineOpen := by
    rw [Scan.lineOpen_bare, Scan.lineOpen_bare, here, there]
    cases new with
    | nil => rfl
    | cons => rfl
  have closing := Scan.closing_bare opened going.level
  refine ⟨head :: (new.reverse ++ (alone.closing.map Token.bare ++ [⟨.endOfFile, .none, "", default⟩])),
    ?_, ?_, ?_, ?_, ⟨_, _, rfl, ?_⟩⟩
  · rw [stream_bare, Scan.closing_closed closed, List.map_reverse]
  · rw [stream_bare, here]
    simp
  · rw [stream_bare, there, closing]
    simp [Scan.dedents]
  · simpa using going.blank
  · have read := going.read
    constructor
    · intro kind
      rw [kind] at read
      cases read
    · intro kind
      rw [kind] at read
      cases read

end Streams

section Texts

variable {tabWidth : Nat} {currencies : List String} {file fileOther fileBoth : Option String}
  {source other : String} {one two : Stream}

theorem scan_ended : scan tabWidth currencies file source = .ok one ↔
    ∃ ended, Reaches (dialectOf tabWidth currencies source) (Scan.start file source) ended ∧ ended.ahead = [] ∧
      one.tokens = ended.tokens.reverse ++ ended.closing ++ [ended.ending] ∧
      one.reports = ended.finish.reports.reverse := by
  constructor
  · intro scanned
    obtain ⟨ended, ran, empty, _, _, tokens⟩ := scan_cases tabWidth currencies file source one scanned
    refine ⟨ended, .of_rounds ran, empty, tokens, ?_⟩
    change ((Scan.start file source).rounds (dialectOf tabWidth currencies source)
      source.toList.length).map _ = .ok one at scanned
    rw [ran] at scanned
    cases scanned
    rfl
  · rintro ⟨ended, reaches, empty, tokens, reports⟩
    have ran := reaches.rounds empty (Nat.le_refl (Scan.start file source).ahead.length)
    have laid := Scan.rounds_laid _ file source _ ended ran
    change ((Scan.start file source).rounds (dialectOf tabWidth currencies source)
      source.toList.length).map _ = .ok one
    rw [show (Scan.start file source).rounds (dialectOf tabWidth currencies source) source.toList.length = .ok ended
      from ran]
    change Except.ok (Stream.mk _ _) = _
    rw [(Scan.finish_ends ended laid.stacked).2, ← tokens, ← reports]

theorem scan_elsewhere (scanned : scan tabWidth currencies file source = .ok one) :
    ∃ same, scan tabWidth currencies fileOther source = .ok same ∧
      same.tokens.map Token.bare = one.tokens.map Token.bare ∧
      same.reports.map (·.issue) = one.reports.map (·.issue) := by
  obtain ⟨ended, reaches, empty, tokens, reports⟩ := scan_ended.mp scanned
  have start : Scan.Onward [] [] [] (Scan.start file source) (Scan.start fileOther source) :=
    ⟨⟨(List.append_nil _).symm, rfl, rfl, ⟨[], rfl, rfl⟩, rfl⟩, .inl (.inl rfl)⟩
  obtain ⟨last, reached, ⟨beside, _⟩, level⟩ := reaches.onward rfl rfl (.inl rfl) start rfl
  have ahead : last.ahead = [] := by rw [beside.ahead, empty, List.append_nil]
  have read : last.tokens.map Token.bare = ended.tokens.map Token.bare := by
    obtain ⟨new, here, there⟩ := beside.tokens
    rw [here, there]
  have opened : last.lineOpen = ended.lineOpen := by rw [Scan.lineOpen_bare, Scan.lineOpen_bare, read]
  refine ⟨⟨last.tokens.reverse ++ last.closing ++ [last.ending], last.finish.reports.reverse⟩,
    scan_ended.mpr ⟨last, reached, ahead, rfl, rfl⟩, ?_, ?_⟩
  · rw [tokens, stream_bare, stream_bare, read, Scan.closing_bare opened level]
  · rw [reports, List.map_reverse, List.map_reverse, beside.finish_issues]

theorem scan_append (line : source.toList.getLast? = some '\n')
    (scanned : scan tabWidth currencies file source = .ok one) (quiet : one.reports = [])
    (scannedOther : scan tabWidth currencies fileOther other = .ok two)
    (leads : ∀ token, two.tokens.find? (·.kind != .newline) = some token →
      token.kind ≠ .indent ∧ token.kind ≠ .invalid) :
    ∃ both ended blank beyond, scan tabWidth currencies fileBoth (source ++ other) = .ok both ∧
      both.reports.map (·.issue) = two.reports.map (·.issue) ∧
      Reaches (dialectOf tabWidth currencies source) (Scan.start file source) ended ∧
      ended.LineEnded ∧ ended.groups.depth = 0 ∧ Joined ended blank beyond one.tokens two.tokens both.tokens := by
  obtain ⟨ended, reaches, empty, tokens, reports⟩ := scan_ended.mp scanned
  obtain ⟨alone, reachesOther, emptyOther, tokensOther, reportsOther⟩ := scan_ended.mp scannedOther
  obtain ⟨silent, outside⟩ := Scan.finish_quiet (List.reverse_eq_nil_iff.mp (reports.symm.trans quiet))
  have lineEnded := reaches.lineEnded empty silent line
  -- Up to the seam the scan of both texts is beside that of the first.
  have start : Scan.Onward other.toList [] [] (Scan.start file source) (Scan.start fileBoth (source ++ other)) :=
    ⟨⟨String.toList_append, rfl, rfl, ⟨[], rfl, rfl⟩, rfl⟩, .inl (.inr line)⟩
  obtain ⟨seam, reached, ⟨beside, _⟩, level⟩ :
      ∃ seam, Reaches (dialectOf tabWidth currencies (source ++ other)) (Scan.start fileBoth (source ++ other)) seam ∧
        Scan.Onward other.toList [] [] ended seam ∧ seam.indents = ended.indents :=
    reaches.onward rfl rfl (.inr silent) start rfl
  -- There it waits for the second one.
  have waiting : Waiting ended.indents (ended.tokens.map Token.bare) (Scan.start fileOther other) seam := by
    obtain ⟨new, here, there⟩ := beside.tokens
    have none : ended.groups.bare = Groups.none := by simp [Groups.none_of_depth outside, Groups.none, Groups.bare]
    refine ⟨⟨?_, ?_, ?_, ⟨[], rfl, ?_⟩, ?_⟩, rfl, rfl, rfl, level, by simp [Scan.start]⟩
    · rw [beside.ahead, empty, List.append_nil]
      rfl
    · exact beside.lineStart.trans lineEnded.lineStart
    · rw [beside.groups, none]
      rfl
    · rw [there, here, List.nil_append]
    · rw [beside.issues, silent]
      rfl
  have stacked := (Scan.rounds_laid _ file source _ ended (reaches.rounds empty (Nat.le_refl _))).stacked
  have leader : Leads alone.tokens := by
    intro token found
    refine leads token ?_
    rw [tokensOther, List.append_assoc, List.find?_append]
    change (leader? alone.tokens).or _ = _
    rw [found]
    rfl
  obtain ⟨last, reachedOther, done⟩ :
      ∃ last, Reaches (dialectOf tabWidth currencies (source ++ other)) seam last ∧
        (Waiting ended.indents (ended.tokens.map Token.bare) alone last ∨
          ∃ head blank, Going ended.indents (ended.tokens.map Token.bare) head blank alone last) :=
    waiting.reaches stacked reachesOther leader rfl rfl
  have closed := lineEnded.closed outside
  obtain ⟨base, baseOther, besideOther⟩ : ∃ base baseOther, Beside [] base baseOther alone last := by
    rcases done with still | ⟨head, blank, going⟩
    · exact ⟨_, _, still.beside⟩
    · exact ⟨_, _, going.beside⟩
  obtain ⟨blank, beyond, joined⟩ : ∃ blank beyond, Joined ended blank beyond one.tokens two.tokens
      (last.tokens.reverse ++ last.closing ++ [last.ending]) := by
    rw [tokens, tokensOther]
    rcases done with still | ⟨head, blank, going⟩
    · exact ⟨_, _, still.joined closed⟩
    · obtain ⟨beyond, joined⟩ := going.joined closed
      exact ⟨_, beyond, joined⟩
  have ahead : last.ahead = [] := by rw [besideOther.ahead, emptyOther, List.append_nil]
  refine ⟨⟨last.tokens.reverse ++ last.closing ++ [last.ending], last.finish.reports.reverse⟩, ended, blank, beyond,
    scan_ended.mpr ⟨last, reached.trans reachedOther, ahead, rfl, rfl⟩, ?_, reaches, lineEnded, outside, joined⟩
  rw [reportsOther, List.map_reverse, List.map_reverse, besideOther.finish_issues]

end Texts

end Fiscal.Token
