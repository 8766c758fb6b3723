import Fiscal.Proofs.Token.Layout

set_option autoImplicit false

namespace Fiscal.Token

open Source

def dialectOf (tabWidth : Nat) (currencies : List String) (source : String) : Dialect :=
  ⟨tabWidth, standardCurrencies ++ currencies.map Text.upper, Text.lines source⟩

namespace Scan

theorem reportUnclosed_eq (scan : Scan) (name : String) (places : List Location) :
    ∃ reports, scan.reportUnclosed name places = { scan with reports := reports } := by
  unfold reportUnclosed
  induction places.reverse generalizing scan with
  | nil => exact ⟨scan.reports, rfl⟩
  | cons place others ih => exact ih (scan.report _)

def closing (scan : Scan) : List Token :=
  (if scan.lineOpen then [⟨.newline, .none, "", ⟨scan.place, scan.place⟩⟩] else []) ++
    List.replicate (scan.indents.length - 1) ⟨.dedent, .none, "", ⟨scan.place, scan.place⟩⟩

def ending (scan : Scan) : Token := ⟨.endOfFile, .none, "", ⟨scan.place, scan.place⟩⟩

theorem settleIndent_zero (scan : Scan) (first : Location) (stacked : Stacked scan.indents) :
    scan.settleIndent 0 first =
      { scan with
        indents := [0]
        tokens := List.replicate (scan.indents.length - 1) ⟨.dedent, .none, "", ⟨first, scan.place⟩⟩ ++
          scan.tokens } := by
  have shallow : (scan.indents.head?.any fun top => decide (top < 0)) = false := by
    cases scan.indents <;> rfl
  rw [settleIndent, shallow, if_neg (by decide)]
  dsimp only
  rw [stacked.unwound]
  rfl

theorem settled_ends (line : Scan) (stacked : Stacked line.indents) :
    let settled := line.settleIndent 0 line.place
    (settled.emitLayout .endOfFile "" settled.place).indents = [0] ∧
      (settled.emitLayout .endOfFile "" settled.place).tokens.reverse = line.tokens.reverse ++
        List.replicate (line.indents.length - 1) ⟨.dedent, .none, "", ⟨line.place, line.place⟩⟩ ++
          [line.ending] := by
  dsimp only
  rw [settleIndent_zero line line.place stacked]
  simp [emitLayout, emit, ending]

theorem finish_ends (scan : Scan) (stacked : Stacked scan.indents) :
    scan.finish.indents = [0] ∧
      scan.finish.tokens.reverse = scan.tokens.reverse ++ scan.closing ++ [scan.ending] := by
  unfold finish
  dsimp only
  obtain ⟨parens, first⟩ := reportUnclosed_eq scan "parenthesis" scan.groups.parens
  rw [first]
  obtain ⟨brackets, second⟩ := reportUnclosed_eq { scan with reports := parens } "bracket"
    scan.groups.brackets
  rw [second]
  obtain ⟨braces, third⟩ := reportUnclosed_eq { scan with reports := brackets } "brace"
    scan.groups.braces
  rw [third]
  by_cases lineOpen : scan.lineOpen = true
  · have still : ({ scan with reports := braces } : Scan).lineOpen = true := lineOpen
    rw [if_pos still, closing, if_pos lineOpen]
    have ended := settled_ends ({ scan with reports := braces }.emitLayout .newline "" scan.place) stacked
    simpa [emitLayout, emit, ending] using ended
  · have still : ¬ ({ scan with reports := braces } : Scan).lineOpen = true := lineOpen
    rw [if_neg still, closing, if_neg lineOpen]
    have ended := settled_ends { scan with reports := braces } stacked
    simpa [ending] using ended

theorem closing_laid (scan : Scan) (laid : scan.Laid) :
    Layout (fun _ => True) (scan.closing.reverse ++ scan.tokens) [0] scan.groups := by
  have stacked := laid.stacked
  have free := laid.anywhere
  have ended (tokens : List Token) (closed : Layout (fun _ => True) tokens scan.indents scan.groups) :
      Layout (fun _ => True) (List.replicate (scan.indents.length - 1)
        ⟨.dedent, .none, "", ⟨scan.place, scan.place⟩⟩ ++ tokens) [0] scan.groups := by
    have all := closed.closing trivial 0 ⟨.dedent, .none, "", ⟨scan.place, scan.place⟩⟩ rfl
    dsimp only at all
    rwa [stacked.unwound] at all
  unfold closing
  by_cases lineOpen : scan.lineOpen = true
  · rw [if_pos lineOpen]
    simpa using ended _ (.newline ⟨.newline, .none, "", ⟨scan.place, scan.place⟩⟩ _ _ _ rfl trivial free)
  · rw [if_neg lineOpen]
    simpa using ended _ free

end Scan

theorem scan_cases (tabWidth : Nat) (currencies : List String) (file : Option String) (source : String)
    (stream : Stream) (scanned : scan tabWidth currencies file source = .ok stream) :
    ∃ ended, (Scan.start file source).rounds (dialectOf tabWidth currencies source)
        source.toList.length = .ok ended ∧
      ended.ahead = [] ∧ ended.Laid ∧ ended.finish.indents = [0] ∧
      stream.tokens = ended.tokens.reverse ++ ended.closing ++ [ended.ending] := by
  change ((Scan.start file source).rounds (dialectOf tabWidth currencies source)
    source.toList.length).map _ = .ok stream at scanned
  cases ran : (Scan.start file source).rounds (dialectOf tabWidth currencies source)
      source.toList.length with
  | error fault =>
      rw [ran] at scanned
      cases scanned
  | ok ended =>
      rw [ran] at scanned
      cases scanned
      have empty := Scan.rounds_ended _ _ (Scan.start file source) ended (Nat.le_refl _) ran
      have laid := Scan.rounds_laid _ file source _ ended ran
      obtain ⟨bottom, finished⟩ := Scan.finish_ends ended laid.stacked
      exact ⟨ended, rfl, empty, laid, bottom, finished⟩

theorem scanned_worded {tabWidth : Nat} {currencies : List String} {file : Option String} {source : String}
    {stream : Stream} (scanned : scan tabWidth currencies file source = .ok stream) :
    Worded stream.tokens := by
  obtain ⟨ended, ran, _, _, _, tokens⟩ := scan_cases tabWidth currencies file source stream scanned
  have worded := Scan.rounds_worded _ file source _ ended ran
  have closing : ∀ token ∈ ended.closing ++ [ended.ending], token.lexeme = "" := by
    intro token member
    rcases List.mem_append.mp member with closing | last
    · rcases List.mem_append.mp closing with line | dedent
      · split at line
        · rw [List.mem_singleton.mp line]
        · cases line
      · rw [(List.mem_replicate.mp dedent).2]
    · rw [List.mem_singleton.mp last]
      rfl
  intro token member word
  rw [tokens, List.append_assoc] at member
  rcases List.mem_append.mp member with read | last
  · exact worded token (List.mem_reverse.mp read) word
  · rw [closing token last] at word
    cases word

-- What a stream over a source text is like, whatever the text.
structure WellFormed (dialect : Dialect) (file : Option String) (source : String)
    (stream : Stream) : Prop where
  -- The end of the file is the last token and stands nowhere else.
  ends : ∃ body last, stream.tokens = body ++ [last] ∧ last.kind = .endOfFile ∧
    ∀ token ∈ body, token.kind ≠ .endOfFile
  balanced : countKind .dedent stream.tokens = countKind .indent stream.tokens
  nested : ∀ first, first <+: stream.tokens → countKind .dedent first ≤ countKind .indent first
  -- After any number of rounds the stack falls strictly down to zero. A round pushes one level or
  -- takes some off, so this is so at every moment within a round too.
  stacked : ∀ count moment, (Scan.start file source).rounds dialect count = .ok moment →
    Stacked moment.indents ∧
      ∀ next, moment.round dialect = .ok next → Scan.Turns moment.indents next.indents
  -- All but the tokens that end the stream were emitted while reading the text, and then line ends and
  -- indentations only with no bracket open.
  outside : ∃ ended,
    (Scan.start file source).rounds dialect source.toList.length = .ok ended ∧ ended.ahead = [] ∧
    ended.finish.indents = [0] ∧
    stream.tokens = ended.tokens.reverse ++ ended.closing ++ [ended.ending] ∧
    ∀ before token after, ended.tokens.reverse = before ++ token :: after →
      token.kind.isLayout = true → (openGroups before).depth = 0

theorem countKind_concat (kind : TokenKind) (tokens : List Token) (last : Token)
    (other : last.kind ≠ kind) : countKind kind (tokens ++ [last]) = countKind kind tokens := by
  simp [countKind, other]

theorem stream_well_formed (tabWidth : Nat) (currencies : List String) (file : Option String)
    (source : String) (stream : Stream)
    (scanned : scan tabWidth currencies file source = .ok stream) :
    WellFormed (dialectOf tabWidth currencies source) file source stream := by
  obtain ⟨ended, ran, empty, laid, bottom, tokens⟩ :=
    scan_cases tabWidth currencies file source stream scanned
  have closed := Scan.closing_laid ended laid
  have body : ended.tokens.reverse ++ ended.closing = (ended.closing.reverse ++ ended.tokens).reverse := by
    simp
  have balance : countKind .dedent stream.tokens = countKind .indent stream.tokens := by
    rw [tokens, countKind_concat _ _ _ (by simp [Scan.ending]),
      countKind_concat _ _ _ (by simp [Scan.ending]), body, countKind_reverse, countKind_reverse]
    exact closed.balanced
  refine ⟨⟨_, ended.ending, tokens, rfl, ?_⟩, balance, ?_, ?_,
    ended, ran, empty, bottom, tokens, laid.outside_within⟩
  · intro token member
    rw [body, List.mem_reverse] at member
    exact closed.goes_on token member
  · intro first before
    rw [tokens] at before
    rcases List.prefix_concat_iff.mp before with whole | sooner
    · rw [whole, ← tokens]
      exact Nat.le_of_eq balance
    · rw [body] at sooner
      exact closed.nested_within first sooner
  · intro count moment reached
    have still := Scan.rounds_laid _ file source count moment reached
    exact ⟨still.stacked, fun next one => (Scan.round_laid _ moment next one still).2⟩

theorem scanned_such (result : Except Fault Stream) (test : Stream → Bool)
    (found : result.toOption.any test = true) : ∃ stream, result = .ok stream ∧ test stream = true := by
  cases result with
  | error fault => cases found
  | ok stream => exact ⟨stream, rfl, found⟩

theorem scanned_kinds (result : Except Fault Stream) (kinds : List TokenKind)
    (found : result.toOption.map (fun stream => stream.tokens.map (·.kind)) = some kinds) :
    ∃ stream, result = .ok stream ∧ stream.tokens.map (·.kind) = kinds := by
  cases result with
  | error fault => cases found
  | ok stream => exact ⟨stream, rfl, Option.some.inj found⟩

theorem broken_text_well_formed :
    let source := "IF x\n    y = (1\n 2]) \"z\n  v\n     ((\n'''w"
    let kinds : List TokenKind := [.ifKeyword, .identifier, .newline, .indent, .identifier, .equal,
      .leftParen, .number, .number, .rightBracket, .rightParen, .invalid, .newline, .dedent,
      .identifier, .newline, .indent, .leftParen, .leftParen, .invalid, .newline, .dedent, .endOfFile]
    ∃ stream, scan 4 [] none source = .ok stream ∧ stream.tokens.map (·.kind) = kinds ∧
      WellFormed (dialectOf 4 [] source) none source stream := by
  intro source kinds
  obtain ⟨stream, scanned, same⟩ := scanned_kinds (scan 4 [] none source) kinds (by decide +kernel)
  exact ⟨stream, scanned, same, stream_well_formed 4 [] none source stream scanned⟩

end Fiscal.Token
