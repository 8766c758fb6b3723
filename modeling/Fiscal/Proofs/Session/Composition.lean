import Fiscal.Proofs.Grammar.Composition
import Fiscal.Proofs.Grammar.PlacesStatement
import Fiscal.Proofs.Token.Append
import Fiscal.Session

set_option autoImplicit false

namespace Fiscal

namespace Grammar

open Token (Groups Scan openGroups openGroups_concat)

theorem settled_bare {scan : Scan} (laid : scan.Laid) (worded : Token.Worded scan.tokens) {latest : Token}
    {earlier : List Token} (tokens : scan.tokens = latest :: earlier) (kind : latest.kind = .newline) :
    Settled true Groups.none (scan.tokens.reverse.map Token.bare) := by
  have within (before later : List Token) (split : scan.tokens.reverse = before ++ later) (more : later ≠ []) :
      Settled true (openGroups before).bare (later.map Token.bare) := by
    induction later generalizing before with
    | nil => exact absurd rfl more
    | cons token later ih =>
        have member : token ∈ scan.tokens := by
          rw [← List.mem_reverse, split]
          simp
        have outside (layout : token.kind.isLayout = true) : (openGroups before).bare.depth = 0 := by
          rw [Groups.bare_depth]
          exact laid.outside_within before token later split layout
        cases later with
        | nil =>
            have final : token = latest := by
              have ends := congrArg List.getLast? split
              rw [tokens, List.reverse_cons, List.getLast?_concat, List.getLast?_concat] at ends
              exact (Option.some.inj ends).symm
            subst final
            have layout : token.kind.isLayout = true := by rw [kind]; rfl
            refine .last _ _ kind (outside layout) (Bool.eq_false_iff.mpr fun word => ?_)
            rw [(worded token member word).1] at layout
            cases layout
        | cons next others =>
            have rest := ih (before ++ [token]) (by rw [split]; simp) (List.cons_ne_nil _ _)
            rw [openGroups_concat, Groups.bare_after] at rest
            exact .cons _ _ _ (laid.goes_on token member) (fun layout => ⟨rfl, outside layout⟩)
              (worded token member) rest
  refine within [] scan.tokens.reverse rfl ?_
  simp [tokens]

theorem EndsOnce.bare {tokens : List Token} (ends : EndsOnce tokens) : EndsOnce (tokens.map Token.bare) := by
  obtain ⟨body, last, rfl, kind, others⟩ := ends
  refine ⟨body.map Token.bare, last.bare, by simp, kind, fun token member => ?_⟩
  obtain ⟨source, among, rfl⟩ := List.mem_map.mp member
  exact others source among

theorem EndsOnce.behind {front tokens : List Token} (ends : EndsOnce (front ++ tokens)) (more : tokens ≠ []) :
    EndsOnce tokens := by
  obtain ⟨body, last, split, kind, others⟩ := ends
  obtain ⟨start, final, rfl⟩ := (List.eq_nil_or_concat tokens).resolve_left more
  rw [List.concat_eq_append, ← List.append_assoc] at split
  obtain ⟨rfl, same⟩ := List.append_inj' split rfl
  cases same
  exact ⟨start, _, List.concat_eq_append, kind, fun token member => others token (List.mem_append_right _ member)⟩

-- The streams of two texts, without places, are those of two programs of which the first ends with a line.
theorem joined_abuts {ended : Scan} {blank beyond one two both : List Token}
    (joined : Token.Joined ended blank beyond one two both) (laid : ended.Laid) (worded : Token.Worded ended.tokens)
    (lineEnded : ended.LineEnded) (outside : ended.groups.depth = 0) (ends : EndsOnce two) :
    Abutting (ended.tokens.reverse.map Token.bare) blank (Scan.dedents ended.indents) beyond
      ⟨.endOfFile, .none, "", default⟩ := by
  obtain ⟨latest, earlier, tokens, kind⟩ := lineEnded.newline outside
  have ends := ends.bare
  rw [joined.second] at ends
  refine ⟨settled_bare laid worded tokens kind, joined.lines, ?_, rfl, joined.begins, ends.behind ?_⟩
  · intro token member
    rw [(List.mem_replicate.mp member).2]
  · obtain ⟨head, others, rfl, _⟩ := joined.begins
    exact List.cons_ne_nil _ _

end Grammar

namespace Session

open Grammar (parse)

theorem read_cases {settings : Settings} {file : Option String} {source : String} {reading : Reading} :
    read settings file source = .ok reading ↔
      ∃ stream, Token.scan settings.tabWidth settings.currencies file source = .ok stream ∧
        reading = ⟨stream.tokens, (parse settings.maxErrors (some (Text.lines source)) stream.tokens).program,
          stream.reports ++ (parse settings.maxErrors (some (Text.lines source)) stream.tokens).reports⟩ := by
  unfold read
  cases Token.scan settings.tabWidth settings.currencies file source with
  | error fault => exact iff_of_false nofun nofun
  | ok stream =>
      constructor
      · rintro ⟨⟩
        exact ⟨stream, rfl, rfl⟩
      · rintro ⟨_, ⟨⟩, rfl⟩
        rfl

theorem statements_bare (maxErrors : Int) (lines : Option (List String)) (tokens : List Token) :
    (parse maxErrors lines tokens).program.statements.map Stmt.bare =
      (parse maxErrors none (tokens.map Token.bare)).program.statements :=
  (Grammar.parse_bare maxErrors lines tokens).1.symm

theorem issues_bare (maxErrors : Int) (lines : Option (List String)) (tokens : List Token) :
    (parse maxErrors lines tokens).reports.map (·.issue) =
      (parse maxErrors none (tokens.map Token.bare)).reports.map (·.issue) := by
  rw [(Grammar.parse_bare maxErrors lines tokens).2, List.map_map]
  rfl

theorem read_empty {settings : Settings} {file : Option String} {reading : Reading}
    (reads : read settings file "" = .ok reading) : reading.program.statements = [] := by
  cases reads
  rfl

theorem read_append (settings : Settings) (file fileOther fileBoth : Option String) (first second : String)
    (one two : Reading) (lines : first = "" ∨ ∃ front, first = front ++ "\n")
    (reads : read settings file first = .ok one) (quiet : one.diagnostics = [])
    (readsOther : read settings fileOther second = .ok two)
    (leads : ∀ token, two.tokens.find? (·.kind != .newline) = some token →
      token.kind ≠ .indent ∧ token.kind ≠ .invalid)
    (positive : 1 ≤ settings.maxErrors) :
    ∃ both, read settings fileBoth (first ++ second) = .ok both ∧
      both.program.statements.map Stmt.bare = (one.program.statements ++ two.program.statements).map Stmt.bare ∧
      both.diagnostics.map (·.issue) = two.diagnostics.map (·.issue) := by
  obtain ⟨streamOther, scannedOther, rfl⟩ := read_cases.mp readsOther
  rcases lines with rfl | ⟨front, rfl⟩
  · obtain ⟨both, scannedBoth, tokens, issues⟩ := @Token.scan_elsewhere _ _ _ fileBoth _ _ scannedOther
    refine ⟨_, read_cases.mpr ⟨both, by rwa [String.empty_append], rfl⟩, ?_, ?_⟩
    · rw [read_empty reads, List.nil_append, statements_bare, statements_bare, tokens]
    · rw [List.map_append, List.map_append, issues, issues_bare, issues_bare _ (some (Text.lines second)), tokens]
  · obtain ⟨stream, scanned, rfl⟩ := read_cases.mp reads
    obtain ⟨silent, parsed⟩ := List.append_eq_nil_iff.mp quiet
    have line : (front ++ "\n").toList.getLast? = some '\n' := by simp
    obtain ⟨both, ended, blank, beyond, scannedBoth, issues, reaches, lineEnded, outside, joined⟩ :=
      @Token.scan_append _ _ _ _ fileBoth _ _ _ _ line scanned silent scannedOther leads
    have ran := reaches.rounds lineEnded.ended (Nat.le_refl _)
    have laid := Token.Scan.rounds_laid _ file (front ++ "\n") _ ended ran
    have worded := Token.Scan.rounds_worded _ file (front ++ "\n") _ ended ran
    have abutting := Grammar.joined_abuts joined laid worded lineEnded outside (Grammar.scanned_ends scannedOther)
    have silentBare : (parse settings.maxErrors none (stream.tokens.map Token.bare)).reports = [] := by
      rw [(Grammar.parse_bare settings.maxErrors (some (Text.lines (front ++ "\n"))) stream.tokens).2, parsed]
      rfl
    rw [joined.first] at silentBare
    obtain ⟨statements, reports⟩ := Grammar.parse_append abutting positive none none none silentBare
    refine ⟨_, read_cases.mpr ⟨both, scannedBoth, rfl⟩, ?_, ?_⟩
    · rw [List.map_append, statements_bare, statements_bare, statements_bare, joined.first, joined.second,
        joined.together, statements]
    · rw [List.map_append, List.map_append, issues, issues_bare, issues_bare _ (some (Text.lines second)),
        joined.second, joined.together, reports]

theorem read_such (result : Except Fault Reading) (test : Reading → Bool) (found : result.toOption.any test = true) :
    ∃ reading, result = .ok reading ∧ test reading = true := by
  cases result with
  | error fault => cases found
  | ok reading => exact ⟨reading, rfl, found⟩

theorem open_block_read_append :
    let first := "PRINT 1\n    PRINT 2\n"
    let second := "\n# more\nLET = 3\nPRINT (4\n"
    ∃ one two both, read .standard none first = .ok one ∧ one.diagnostics = [] ∧ one.program.statements.length = 2 ∧
      read .standard (some "second") second = .ok two ∧ two.diagnostics.length = 3 ∧
      two.program.statements.length = 2 ∧ read .standard none (first ++ second) = .ok both ∧
      both.program.statements.map Stmt.bare = (one.program.statements ++ two.program.statements).map Stmt.bare ∧
      both.diagnostics.map (·.issue) = two.diagnostics.map (·.issue) := by
  intro first second
  obtain ⟨one, reads, facts⟩ := read_such (read .standard none first)
    (fun one => one.diagnostics.length == 0 && one.program.statements.length == 2) (by decide +kernel)
  obtain ⟨two, readsOther, others⟩ := read_such (read .standard (some "second") second)
    (fun two => two.diagnostics.length == 3 && two.program.statements.length == 2 &&
      (two.tokens.find? (·.kind != .newline)).all fun token => token.kind != .indent && token.kind != .invalid)
    (by decide +kernel)
  simp only [Bool.and_eq_true, beq_iff_eq, Option.all_eq_true, bne_iff_ne] at facts others
  have quiet := List.length_eq_zero_iff.mp facts.1
  obtain ⟨both, readsBoth, statements, issues⟩ := read_append .standard none (some "second") none first second one two
    (.inr ⟨"PRINT 1\n    PRINT 2", by decide⟩) reads quiet readsOther others.2 (by decide)
  exact ⟨one, two, both, reads, quiet, facts.2, readsOther, others.1.1, others.1.2, readsBoth, statements, issues⟩

end Session

end Fiscal
