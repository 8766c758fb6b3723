import Fiscal.Proofs.Grammar.MeasureRules
import Fiscal.Proofs.Token.Append
import Fiscal.Session
import Mathlib.Algebra.Ring.Int.Defs

set_option autoImplicit false

namespace Fiscal.Token

def memberNames : List TokenKind → List TokenKind
  | .dot :: name :: rest => name :: memberNames rest
  | _ :: rest => memberNames rest
  | [] => []

def surplus (before : TokenKind) : List TokenKind → Int
  | .dot :: name :: rest => surplus name rest
  | kind :: rest => blockChange (some before) kind + surplus kind rest
  | [] => 0

theorem plain_change {kind : TokenKind} (plain : isPlain kind = true) (before : Option TokenKind) :
    blockChange before kind = 0 := by
  simp only [isPlain, Bool.and_eq_true, Bool.not_eq_true', bne_iff_ne, ne_eq] at plain
  simp [blockChange, plain.1.1.1, plain.1.1.2]

theorem surplus_cons (before kind : TokenKind) (rest : List TokenKind) (other : kind ≠ .dot) :
    surplus before (kind :: rest) = blockChange (some before) kind + surplus kind rest := by
  rw [surplus]
  intro _ _ point
  exact absurd point other

theorem blockBalance_eq (before : TokenKind) (kinds : List TokenKind) :
    blockBalance (some before) kinds =
      surplus before kinds + ((memberNames kinds).map (blockChange none)).sum := by
  fun_induction surplus before kinds with
  | case1 before name rest ih =>
      have alone : blockChange (some .dot) name = blockChange none name := by cases name <;> rfl
      have point : blockChange (some before) .dot = 0 := rfl
      rw [blockBalance, blockBalance, ih, point, alone, memberNames, List.map_cons, List.sum_cons]
      omega
  | case2 before kind rest other ih =>
      rw [blockBalance, ih, memberNames]
      · omega
      · exact other
  | case3 => rfl

end Fiscal.Token

namespace Fiscal.Grammar

open Token (Bracket blockChange opensBlock)

def Measure.surplus : Measure Int where
  ahead := Token.surplus
  change before kind amount := blockChange (some before) kind + amount
  opened amount := 1 + amount
  closed amount := -1 + amount
  entered _ := id
  left _ := id
  cons := Token.surplus_cons
  member _ _ _ _ := rfl
  plain before kind plain := funext fun amount => by
    rw [Token.plain_change plain, Int.zero_add]
    rfl
  chained := funext fun amount => Int.zero_add amount
  opens before kind opens fresh := funext fun amount => by
    have first : (kind == .ifKeyword && some before == some .elseKeyword) = false := by
      refine Bool.eq_false_iff.mpr fun found => ?_
      simp only [Bool.and_eq_true, beq_iff_eq, Option.some.injEq] at found
      exact fresh found.1 found.2
    rw [blockChange, opens, first]
    rfl
  closes _ := rfl
  enters before bracket := funext fun amount => by cases bracket <;> exact Int.zero_add amount
  leaves before bracket := funext fun amount => by cases bracket <;> exact Int.zero_add amount
  block amount := by omega
  group _ _ := rfl

theorem blockBalance_first (kind : TokenKind) (rest : List TokenKind) :
    Token.blockBalance none (kind :: rest) = Token.blockBalance (some kind) (kind :: rest) := by
  have same : Token.blockChange none kind = Token.blockChange (some kind) kind := by cases kind <;> rfl
  rw [Token.blockBalance, Token.blockBalance, same]

-- Read to its end and with nothing to report, a list of tokens closes the blocks it opens; but the name of
-- a member may look like the start or the end of one.
theorem quiet_parse_balance (maxErrors : Int) (lines : Option (List String)) (tokens : List Token)
    (ends : EndsOnce tokens) (worded : Token.Worded tokens) (positive : 0 < maxErrors)
    (quiet : (parse maxErrors lines tokens).reports = []) :
    Token.blockBalance none (tokens.map (·.kind)) =
      ((Token.memberNames (tokens.map (·.kind))).map (Token.blockChange none)).sum := by
  obtain ⟨first, rest, before, rfl, even⟩ :=
    quiet_parse_even .surplus maxErrors lines tokens ends worded positive quiet
  have none : Token.surplus first.kind ((first :: rest).map (·.kind)) = 0 := even
  rw [List.map_cons, blockBalance_first, Token.blockBalance_eq, ← List.map_cons, none, Int.zero_add]

end Fiscal.Grammar

namespace Fiscal

namespace Token

theorem names_balance (names : List TokenKind) :
    (names.map (blockChange none)).sum = (names.countP opensBlock : Int) - names.countP (· == .endKeyword) := by
  induction names with
  | nil => rfl
  | cons name rest ih =>
      have one : blockChange none name =
          (if opensBlock name = true then 1 else 0) - (if (name == .endKeyword) = true then 1 else 0) := by
        cases name <;> rfl
      rw [List.map_cons, List.sum_cons, ih, List.countP_cons, List.countP_cons, one]
      split <;> split <;> omega

theorem openBlocks_quiet (stream : Stream) (quiet : stream.reports = []) :
    stream.openBlocks = blockBalance none (stream.tokens.map (·.kind)) := by
  unfold Stream.openBlocks
  rw [quiet, List.filter_nil, List.length_nil]
  exact Int.add_zero _

end Token

open Token (memberNames opensBlock)

theorem open_blocks_of_quiet_text (file : Option String) (source : String) (reading : Session.Reading)
    (read : Session.read .standard file source = .ok reading) (quiet : reading.diagnostics = []) :
    let names := memberNames (reading.tokens.map (·.kind))
    Token.openBlocks source = .ok ((names.countP opensBlock : Int) - names.countP (· == .endKeyword)) := by
  cases scanned : Token.scan 4 [] file source with
  | error fault =>
      rw [Session.read, show Token.scan Settings.standard.tabWidth Settings.standard.currencies file source =
        .error fault from scanned] at read
      cases read
  | ok stream =>
      rw [Session.read, show Token.scan Settings.standard.tabWidth Settings.standard.currencies file source =
        .ok stream from scanned] at read
      cases read
      obtain ⟨silent, parsed⟩ := List.append_eq_nil_iff.mp quiet
      obtain ⟨same, again, bare, issues⟩ :
          ∃ same, Token.scan 4 [] none source = .ok same ∧
            same.tokens.map Token.bare = stream.tokens.map Token.bare ∧
            same.reports.map (·.issue) = stream.reports.map (·.issue) := Token.scan_elsewhere scanned
      have kinds : same.tokens.map (·.kind) = stream.tokens.map (·.kind) := by
        have both := congrArg (List.map (·.kind)) bare
        rwa [List.map_map, List.map_map] at both
      have still : same.reports = [] := by
        rw [silent] at issues
        exact List.map_eq_nil_iff.mp issues
      have balance := Grammar.quiet_parse_balance 20 _ _ (Grammar.scanned_ends scanned)
        (Token.scanned_worded scanned) (by decide) parsed
      dsimp only
      rw [Token.openBlocks, again]
      change Except.ok same.openBlocks = _
      rw [Token.openBlocks_quiet same still, kinds, balance, Token.names_balance]

theorem member_called_if_waits :
    ∃ reading, Session.read .standard none "x.if" = .ok reading ∧ reading.diagnostics = [] ∧
      Token.openBlocks "x.if" = .ok 1 := by
  have found : (Session.read .standard none "x.if").toOption.any (fun reading =>
      reading.diagnostics.isEmpty && reading.tokens.map (·.kind) ==
        [.identifier, .dot, .ifKeyword, .newline, .endOfFile]) = true := by decide +kernel
  cases read : Session.read .standard none "x.if" with
  | error fault =>
      rw [read] at found
      cases found
  | ok reading =>
      rw [read] at found
      simp only [Except.toOption, Option.any_some, Bool.and_eq_true, List.isEmpty_iff, beq_iff_eq] at found
      have depth := open_blocks_of_quiet_text none "x.if" reading read found.1
      rw [found.2] at depth
      exact ⟨reading, rfl, found.1, depth⟩

end Fiscal
