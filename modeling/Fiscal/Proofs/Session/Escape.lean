import Fiscal.Proofs.Grammar.Frames
import Fiscal.Proofs.Machine.Faults
import Fiscal.Proofs.Session.States
import Fiscal.Proofs.Token.Calls

set_option autoImplicit false

namespace Fiscal

open Machine

namespace Session

theorem runAll_fails (evaluator : Evaluator) (stmts : List Stmt) (machine : Machine)
    (failure : Failure) :
    (runAll evaluator stmts machine).2.1 = some failure ↔
      ∃ stmt before after, Reaches evaluator stmts machine stmt before ∧
        evaluator.execute stmt before = .error failure after := by
  constructor
  · induction stmts generalizing machine with
    | nil =>
        intro failed
        cases failed
    | cons stmt rest ih =>
        intro failed
        rw [runAll_cons] at failed
        cases ran : evaluator.execute stmt machine with
        | error raised after =>
            rw [ran] at failed
            cases failed
            exact ⟨stmt, machine, after, .here stmt rest machine, ran⟩
        | ok outcome after =>
            rw [ran] at failed
            cases outcome with
            | returned value => cases failed
            | done value =>
                obtain ⟨inner, before, last, reaches, raised⟩ := ih after failed
                exact ⟨inner, before, last,
                  .later stmt rest machine after value inner before ran reaches, raised⟩
  · rintro ⟨stmt, before, after, reaches, raised⟩
    induction reaches with
    | here stmt rest machine =>
        rw [runAll_cons, raised]
    | later first rest machine middle value stmt before ran _ ih =>
        rw [runAll_cons, ran]
        exact ih raised

section Reading

variable {frames : Nat} {settings : Settings} {file : Option String} {source : String}

theorem readWithin_unscanned {fault : Fault}
    (failed : Token.tokenize frames settings.tabWidth settings.currencies file source = .error fault) :
    readWithin frames settings file source = .error fault := by
  rw [readWithin, failed]
  rfl

theorem readWithin_scanned {stream : Token.Stream}
    (scanned : Token.tokenize frames settings.tabWidth settings.currencies file source = .ok stream) :
    readWithin frames settings file source =
      (Grammar.parseWithin frames settings.maxErrors (some (Text.lines source)) stream.tokens).map fun outcome =>
        ⟨stream.tokens, outcome.program, stream.reports ++ outcome.reports⟩ := by
  rw [readWithin, scanned]
  rfl

theorem readWithin_parsed {stream : Token.Stream}
    (scanned : Token.tokenize frames settings.tabWidth settings.currencies file source = .ok stream) :
    Grammar.parseWithin frames settings.maxErrors (some (Text.lines source)) stream.tokens = .error .stackOverflow ∧
        readWithin frames settings file source = .error .stackOverflow ∨
      (∃ outcome, Grammar.parseWithin frames settings.maxErrors (some (Text.lines source)) stream.tokens = .ok outcome) ∧
        readWithin frames settings file source = read settings file source := by
  have whole := Token.scan_of_tokenize scanned
  rw [readWithin_scanned scanned]
  rcases Grammar.parseWithin_cases frames settings.maxErrors (some (Text.lines source))
    (Grammar.scanned_ends whole) with full | same
  · rw [full]
    exact .inl ⟨rfl, rfl⟩
  · rw [same, read, whole]
    exact .inr ⟨⟨_, rfl⟩, rfl⟩

theorem readWithin_cases (frames : Nat) (settings : Settings) (file : Option String) (source : String) :
    readWithin frames settings file source = .error .stackOverflow ∨
      readWithin frames settings file source = read settings file source := by
  cases scanned : Token.tokenize frames settings.tabWidth settings.currencies file source with
  | ok stream => exact (readWithin_parsed scanned).imp And.right And.right
  | error fault =>
      rw [readWithin_unscanned scanned]
      rcases Token.tokenize_cases frames settings.tabWidth settings.currencies file source with full | same
      · cases scanned.symm.trans full
        exact .inl rfl
      · rw [read, ← same, scanned]
        exact .inr rfl

end Reading

section Attempts

variable (frames : Nat) (limits : Limits) (file : Option String) (source : String) (machine : Machine)

-- What has room on the stack is executed as on a host with room for any text.
theorem attempt_cases :
    attempt frames limits file source machine = (.escaped .stackOverflow, machine) ∨
      attempt frames limits file source machine = execute limits file source machine := by
  unfold attempt execute
  rcases readWithin_cases frames machine.settings file source with full | same
  · rw [full]
    exact .inl rfl
  · rw [same]
    exact .inr rfl

end Attempts

end Session

end Fiscal
