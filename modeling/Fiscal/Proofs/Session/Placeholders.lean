import Fiscal.Proofs.Program.Cleared
import Fiscal.Proofs.Session.Made
import Fiscal.Proofs.Translation.Statement
import Fiscal.Proofs.Grammar.Blocks
import Fiscal.Proofs.Session.Composition

set_option autoImplicit false

namespace Fiscal

open Machine

namespace Value

def Stores (known : Block → Prop) : Value → Prop
  | function declared => ∀ inner ∈ Stmt.bodyBlocks declared.body, known inner
  | block body => ∀ inner ∈ Stmt.bodyBlocks body, known inner
  | _ => True

def Known (known : Block → Prop) (value : Value) : Prop := ∀ part, value.Part part → part.Stores known

variable {known : Block → Prop}

theorem known_list (items : List Value) : (list items).Known known ↔ ∀ item ∈ items, item.Known known :=
  throughout_list items trivial

theorem known_object (fields : Named Value) :
    (object fields).Known known ↔ ∀ field ∈ fields, field.2.Known known :=
  throughout_object fields trivial

theorem known_single (value : Value) (single : value.isSingle = true) (stores : value.Stores known) :
    value.Known known :=
  throughout_single single stores

theorem known_simple (value : Value) (simple : value.isSimple = true) : value.Known known := by
  cases value with
  | null | number | text | bool | cashflow | entry | builtin => exact known_single _ rfl trivial
  | list | table | portfolio | ledger | function | lambda | block | object => cases simple

end Value

def Machine.Knowing (known : Block → Prop) (machine : Machine) : Prop :=
  ∀ scope value, machine.scopes.Holds scope value → value.Known known

-- All code that runs is made of known blocks, and so of statements that are each as those of known blocks are.
def Law.knowing (known : Block → Prop) (own : Stmt → Prop)
    (members : ∀ body, known body → ∀ stmt ∈ body.statements, own stmt) : Law :=
  { Law.anything with
    sound := Knowing known
    holds := fun _ value => value.Known known
    stmt := fun stmt => own stmt ∧ ∀ inner ∈ stmt.blocks, known inner
    kept := fun declares machine after knowing moved =>
      ⟨moves_filled declares machine after moved knowing, fun _ holds => holds⟩
    entered := fun machine outer knowing _ => ⟨filled_entering machine outer knowing, fun _ holds => holds⟩
    anywhere := fun _ _ _ holds => holds
    found := fun _ scope value knowing _ holds => knowing scope value holds
    simple := fun _ => Value.known_simple
    list := fun _ => Value.known_list
    object := fun _ => Value.known_object
    table := fun _ _ grid _ _ => Value.known_single (.table grid) rfl trivial
    tableNames := fun _ _ _ => .inr trivial
    portfolio := fun _ _ _ _ built _ => Value.known_single (.portfolio built) rfl trivial
    ledger := fun _ account _ => Value.known_single (.ledger account) rfl trivial
    lambda := fun _ _ _ _ _ _ _ _ => Value.known_single (.lambda _) rfl trivial
    function := fun _ _ _ _ _ _ _ _ code => Value.known_single (.function _) rfl code.2
    block := fun _ _ _ body code => Value.known_single (.block body) rfl code.2
    lambdaBody := fun _ _ _ => trivial
    functionBody := fun _ declared holds inner member =>
      have blocks := holds (.function declared) (.self _)
      ⟨members declared.body (blocks _ (Stmt.bodyBlocks_self _)) inner member, fun _ within =>
        blocks _ (Stmt.bodyBlocks_inner member within)⟩
    blockBody := fun _ body holds inner member =>
      have blocks := holds (.block body) (.self _)
      ⟨members body (blocks _ (Stmt.bodyBlocks_self _)) inner member, fun _ within =>
        blocks _ (Stmt.bodyBlocks_inner member within)⟩
    children := fun _ _ _ _ => trivial
    expressions := fun _ _ _ _ => trivial
    statements := fun _ code inner member =>
      have ⟨body, among, within⟩ := Stmt.statements_blocks member
      ⟨members body (code.2 body among) inner within, fun _ deeper => code.2 _ (Stmt.blocks_inner member deeper)⟩
    atStmt := fun _ _ _ => trivial
    atHolding := fun _ _ _ _ _ _ _ => trivial }

namespace Scope

def cleared (scope : Scope Value) : Scope Value :=
  { scope with bindings := scope.bindings.map fun binding => (binding.1, binding.2.cleared) }

end Scope

namespace Machine

theorem cleared_access (machine : Machine) (scope : Nat) :
    machine.cleared.scopes[scope]? = machine.scopes[scope]?.map Scope.cleared :=
  Array.getElem?_map

theorem chain_cleared (machine : Machine) (scope : Nat) :
    machine.cleared.scopes.chain scope = machine.scopes.chain scope := by
  unfold Scopes.chain
  generalize scope + 1 = steps
  induction steps generalizing scope with
  | zero => rfl
  | succ steps ih =>
      rw [Scopes.chainFrom, Scopes.chainFrom, cleared_access]
      cases machine.scopes[scope]? with
      | none => rfl
      | some found =>
          cases parent : found.parent with
          | none => simp [Scope.cleared, parent]
          | some outer => simp [Scope.cleared, parent, ih outer]

theorem cleared_binding (machine : Machine) (scope : Nat) (name : String) (value : Value) :
    (machine.binding scope name value).cleared = machine.cleared.binding scope name value.cleared := by
  have scopes : (machine.scopes.define scope name value).map Scope.cleared =
      Scopes.define (machine.scopes.map Scope.cleared) scope name value.cleared := by
    refine Array.ext_getElem? fun other => ?_
    unfold Scopes.define
    rw [Array.getElem?_map, Array.getElem?_modify, Array.getElem?_modify, Array.getElem?_map]
    by_cases here : scope = other
    · rw [if_pos here, if_pos here]
      cases machine.scopes[other]? with
      | none => rfl
      | some found =>
          refine congrArg some ?_
          rw [Scope.cleared, ← Named.put_map]
          rfl
    · rw [if_neg here, if_neg here]
  exact congrArg (fun scopes => ({ machine with scopes := scopes } : Machine)) scopes

theorem cleared_entering (machine : Machine) (outer : Nat) :
    (machine.entering outer).cleared = machine.cleared.entering outer := by
  have scopes : (machine.scopes.enter outer).map Scope.cleared =
      Scopes.enter (machine.scopes.map Scope.cleared) outer := Array.map_push
  have size : machine.cleared.scopes.size = machine.scopes.size := Array.size_map
  unfold entering
  rw [size]
  exact congrArg (fun scopes => ({ machine with scopes := scopes, current := machine.scopes.size } : Machine)) scopes

end Machine

-- Bodies of known blocks are equal only if they are the same, since their spans tell them apart.
theorem same_known {known : Block → Prop}
    (apart : ∀ first second, known first → known second → first.span = second.span → first = second)
    (first second : Block) (one : known first) (other : known second) :
    (Stmt.bodyOutline (Stmt.clearedBody first)).same (Stmt.bodyOutline (Stmt.clearedBody second)) =
      (Stmt.bodyOutline first).same (Stmt.bodyOutline second) := by
  by_cases same : first.span = second.span
  · rw [apart first second one other same]
    exact Stmt.same_clearedBody second
  · rw [Stmt.same_outline_span same, Stmt.same_outline_span]
    rwa [Stmt.clearedBody_span, Stmt.clearedBody_span]

def Translation.clearing (known : Block → Prop)
    (apart : ∀ first second, known first → known second → first.span = second.span → first = second) :
    Translation where
  law := .knowing known (fun _ => True) fun _ _ _ _ => trivial
  omits := True
  scopes := id
  ledgers := id
  functions := id
  body := Stmt.clearedBody
  value := Value.cleared
  Pairs machine twin := twin = machine.cleared
  fails _ := trivial
  code _ := trivial
  loose := trivial
  simple plain simple := by
    cases plain with
    | null | number | text | bool | cashflow | entry | builtin => rfl
    | list | table | portfolio | ledger | function | lambda | block | object => cases simple
  table _ := rfl
  portfolio _ := rfl
  list items := congrArg Value.list (Value.clearedAll_eq items)
  object fields := congrArg Value.object (Value.clearedNamed_eq fields)
  ledger _ := rfl
  function _ := rfl
  lambda _ := rfl
  block _ := rfl
  apart := Function.injective_id
  spans := Stmt.clearedBody_span
  rewritten := Stmt.clearedBody_rewritten
  bodies _ first second one other :=
    same_known apart first second (one _ (.self _) first (Stmt.bodyBlocks_self first))
      (other _ (.self _) second (Stmt.bodyBlocks_self second))
  current := by
    rintro machine _ rfl
    rfl
  entries := by
    rintro machine _ rfl account
    rfl
  given := by
    rintro machine _ rfl
    exact ⟨rfl, rfl, rfl⟩
  found := by
    rintro machine _ scope _ rfl _
    simp only [id_eq, Machine.cleared_access, Option.map_id_fun]
    rfl
  chain := by
    rintro machine _ scope _ rfl _
    rw [List.map_id]
    exact Machine.chain_cleared machine scope
  bound := by
    rintro machine _ owner name held _ rfl _ _
    exact (Machine.cleared_binding machine owner name held).symm
  entered := by
    rintro machine _ outer _ rfl _
    exact (Machine.cleared_entering machine outer).symm
  returned := by
    rintro machine _ inner _ rfl rfl
    rfl
  written := by
    rintro machine _ line rfl
    rfl
  counted := by
    rintro machine _ rfl
    exact ⟨rfl, rfl⟩
  opened := by
    rintro machine _ rfl
    exact ⟨rfl, rfl⟩
  posted := by
    rintro machine _ account entry rfl
    rfl
  stored := by
    rintro machine _ files rfl
    rfl

-- The evaluator of a depth that passes over placeholders even where no depth is left.
def Evaluator.patient (rounds : Nat) : Nat → Evaluator
  | 0 => { exhausted with execute := fun stmt => if stmt.isInvalid then return .nothing else throw .tooDeep }
  | depth + 1 => (patient rounds depth).deepen rounds

theorem Translation.Parts.patient (move : Translation) (rounds depth : Nat) : move.Parts (.patient rounds depth) := by
  induction depth with
  | zero =>
      refine ⟨fun _ _ _ => rfl, fun _ _ _ => .throw _, fun stmt _ _ _ => ?_, fun _ _ _ _ _ _ _ => .throw _⟩
      cases stmt with
      | invalid => exact Agrees.nothing
      | _ => exact .throw _
  | succ depth ih => exact ih.deepen rounds

theorem deepening_patient (rounds depth : Nat) :
    Law.deepening.Parts (.ofDepth rounds depth) (.patient rounds depth) := by
  induction depth with
  | zero => exact deepening_exhausted _
  | succ depth ih => exact deepening_deepen ih rounds

theorem patient_deepening (rounds depth : Nat) :
    Law.deepening.Parts (.patient rounds depth) (.ofDepth rounds (depth + 1)) := by
  induction depth with
  | zero =>
      refine ⟨fun _ _ _ => deepening_throws, fun stmt _ _ => ?_, fun _ _ _ _ _ _ => deepening_throws⟩
      cases stmt with
      | invalid => exact .pure _ fun _ => trivial
      | _ => exact deepening_throws
  | succ depth ih => exact deepening_deepen ih rounds

def Law.unbroken : Law :=
  .knowing (fun body => ∀ stmt ∈ body.statements, stmt.isInvalid = false) (fun stmt => stmt.isInvalid = false)
    fun _ whole => whole

theorem unbroken_patient (rounds depth : Nat) :
    Law.unbroken.Parts (.ofDepth rounds depth) (.patient rounds depth) := by
  induction depth with
  | zero =>
      refine ⟨fun _ _ _ => .throw _ trivial, fun stmt _ code => ?_, fun _ _ _ _ _ _ => .throw _ trivial⟩
      have same : (Evaluator.patient rounds 0).execute stmt = throw .tooDeep := if_neg (by simp [code.1])
      rw [same]
      exact .throw _ trivial
  | succ depth ih => exact ih.deepen rounds (fun _ _ stopped => stopped) fun _ => trivial

namespace Session

def remaining : List Stmt → List Value → List Value
  | stmt :: rest, result :: results =>
      if stmt.isInvalid then remaining rest results else result :: remaining rest results
  | _, _ => []

theorem blocks_apart {settings : Settings} {file : Option String} {source : String} {reading : Reading}
    (parsed : read settings file source = .ok reading) (first second : Block)
    (one : first ∈ Stmt.blocksAll reading.program.statements)
    (other : second ∈ Stmt.blocksAll reading.program.statements) (same : first.span = second.span) :
    first = second := by
  obtain ⟨stream, scanned, rfl⟩ := read_cases.mp parsed
  have distinct := (Grammar.parse_blocks settings.maxErrors (some (Text.lines source)) stream.tokens
    (Grammar.scanned_ends scanned)).nodup (Token.indentStarts_nodup _ _ file source stream scanned)
  exact List.inj_on_of_nodup_map distinct one other (congrArg Source.Span.start same)

section Run

theorem runAll_agrees {law : Law} {parts other : Evaluator} (keeps : law.Parts parts other) (stmts : List Stmt)
    (code : ∀ stmt ∈ stmts, law.stmt stmt) (machine : Machine) (sound : law.sound machine) :
    runAll other stmts machine = runAll parts stmts machine ∨
      ∃ failure, law.stops failure ∧ (runAll parts stmts machine).2.1 = some failure := by
  induction stmts generalizing machine with
  | nil => exact .inl rfl
  | cons stmt rest ih =>
      obtain ⟨own, others⟩ := List.forall_mem_cons.mp code
      have follows := keeps.execute stmt machine own
      have ends := follows.declared.ends sound
      rw [runAll_cons, runAll_cons]
      rcases follows.agrees sound with same | stopped
      · rw [← same]
        cases ran : parts.execute stmt machine with
        | error failure after => exact .inl rfl
        | ok outcome after =>
            rw [ran] at ends
            cases outcome with
            | returned value => exact .inl rfl
            | done value =>
                rcases ih others after (law.kept true machine after sound ends.1).1 with alike | late
                · exact .inl (by dsimp only; rw [alike])
                · exact .inr late
      · cases ran : parts.execute stmt machine with
        | error failure after =>
            rw [ran] at stopped
            exact .inr ⟨failure, stopped, rfl⟩
        | ok outcome after =>
            rw [ran] at stopped
            exact stopped.elim

theorem deepened {parts other : Evaluator} (keeps : Law.deepening.Parts parts other) {stmts : List Stmt}
    {machine : Machine} (enough : (runAll parts stmts machine).2.1 ≠ some .tooDeep) :
    runAll other stmts machine = runAll parts stmts machine := by
  rcases runAll_agrees keeps stmts (fun _ _ => trivial) machine trivial with same | ⟨failure, stopped, failed⟩
  · exact same
  · exact absurd (failed.trans (congrArg some stopped)) enough

theorem runAll_deeper {rounds depth more : Nat} (deeper : depth ≤ more) {stmts : List Stmt} {machine : Machine}
    (enough : (runAll (.ofDepth rounds depth) stmts machine).2.1 ≠ some .tooDeep) :
    runAll (.ofDepth rounds more) stmts machine = runAll (.ofDepth rounds depth) stmts machine := by
  induction deeper with
  | refl => rfl
  | @step more _ ih =>
      rw [← ih] at enough ⊢
      exact deepened (deepening_parts rounds more) enough

variable {known : Block → Prop}
  (apart : ∀ first second, known first → known second → first.span = second.span → first = second)

include apart

theorem runAll_cleared {parts : Evaluator} (keeps : (Translation.clearing known apart).Parts parts)
    (stmts : List Stmt) (blocks : ∀ inner ∈ Stmt.blocksAll stmts, known inner)
    (machine : Machine) (knowing : machine.Knowing known) :
    let run := runAll parts stmts machine
    runAll parts (Stmt.clearedAll stmts) machine.cleared =
      ((remaining stmts run.1).map Value.cleared, run.2.1, run.2.2.cleared) := by
  induction stmts generalizing machine with
  | nil => rfl
  | cons stmt rest ih =>
      obtain ⟨own, others⟩ := List.forall_mem_append.mp blocks
      dsimp only at ih ⊢
      rw [Stmt.clearedAll, runAll_cons]
      by_cases placeholder : stmt.isInvalid = true
      · rw [if_pos placeholder, ih others machine knowing]
        cases stmt with
        | invalid span message =>
            rw [keeps.invalid span message trivial]
            rfl
        | _ => cases placeholder
      · have ends := keeps.execute stmt machine machine.cleared ⟨trivial, own⟩ knowing rfl
        have counted (results : List Value) (result : Value) :
            remaining (stmt :: rest) (result :: results) = result :: remaining rest results :=
          if_neg placeholder
        rw [if_neg placeholder, runAll_cons, Stmt.cleared_eq]
        change (Translation.clearing known apart).Ends _ _ machine _
          (Evaluator.execute _ (stmt.onBodies Stmt.clearedBody) machine.cleared) at ends
        generalize Evaluator.execute _ stmt machine = ran at ends
        generalize Evaluator.execute _ (stmt.onBodies Stmt.clearedBody) machine.cleared = other at ends
        cases ends with
        | error failure after twin pairs =>
            cases pairs
            rfl
        | ok outcome after twin moved proper pairs =>
            cases pairs
            have later := ((Translation.clearing known apart).law.kept true machine after knowing moved).1
            cases outcome with
            | returned value =>
                dsimp only
                rw [counted]
                cases rest <;> rfl
            | done value =>
                dsimp only [Translation.outcome]
                rw [counted, ih others after later]
                rfl

end Run

theorem start_knowing (known : Block → Prop) (settings : Settings) (files : Files) (today : String) :
    (start settings files today).Knowing known :=
  start_filled settings files today fun _ => trivial

theorem start_cleared (settings : Settings) (files : Files) (today : String) :
    (start settings files today).cleared = start settings files today := by
  simp [start, Machine.cleared, Scopes.global, Value.cleared]

-- How a run ends without the placeholders of its program: the same lines are written, the same failure comes
-- out at the same place, and the same machine is left, but for placeholders in the bodies that are stored.
structure Inert (stmts : List Stmt) (run other : List Value × Option Failure × Machine) : Prop where
  output : other.2.2.output = run.2.2.output
  failure : other.2.1 = run.2.1
  results : other.1 = (remaining stmts run.1).map Value.cleared
  globals : other.2.2.scopes[0]? = run.2.2.scopes[0]?.map Scope.cleared
  machine : other.2.2 = run.2.2.cleared

-- Where the depth is enough for a program on a fresh machine, its placeholders are inert. Each of them takes a
-- level as every statement does: with one more, what is enough without them is enough with them.
theorem placeholders_inert (rounds : Nat) (settings : Settings) (files : Files) (today : String)
    (file : Option String) (source : String) (reading : Reading)
    (parsed : read settings file source = .ok reading) :
    let fresh := ready source (.start settings files today)
    let run depth := runAll (.ofDepth rounds depth) reading.program.statements fresh
    let other depth := runAll (.ofDepth rounds depth) (Stmt.clearedAll reading.program.statements) fresh
    ∀ depth,
      ((run depth).2.1 ≠ some .tooDeep → Inert reading.program.statements (run depth) (other depth)) ∧
      ((other depth).2.1 ≠ some .tooDeep → ∀ more > depth, (run more).2.1 ≠ some .tooDeep) := by
  intro fresh run other depth
  let stmts := reading.program.statements
  let tried := runAll (.patient rounds depth) stmts fresh
  have started : fresh.cleared = fresh := congrArg (ready source) (start_cleared settings files today)
  have cleared : runAll (.patient rounds depth) (Stmt.clearedAll stmts) fresh =
      ((remaining stmts tried.1).map Value.cleared, tried.2.1, tried.2.2.cleared) := by
    have same := runAll_cleared (blocks_apart parsed) (.patient _ rounds depth) stmts (fun _ => id) fresh
      (start_knowing _ settings files today)
    rwa [started] at same
  have without : runAll (.patient rounds depth) (Stmt.clearedAll stmts) fresh = other depth := by
    rcases runAll_agrees (unbroken_patient rounds depth) (Stmt.clearedAll stmts) (Stmt.clearedAll_unbroken stmts) fresh
      (start_knowing _ settings files today) with same | ⟨_, stopped, _⟩
    · exact same
    · exact stopped.elim
  rw [without] at cleared
  constructor
  · intro enough
    have same : tried = run depth := deepened (deepening_patient rounds depth) enough
    rw [cleared, same]
    exact ⟨rfl, rfl, rfl, cleared_access (run depth).2.2 0, rfl⟩
  · intro enough more deeper
    rw [cleared] at enough
    have same : run (depth + 1) = tried := deepened (patient_deepening rounds depth) enough
    rw [← same] at enough
    have further : run more = run (depth + 1) := runAll_deeper deeper enough
    rwa [further]

theorem placeholders_at_every_depth_inert :
    let source := "LET = 1\nSCENARIO bad\n    PRINT )\n    LET result = 'a'\nEND\nFUNCTION f(x)\n    SET\n" ++
      "    RETURN x\nEND\nIF true THEN\n    LET 5\nELSE\n    RUN\nEND\nPRINT f('b')\n"
    let fresh := ready source (.start .standard ⟨[]⟩ "2024-02-29")
    let sizes (stmts : List Stmt) := (Stmt.blocksAll stmts).map fun block => block.statements.length
    ∃ reading, read .standard none source = .ok reading ∧
      let stmts := reading.program.statements
      let run := runAll (.ofDepth 50 50) stmts fresh
      let other := runAll (.ofDepth 50 50) (Stmt.clearedAll stmts) fresh
      stmts.length = 5 ∧ sizes stmts = [2, 2, 1, 1] ∧
        (Stmt.clearedAll stmts).length = 4 ∧ sizes (Stmt.clearedAll stmts) = [1, 1, 0, 0] ∧
        run.2.2.output = ["b"] ∧ Inert stmts run other := by
  intro source fresh sizes
  obtain ⟨reading, parsed, facts⟩ := read_such (read .standard none source)
    (fun reading =>
      let stmts := reading.program.statements
      let run := runAll (.ofDepth 50 50) stmts fresh
      stmts.length == 5 && sizes stmts == [2, 2, 1, 1] && (Stmt.clearedAll stmts).length == 4 &&
        sizes (Stmt.clearedAll stmts) == [1, 1, 0, 0] && run.2.2.output == ["b"] && run.2.1.isNone) (by decide +kernel)
  simp only [Bool.and_eq_true, beq_iff_eq] at facts
  obtain ⟨⟨⟨⟨⟨count, blocks⟩, fewer⟩, smaller⟩, output⟩, ended⟩ := facts
  refine ⟨reading, parsed, count, blocks, fewer, smaller, output, ?_⟩
  refine (placeholders_inert 50 .standard ⟨[]⟩ "2024-02-29" none source reading parsed 50).1 fun deep => ?_
  rw [deep] at ended
  cases ended

end Session

end Fiscal
