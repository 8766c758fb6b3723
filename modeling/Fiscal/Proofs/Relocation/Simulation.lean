import Fiscal.Proofs.Machine.Moves
import Fiscal.Proofs.Relocation.Pairs
import Fiscal.Proofs.Relocation.Settled
import Fiscal.Proofs.Scope.Binding
import Fiscal.Proofs.Translation.Statement

set_option autoImplicit false

namespace Fiscal

open Machine

namespace Machine

-- What there was before is as it was.
structure Undisturbed (before after : Machine) : Prop where
  scopes : ∀ scope < before.scopes.size, after.scopes[scope]? = before.scopes[scope]?
  ledgers : ∀ account < before.ledgers.size, after.ledgers[account]? = before.ledgers[account]?
  files : after.files = before.files

structure Resumes (ready later : Machine) : Prop where
  grown : ready.Grown later
  undisturbed : ready.Undisturbed later
  current : later.current = ready.current
  settings : later.settings = ready.settings
  today : later.today = ready.today

def beginning (machine : Machine) (step : Float) (run : Nat) : Machine :=
  ((machine.entering machine.current).binding machine.scopes.size "iteration" (.number (Number.ofNat run))).binding
    machine.scopes.size "elapsed" (.number (Number.ofNat run * step))

namespace Undisturbed

variable {first middle last : Machine}

theorem refl (machine : Machine) : machine.Undisturbed machine :=
  ⟨fun _ _ => rfl, fun _ _ => rfl, rfl⟩

theorem trans (before : first.Undisturbed middle) (grown : first.Grown middle) (after : middle.Undisturbed last) :
    first.Undisturbed last where
  scopes scope old := (after.scopes scope (Nat.lt_of_lt_of_le old grown.scopes)).trans (before.scopes scope old)
  ledgers account old :=
    (after.ledgers account (Nat.lt_of_lt_of_le old grown.ledgers)).trans (before.ledgers account old)
  files := after.files.trans before.files

theorem entering (machine : Machine) (outer : Nat) : machine.Undisturbed (machine.entering outer) :=
  ⟨fun scope old => Scopes.access_enter machine.scopes outer scope old, fun _ _ => rfl, rfl⟩

theorem returning (undisturbed : first.Undisturbed last) (scope : Nat) : first.Undisturbed (last.returning scope) :=
  ⟨undisturbed.scopes, undisturbed.ledgers, undisturbed.files⟩

theorem binding (undisturbed : first.Undisturbed last) {scope : Nat} (new : first.scopes.size ≤ scope) (name : String)
    (value : Value) : first.Undisturbed (last.binding scope name value) where
  scopes other old := by
    have apart : other ≠ scope := Nat.ne_of_lt (Nat.lt_of_lt_of_le old new)
    rw [Machine.binding, Scopes.access_define _ _ _ _ _ apart]
    exact undisturbed.scopes other old
  ledgers := undisturbed.ledgers
  files := undisturbed.files

end Undisturbed

namespace Resumes

variable {first middle last : Machine}

theorem refl (machine : Machine) : machine.Resumes machine :=
  ⟨⟨Nat.le_refl _, Nat.le_refl _, Nat.le_refl _⟩, .refl machine, rfl, rfl, rfl⟩

theorem trans (before : first.Resumes middle) (after : middle.Resumes last) : first.Resumes last :=
  ⟨before.grown.trans after.grown, before.undisturbed.trans before.grown after.undisturbed,
    after.current.trans before.current, after.settings.trans before.settings, after.today.trans before.today⟩

end Resumes

end Machine

namespace Relocation

variable {ready later after : Machine}

def between (ready later : Machine) : Relocation := ⟨ready, later, fun _ => True⟩

-- What a run has opened on the first machine is found on another one under other numbers.
structure Lands (move : Relocation) (alone after : Machine) : Prop where
  scopes : ∀ scope, move.first.scopes.size ≤ scope → scope < alone.scopes.size →
    after.scopes[move.scopes.place scope]? = alone.scopes[scope]?.map move.scope
  ledgers : ∀ account < alone.ledgers.size, after.ledgers[move.ledgers.place account]? = alone.ledgers[account]?

theorem between_sound (rooted : ready.Rooted) : (between ready later).Sound ready where
  grown := Nat.le_refl _
  current := ⟨rooted.current, fun _ => trivial⟩
  outward inner outer _ inside := ⟨rooted.tree.older inner outer inside, fun _ => trivial⟩
  bound scope value _ holds other captures := ⟨rooted.bound scope value holds other captures, fun _ => trivial⟩

theorem between_scope (rooted : ready.Rooted) (settled : ready.Settled) {scope : Nat} {found : Scope Value}
    (access : ready.scopes[scope]? = some found) : (between ready later).scope found = found := by
  obtain ⟨bindings, parent⟩ := found
  have bound : (between ready later).named bindings = bindings := by
    have each : bindings.map (fun binding => (binding.1, (between ready later).value binding.2)) = bindings.map id := by
      refine List.map_congr_left fun binding member => congrArg (binding.1, ·) ?_
      have holds : ready.scopes.Holds scope binding.2 := ⟨_, binding.1, access, member⟩
      exact settled.bound scope binding.2 holds _ ⟨Nat.le_refl _, Nat.le_refl _, Nat.le_refl _⟩
    rw [named_eq, each, List.map_id]
  rw [Relocation.scope, bound]
  cases parent with
  | none => rfl
  | some outer =>
      have inside : ready.scopes.Inside scope outer := by
        rw [Scopes.Inside, access]
        rfl
      have known : scope < ready.scopes.size := (Array.getElem?_eq_some_iff.mp access).1
      have older := rooted.tree.older scope outer inside
      exact congrArg (Scope.mk bindings) (congrArg some (Shift.place_old _ (Nat.lt_trans older known)))

theorem between_pairs (rooted : ready.Rooted) (settled : ready.Settled) (resumes : ready.Resumes later) :
    (between ready later).Pairs ready later where
  scopes := by
    have size : later.scopes.size = ready.scopes.size + (between ready later).scopes.gap :=
      (Nat.add_sub_cancel' resumes.grown.scopes).symm
    refine ⟨fun scope _ => ?_, size, Nat.le_refl _, fun _ _ => rfl, fun _ _ _ => rfl⟩
    by_cases old : scope < ready.scopes.size
    · rw [Shift.place_old _ old, resumes.undisturbed.scopes scope old]
      cases access : ready.scopes[scope]? with
      | none => rfl
      | some found => exact congrArg some (between_scope rooted settled access).symm
    · have new := Nat.le_of_not_lt old
      rw [Shift.place_new _ new, Array.getElem?_eq_none new]
      exact Array.getElem?_eq_none (by omega)
  current := by
    rw [Shift.place_old _ rooted.current]
    exact resumes.current
  ledgers := by
    have size : later.ledgers.size = ready.ledgers.size + (between ready later).ledgers.gap :=
      (Nat.add_sub_cancel' resumes.grown.ledgers).symm
    refine ⟨fun account => ?_, size, Nat.le_refl _, fun _ _ _ => rfl⟩
    by_cases old : account < ready.ledgers.size
    · rw [Shift.place_old _ old]
      exact resumes.undisturbed.ledgers account old
    · have new := Nat.le_of_not_lt old
      rw [Shift.place_new _ new, Array.getElem?_eq_none new]
      exact Array.getElem?_eq_none (by omega)
  counted := Nat.le_refl _
  functions := (Nat.add_sub_cancel' resumes.grown.functions).symm
  output := ⟨[], rfl, rfl⟩
  files := resumes.undisturbed.files
  settings := resumes.settings
  today := resumes.today

-- A run that leaves what there was before all runs as it was leaves what the earlier runs have opened, too.
theorem between_undisturbed {alone next : Machine} (pairs : (between ready later).Pairs alone next)
    (earlier : ready.Undisturbed later) (now : ready.Undisturbed next) : later.Undisturbed next where
  scopes scope known := by
    by_cases old : scope < ready.scopes.size
    · rw [now.scopes scope old, earlier.scopes scope old]
    · exact pairs.scopes.left scope known fun seen _ => Shift.apart (Nat.le_of_not_lt old) known seen
  ledgers account known := by
    by_cases old : account < ready.ledgers.size
    · rw [now.ledgers account old, earlier.ledgers account old]
    · exact pairs.ledgers.left account (Nat.le_of_not_lt old) known
  files := now.files.trans earlier.files.symm

theorem Pairs.lands {move : Relocation} {alone next : Machine} (pairs : move.Pairs alone next)
    (undisturbed : next.Undisturbed after) : move.Lands alone after where
  scopes scope new known := by
    have placed : move.scopes.place scope < next.scopes.size := by
      rw [Shift.place_new _ new, pairs.scopes.size]
      omega
    rw [undisturbed.scopes _ placed]
    exact pairs.scopes.found scope (sees_new new)
  ledgers account known := by
    have placed : move.ledgers.place account < next.ledgers.size := by
      rw [← pairs.ledgers.fresh]
      exact move.ledgers.place_lt known
    rw [undisturbed.ledgers _ placed]
    exact pairs.ledgers.found account

theorem Lands.binding {move : Relocation} {alone : Machine} (lands : move.Lands alone after) {scope : Nat}
    (old : scope < move.first.scopes.size) (name : String) (value : Value) :
    move.Lands alone (after.binding scope name value) where
  scopes other new known := by
    have apart : move.scopes.place other ≠ scope :=
      Nat.ne_of_gt (Nat.lt_of_lt_of_le old (Nat.le_trans new (move.scopes.place_le other)))
    refine (Scopes.access_define _ _ _ _ _ apart).trans ?_
    exact lands.scopes other new known
  ledgers := lands.ledgers

end Relocation

open Relocation

section Runs

variable {rounds depth : Nat} {body : Block} {step : Float} {machine after : Machine} {value : Value}

theorem executeAll_current {stmts : List Stmt} {outcome : Outcome}
    (ran : (Evaluator.ofDepth rounds depth).executeAll stmts machine = .ok outcome after) :
    after.current = machine.current :=
  follows_current (Law.Follows.executeAll (keeps_anything rounds depth) stmts fun _ _ => trivial) ran

theorem simulationRun_ok_iff (run : Nat) :
    simulationRun (.ofDepth rounds depth) body step run machine = .ok value after ↔
      ∃ outcome inner, (Evaluator.ofDepth rounds depth).executeAll body.statements (machine.beginning step run) =
          .ok outcome inner ∧
        value = (inner.scopes.local? machine.scopes.size "result").getD .null ∧
        after = inner.returning machine.current := by
  rw [simulationRun, Eval.inNewScope_ok_iff]
  change (∃ inner, scenarioResult (.ofDepth rounds depth) body (machine.beginning step run) = .ok value inner ∧
    inner.returning machine.current = after) ↔ _
  unfold scenarioResult
  constructor
  · rintro ⟨inner, inside, rfl⟩
    obtain ⟨outcome, middle, executed, read⟩ := Eval.bind_ok inside
    change EStateM.Result.ok ((middle.scopes.local? middle.current "result").getD .null) middle = _ at read
    rw [executeAll_current executed, EStateM.Result.ok.injEq] at read
    obtain ⟨same, rfl⟩ := read
    exact ⟨outcome, middle, executed, same.symm, rfl⟩
  · rintro ⟨outcome, inner, executed, rfl, rfl⟩
    refine ⟨inner, (Eval.bind_run executed).trans ?_, rfl⟩
    change EStateM.Result.ok ((inner.scopes.local? inner.current "result").getD .null) inner = _
    rw [executeAll_current executed]
    rfl

theorem run_moves {run : Nat}
    (ran : simulationRun (.ofDepth rounds depth) body step run machine = .ok value after) :
    Moves (fun _ _ => True) false machine after := by
  have follows : Law.anything.Follows false (fun _ _ => True) machine
      (simulationRun (.ofDepth rounds depth) body step run) (simulationRun (.ofDepth rounds depth) body step run) :=
    .simulationRun (keeps_anything rounds depth) body step run fun _ _ => trivial
  have ends := follows.ends trivial
  rw [ran] at ends
  exact ends.1

theorem simulationRuns_ok (states : Nat → Machine) (values : Nat → Value) (parts : Evaluator) (count start : Nat)
    (runs : ∀ run, start ≤ run → run < start + count →
      simulationRun parts body step run (states run) = .ok (values run) (states (run + 1))) :
    simulationRuns parts body step count start (states start) =
      .ok ((List.range' start count).map values) (states (start + count)) := by
  induction count generalizing start with
  | zero => rfl
  | succ count ih =>
      have first := runs start (Nat.le_refl _) (by omega)
      have rest := ih (start + 1) fun run low high => runs run (by omega) (by omega)
      have count : start + 1 + count = start + (count + 1) := by omega
      rw [simulationRuns, Eval.bind_run first, Eval.bind_run rest, List.range'_succ, List.map_cons, count]
      rfl

-- Some runs later, a run does what it would do at once.
theorem run_counterpart {ready later next : Machine} {run : Nat} (rooted : ready.Rooted) (settled : ready.Settled)
    (resumes : ready.Resumes later)
    (ran : simulationRun (.ofDepth rounds depth) body step run later = .ok value next) :
    ∃ result alone, simulationRun (.ofDepth rounds depth) body step run ready = .ok result alone ∧
      value = (between ready later).value result ∧ (between ready later).Pairs alone next := by
  have parts := Translation.Parts.ofDepth (between ready later).translation not_false rounds depth
  have ends := Translation.Agrees.simulationRun parts body (fun _ _ => trivial) step run (between_sound rooted)
    (between_pairs rooted settled resumes)
  rw [translation_body, ran] at ends
  generalize simulationRun (.ofDepth rounds depth) body step run ready = first at ends
  cases ends with
  | ok result alone _ _ _ pairs => exact ⟨result, alone, rfl, rfl, pairs⟩

theorem run_resumes {ready later next : Machine} {run : Nat} (rooted : ready.Rooted) (settled : ready.Settled)
    (resumes : ready.Resumes later)
    (ran : simulationRun (.ofDepth rounds depth) body step run later = .ok value next)
    (undisturbed : ready.Undisturbed next) : later.Resumes next := by
  have moved := run_moves ran
  obtain ⟨_, _, _, _, pairs⟩ := run_counterpart rooted settled resumes ran
  obtain ⟨settings, today⟩ := moves_given false later next moved
  exact ⟨moves_grown false later next moved, between_undisturbed pairs resumes.undisturbed undisturbed,
    moves_current false later next moved, settings, today⟩

section Series

variable {ready : Machine} {states : Nat → Machine} {values : Nat → Value} {count : Nat}
  (rooted : ready.Rooted) (settled : ready.Settled) (begun : states 0 = ready)
  (runs : ∀ run < count, simulationRun (.ofDepth rounds depth) body step run (states run) =
    .ok (values run) (states (run + 1)))
  (undisturbed : ∀ run < count, ready.Undisturbed (states (run + 1)))

include rooted settled begun runs undisturbed

theorem series_resumes (run : Nat) (within : run ≤ count) : ready.Resumes (states run) := by
  induction run with
  | zero =>
      rw [begun]
      exact .refl ready
  | succ run ih =>
      have resumes := ih (Nat.le_of_lt within)
      exact resumes.trans (run_resumes rooted settled resumes (runs run within) (undisturbed run within))

theorem series_lasts (run more : Nat) (within : run + more ≤ count) :
    (states run).Resumes (states (run + more)) := by
  induction more with
  | zero => exact .refl _
  | succ more ih =>
      have resumes := series_resumes rooted settled begun runs undisturbed (run + more) (Nat.le_of_lt within)
      exact (ih (Nat.le_of_lt within)).trans
        (run_resumes rooted settled resumes (runs (run + more) within) (undisturbed (run + more) within))

end Series

end Runs

theorem bindResults_run {machine : Machine} {values : Value} {name : String}
    (named : machine.settings.resultsName = .text name) :
    bindResults values machine = .ok () (machine.binding machine.current name values) := by
  have got : (get : Eval Machine) machine = .ok machine machine := rfl
  unfold bindResults
  rw [Eval.bind_run got, named]
  rfl

section Preparation

variable {rounds depth : Nat} {span : Source.Span} {scenario : String} {runs step : Option Expr} {body : Block}
  {count : Int} {size : Float} {machine first second ready : Machine}
  (found : findScenario span scenario machine = .ok body first)
  (counted : runCount (.ofDepth rounds depth) runs first = .ok count second)
  (stepped : (Evaluator.ofDepth rounds depth).numberOr "SIMULATE step" 1 step second = .ok size ready)

include found counted stepped

theorem prepared_moves (law : Law) (keeps : law.Parts (.ofDepth rounds depth) (.ofDepth rounds depth))
    (code : ∀ expr, law.expr expr) (fails : ∀ failure, law.fails failure) (sound : law.sound machine) :
    law.sound ready ∧ Moves law.holds false machine ready := by
  have finding : law.Follows false _ machine (findScenario span scenario) (findScenario span scenario) :=
    .findScenario span scenario fun _ => fails _
  have located := finding.ends sound
  rw [found] at located
  have soundFirst := (law.kept false machine first sound located.1).1
  have number := (Law.Follows.runCount keeps runs fun expr _ => code expr).ends soundFirst
  rw [counted] at number
  have soundSecond := (law.kept false first second soundFirst number.1).1
  have width := (Law.Follows.numberOr keeps "SIMULATE step" 1 step fun expr _ => code expr).ends soundSecond
  rw [stepped] at width
  exact ⟨(law.kept false second ready soundSecond width.1).1,
    .trans _ _ _ _ (.trans _ _ _ _ located.1 number.1) width.1⟩

theorem simulate_run (natural : 0 ≤ count) {values : List Value} {last : Machine} {results : String}
    (named : last.settings.resultsName = .text results)
    (ran : simulationRuns (.ofDepth rounds depth) body size count.toNat 0 ready = .ok values last) :
    ∃ lines, (Evaluator.ofDepth rounds (depth + 1)).execute (.simulate span scenario runs step) machine =
      .ok .nothing ({ last with output := lines }.binding last.current results (.list values)) := by
  refine ⟨("Simulation results: " ++ (Value.list values).shown last.ledgers) :: last.output, ?_⟩
  refine (Eval.located_ok_iff _ span _).mpr ?_
  change simulate (.ofDepth rounds depth) span scenario runs step machine = _
  unfold simulate
  rw [Eval.bind_run found, Eval.bind_run counted, Eval.bind_run stepped, if_neg (Int.not_lt.mpr natural),
    Eval.bind_run ran]
  change (bindResults (.list values) >>= fun _ => pure Outcome.nothing)
    { last with output := ("Simulation results: " ++ (Value.list values).shown last.ledgers) :: last.output } = _
  exact Eval.bind_run (bindResults_run named)

end Preparation

-- The runs of a simulation, one after the other, as opposed to each of them alone on the machine that is ready
-- for the first one. Their results are the same but for the numbers of scopes, ledgers and functions.
theorem simulation_runs_independent (rounds depth : Nat) (span : Source.Span) (scenario results : String)
    (runs step : Option Expr) (body : Block) (count : Int) (size : Float) (machine first second ready : Machine)
    (states : Nat → Machine) (values : Nat → Value) (visited : Session.Visited machine)
    (found : findScenario span scenario machine = .ok body first)
    (counted : runCount (.ofDepth rounds depth) runs first = .ok count second)
    (stepped : (Evaluator.ofDepth rounds depth).numberOr "SIMULATE step" 1 step second = .ok size ready)
    (natural : 0 ≤ count) (named : machine.settings.resultsName = .text results) (begun : states 0 = ready)
    (completed : ∀ run < count.toNat, simulationRun (.ofDepth rounds depth) body size run (states run) =
      .ok (values run) (states (run + 1)))
    (undisturbed : ∀ run < count.toNat, ready.Undisturbed (states (run + 1))) :
    ∃ after, (Evaluator.ofDepth rounds (depth + 1)).execute (.simulate span scenario runs step) machine =
        .ok .nothing after ∧
      ready.current = machine.current ∧
      after.scopes.local? machine.current results = some (.list ((List.range count.toNat).map values)) ∧
      ∀ run < count.toNat, ∃ outcome alone,
        (Evaluator.ofDepth rounds depth).executeAll body.statements (ready.beginning size run) = .ok outcome alone ∧
        values run =
          (between ready (states run)).value ((alone.scopes.local? ready.scopes.size "result").getD .null) ∧
        (between ready (states run)).Lands alone after := by
  obtain ⟨rooted, moved⟩ := prepared_moves found counted stepped Law.tree (tree_lasting.parts ⟨depth, rounds⟩)
    (fun _ => trivial) (fun _ => trivial) (visited_rooted machine visited)
  obtain ⟨settled, _⟩ := prepared_moves found counted stepped Law.settled (settled_lasting.parts ⟨depth, rounds⟩)
    (fun _ => trivial) (fun _ => trivial) (settled_lasting.visited machine visited)
  have lasting := series_resumes rooted settled begun completed undisturbed
  have ended := lasting count.toNat (Nat.le_refl _)
  have back := moves_current false machine ready moved
  have current : (states count.toNat).current = machine.current := ended.current.trans back
  have settings : (states count.toNat).settings.resultsName = .text results := by
    rw [ended.settings, (moves_given false machine ready moved).1]
    exact named
  have ran := simulationRuns_ok states values (.ofDepth rounds depth) count.toNat 0 fun run _ within =>
    completed run (by omega)
  rw [begun, Nat.zero_add, ← List.range_eq_range'] at ran
  obtain ⟨lines, executed⟩ := simulate_run found counted stepped natural settings ran
  have known : machine.current < (states count.toNat).scopes.size := by
    rw [← current, ended.current]
    exact Nat.lt_of_lt_of_le rooted.current ended.grown.scopes
  refine ⟨_, executed, back, ?_, fun run within => ?_⟩
  · rw [current]
    exact (Scopes.local?_define _ _ _ _ _ _ known).trans (if_pos ⟨rfl, rfl⟩)
  · have resumes := lasting run (Nat.le_of_lt within)
    obtain ⟨result, alone, ranAlone, same, pairs⟩ := run_counterpart rooted settled resumes (completed run within)
    obtain ⟨outcome, inner, executedAlone, read, rfl⟩ := (simulationRun_ok_iff run).mp ranAlone
    refine ⟨outcome, inner, executedAlone, ?_, ?_⟩
    · rw [same, read]
    · have lasts := series_lasts rooted settled begun completed undisturbed (run + 1) (count.toNat - (run + 1))
        (by omega)
      rw [Nat.add_sub_cancel' within] at lasts
      have landed := pairs.lands lasts.undisturbed
      have lands : (between ready (states run)).Lands inner { states count.toNat with output := lines } :=
        ⟨landed.scopes, landed.ledgers⟩
      have old : (states count.toNat).current < ready.scopes.size := by
        rw [ended.current]
        exact rooted.current
      exact lands.binding old results _

theorem findScenario_run {machine : Machine} {span : Source.Span} {name : String} {body : Block}
    (bound : machine.scopes.get? machine.current name = some (.block body)) :
    findScenario span name machine = .ok body machine := by
  obtain ⟨owner, owned, _⟩ := Scopes.holds_of_get _ _ _ _ bound
  have known : Eval.isBound name machine = .ok true machine := by
    change EStateM.Result.ok (machine.scopes.owner? machine.current name).isSome machine = _
    rw [owned]
    rfl
  have read : Eval.lookup name machine = .ok (.block body) machine := by
    have got : (get : Eval Machine) machine = .ok machine machine := rfl
    unfold Eval.lookup
    rw [Eval.bind_run got, bound]
    rfl
  unfold findScenario
  rw [Eval.bind_run known, if_pos rfl, Eval.bind_run read]
  rfl

def keepsLambda : Value → Bool
  | .block ⟨_, [.define _ "result" (.lambda _ _ _)]⟩ => true
  | _ => false

theorem keepsLambda_form {value : Value} (keeps : keepsLambda value = true) :
    ∃ around span inner parameters code,
      value = .block ⟨around, [.define span "result" (.lambda inner parameters code)]⟩ := by
  unfold keepsLambda at keeps
  split at keeps
  · exact ⟨_, _, _, _, _, rfl⟩
  · cases keeps

theorem define_lambda (machine : Machine) (rounds depth : Nat) (span inner : Source.Span) (name : String)
    (parameters : List String) (code : Expr) :
    (Evaluator.ofDepth rounds (depth + 2)).executeAll [.define span name (.lambda inner parameters code)] machine =
      .ok .nothing ({ machine with functions := machine.functions + 1 }.binding machine.current name
        (.lambda ⟨machine.functions, parameters, code, machine.current⟩)) := rfl

theorem lambda_run (machine : Machine) (rounds depth run : Nat) (step : Float) (around span inner : Source.Span)
    (parameters : List String) (code : Expr) :
    ∃ value after, simulationRun (.ofDepth rounds (depth + 2))
        ⟨around, [.define span "result" (.lambda inner parameters code)]⟩ step run machine = .ok value after ∧
      machine.Undisturbed after := by
  let ready := machine.beginning step run
  have begun : machine.Undisturbed ready :=
    ((Undisturbed.entering machine _).binding (Nat.le_refl _) _ _).binding (Nat.le_refl _) _ _
  have counted : machine.Undisturbed { ready with functions := ready.functions + 1 } :=
    ⟨begun.scopes, begun.ledgers, begun.files⟩
  have new : machine.scopes.size ≤ ready.current := Nat.le_refl _
  have kept := counted.binding new "result" (.lambda ⟨ready.functions, parameters, code, ready.current⟩)
  have executed := define_lambda ready rounds depth span inner "result" parameters code
  exact ⟨_, _, (simulationRun_ok_iff run).mpr ⟨_, _, executed, rfl, rfl⟩, kept.returning machine.current⟩

theorem runCount_literal {amount : Float} (rounds depth : Nat) (machine : Machine)
    (whole : Number.isWhole amount = true) :
    runCount (.ofDepth rounds (depth + 1)) (some (.literal default (.number amount))) machine =
      .ok (Number.truncate amount) machine := by
  have read : (Value.number amount).asInt "SIMULATE run count" = .ok (Number.truncate amount) := by
    unfold Value.asInt
    exact if_pos whole
  have lifted : Eval.lift ((Value.number amount).asInt "SIMULATE run count") machine =
      .ok (Number.truncate amount) machine := by
    rw [read]
    rfl
  exact lifted

theorem runs_giving_closures_independent :
    let source := "SCENARIO s\n    LET result = x -> x\nEND"
    let machine := (Session.execute ⟨50, 50⟩ none source (start .standard ⟨[]⟩ "2024-02-29")).2
    let two : Expr := .literal default (.number 2)
    ∃ (body : Block) (states : Nat → Machine) (values : Nat → Value) (after : Machine),
      findScenario default "s" machine = .ok body machine ∧ states 0 = machine ∧
      (∀ run < 2, simulationRun (.ofDepth 9 9) body 1 run (states run) = .ok (values run) (states (run + 1))) ∧
      (∀ run < 2, machine.Undisturbed (states (run + 1))) ∧
      (Evaluator.ofDepth 9 10).execute (.simulate default "s" (some two) none) machine = .ok .nothing after ∧
      after.scopes.local? machine.current "lastSimulation" = some (.list [values 0, values 1]) ∧
      ∀ run < 2, ∃ outcome alone,
        (Evaluator.ofDepth 9 9).executeAll body.statements (machine.beginning 1 run) = .ok outcome alone ∧
        values run =
          (between machine (states run)).value ((alone.scopes.local? machine.scopes.size "result").getD .null) ∧
        (between machine (states run)).Lands alone after := by
  intro source machine two
  have visited : Session.Visited machine := .idle machine (.executed _ _ _ _ (.start _ _ _))
  have settings : machine.settings = .standard := execute_settings _ none source _
  have kept : (machine.scopes.get? machine.current "s").any keepsLambda = true := by decide +kernel
  clear_value machine
  have named : machine.settings.resultsName = .text "lastSimulation" := by
    rw [settings]
    rfl
  obtain ⟨value, bound, keeps⟩ := (Option.any_eq_true _ _).mp kept
  obtain ⟨around, span, inner, parameters, code, rfl⟩ := keepsLambda_form keeps
  obtain ⟨firstValue, first, ranFirst, keptFirst⟩ := lambda_run machine 9 7 0 1 around span inner parameters code
  obtain ⟨secondValue, second, ranSecond, keptSecond⟩ := lambda_run first 9 7 1 1 around span inner parameters code
  let body : Block := ⟨around, [.define span "result" (.lambda inner parameters code)]⟩
  let states (run : Nat) : Machine := [machine, first].getD run second
  let values (run : Nat) : Value := [firstValue].getD run secondValue
  have found : findScenario default "s" machine = .ok body machine := findScenario_run bound
  have counted : runCount (.ofDepth 9 9) (some two) machine = .ok 2 machine := by
    have whole : Number.isWhole 2 = true := by decide +kernel
    have truncated : Number.truncate 2 = 2 := by decide +kernel
    exact (runCount_literal 9 8 machine whole).trans (congrArg (EStateM.Result.ok · machine) truncated)
  have runs : ∀ run < 2, simulationRun (.ofDepth 9 9) body 1 run (states run) =
      .ok (values run) (states (run + 1)) := by
    intro run within
    rcases run with _ | _ | run
    · exact ranFirst
    · exact ranSecond
    · omega
  have undisturbed : ∀ run < 2, machine.Undisturbed (states (run + 1)) := by
    intro run within
    rcases run with _ | _ | run
    · exact keptFirst
    · exact keptFirst.trans (moves_grown false machine first (run_moves ranFirst)) keptSecond
    · omega
  obtain ⟨after, executed, _, read, alone⟩ := simulation_runs_independent 9 9 default "s" "lastSimulation" (some two)
    none body 2 1 machine machine machine machine states values visited found counted rfl (by decide) named rfl runs
    undisturbed
  exact ⟨body, states, values, after, found, rfl, runs, undisturbed, executed, read, alone⟩

end Fiscal
