import Fiscal.Machine.Evaluator

set_option autoImplicit false

namespace Fiscal.Machine

open Eval

def findScenario (span : Source.Span) (name : String) : Eval Block := do
  if ← isBound name then
    match ← lookup name with
    | .block body => return body
    | other =>
        failAt (.typeMismatch ("'" ++ name ++ "' is a " ++ other.kindName ++ ", not a scenario"))
          span
  else failAt (.unknownDeclaration "scenario" name) span

def findModel (span : Source.Span) (name : String) : Eval Value := do
  if ← isBound name then
    let model ← lookup name
    if model.isCallable then return model
    else
      failAt
        (.typeMismatch ("model '" ++ name ++ "' is a " ++ model.kindName ++ ", not a function"))
        span
  else failAt (.unknownDeclaration "model" name) span

def parameterCount? : Value → Option Nat
  | .lambda lambda => some lambda.parameters.length
  | .function function => some function.parameters.length
  | _ => none

-- What a model is called with: nothing, the result, or the result and all that the scenario has
-- bound.
def modelArguments (model result : Value) (bindings : Named Value) : List Value :=
  match parameterCount? model with
  | some 0 => []
  | some 2 => [result, .object bindings]
  | _ => [result]

def localBindings : Eval (Named Value) := do
  let machine ← get
  return (machine.scopes[machine.current]?.map Scope.bindings).getD []

variable (parts : Evaluator)

def scenarioResult (body : Block) : Eval Value := do
  let _ ← parts.executeAll body.statements
  return (← lookupLocal? "result").getD .null

def runScenario (span : Source.Span) (scenario model : String) : Eval Outcome := do
  let body ← findScenario span scenario
  let function ← findModel span model
  let value ← inNewScope do
    let result ← scenarioResult parts body
    parts.call function (modelArguments function result (← localBindings)) (some model)
  write ("Run " ++ scenario ++ " ON " ++ model ++ ": " ++ (← shown value))
  return .nothing

def simulationRun (body : Block) (step : Float) (iteration : Nat) : Eval Value :=
  inNewScope do
    define "iteration" (.number (Number.ofNat iteration))
    define "elapsed" (.number (Number.ofNat iteration * step))
    scenarioResult parts body

def simulationRuns (body : Block) (step : Float) : Nat → Nat → Eval (List Value)
  | 0, _ => return []
  | runs + 1, iteration => do
      let result ← simulationRun parts body step iteration
      let results ← simulationRuns body step runs (iteration + 1)
      return result :: results

def runCount : Option Expr → Eval Int
  | none => return 1
  | some expr => parts.whole "SIMULATE run count" expr

def bindResults (results : Value) : Eval Unit := do
  match (← get).settings.resultsName with
  | .text name => define name results
  | .list _ => throw (.fault (.noName "list"))
  | .mapping _ => throw (.fault (.noName "dict"))
  -- Any other scalar is a name too, but none that a program can spell.
  | _ => return

def simulate (span : Source.Span) (scenario : String) (runs step : Option Expr) :
    Eval Outcome := do
  let body ← findScenario span scenario
  let count ← runCount parts runs
  let step ← parts.numberOr "SIMULATE step" 1 step
  if count < 0 then
    failAt
      (.invalidRange ("SIMULATE run count must not be negative, got " ++ toString count))
      ((runs.map Expr.span).getD span)
  else
    let results ← simulationRuns parts body step count.toNat 0
    write ("Simulation results: " ++ (← shown (.list results)))
    bindResults (.list results)
    return .nothing

end Fiscal.Machine
