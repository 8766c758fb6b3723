import Fiscal.Machine.Run
import Fiscal.Proofs.Scope.Binding
import Mathlib.Data.List.Forall2

set_option autoImplicit false

namespace Fiscal

namespace Value

mutual

def nesting : Value → Nat
  | list items => nestingAll items + 1
  | object fields => nestingFields fields + 1
  | _ => 0

def nestingAll : List Value → Nat
  | [] => 0
  | item :: rest => max (nesting item) (nestingAll rest)

def nestingFields : List (String × Value) → Nat
  | [] => 0
  | (_, value) :: rest => max (nesting value) (nestingFields rest)

end

end Value

namespace Named

theorem get_skips {α : Type} {before : Named α} {name : String} (other : name ∉ names before) (rest : Named α) :
    get? (before ++ rest) name = get? rest name := by
  induction before with
  | nil => rfl
  | cons entry before ih =>
      have apart : entry.1 ≠ name := fun same => other (same ▸ List.mem_cons_self)
      rw [List.cons_append, get?, if_neg apart, ih fun member => other (List.mem_cons_of_mem _ member)]

end Named

namespace Expr

def Means (expr : Expr) (value : Value) : Prop :=
  ∀ rounds depth machine, value.nesting + 2 ≤ depth →
    ∃ result, (Evaluator.ofDepth rounds depth).evaluate expr machine = .ok result machine ∧
      ∀ ledgers, value.same ledgers result = true

section Leaves

variable {value : Value}

theorem evaluate_form {parts : Evaluator} {rounds : Nat} {expr : Expr} {machine : Machine} {result : Value}
    (gives : Machine.expressionForm parts expr machine = .ok result machine) :
    (parts.deepen rounds).evaluate expr machine = .ok result machine := by
  change Eval.located expr.span (Machine.expressionForm parts expr) machine = _
  rw [Eval.located, gives]

theorem literal_means (span : Source.Span) {given : Literal}
    (same : ∀ ledgers, value.same ledgers (Machine.literal given) = true) : (literal span given).Means value := by
  intro rounds depth machine enough
  obtain ⟨depth, rfl⟩ := Nat.exists_eq_succ_of_ne_zero (show depth ≠ 0 by omega)
  exact ⟨_, evaluate_form rfl, same⟩

theorem negate_means (span inside : Source.Span) {x : Float}
    (same : ∀ ledgers, value.same ledgers (.number (-x)) = true) :
    (unary span .negate (literal inside (.number x))).Means value := by
  intro rounds depth machine enough
  obtain ⟨depth, rfl⟩ := Nat.exists_eq_add_of_le' (show 2 ≤ depth by omega)
  exact ⟨.number (-x), evaluate_form rfl, same⟩

end Leaves

section Sequences

variable {rounds depth : Nat} {machine : Machine}

theorem evaluateAll_means {exprs : List Expr} {items : List Value} (each : List.Forall₂ Means exprs items)
    (enough : Value.nestingAll items + 2 ≤ depth) :
    ∃ results, (Evaluator.ofDepth rounds depth).evaluateAll exprs machine = .ok results machine ∧
      ∀ ledgers, Value.sameItems ledgers items results = true := by
  induction each with
  | nil => exact ⟨[], rfl, fun _ => rfl⟩
  | @cons expr item exprs items first later ih =>
      rw [Value.nestingAll] at enough
      obtain ⟨result, gives, same⟩ := first rounds depth machine (by omega)
      obtain ⟨results, others, equal⟩ := ih (by omega)
      refine ⟨result :: results, ?_, fun ledgers => ?_⟩
      · rw [Evaluator.evaluateAll]
        change EStateM.bind _ _ machine = _
        rw [EStateM.bind, gives]
        change EStateM.bind _ _ machine = _
        rw [EStateM.bind, others]
        rfl
      · rw [Value.sameItems, same ledgers, equal ledgers]
        rfl

theorem list_means (span : Source.Span) {exprs : List Expr} {items : List Value}
    (each : List.Forall₂ Means exprs items) : (list span exprs).Means (.list items) := by
  intro rounds depth machine enough
  obtain ⟨depth, rfl⟩ := Nat.exists_eq_succ_of_ne_zero (show depth ≠ 0 by omega)
  rw [Value.nesting] at enough
  obtain ⟨results, gives, same⟩ := evaluateAll_means each (show _ ≤ depth by omega)
  refine ⟨.list results, evaluate_form ?_, same⟩
  change EStateM.bind _ _ machine = _
  rw [EStateM.bind, gives]
  rfl

def MeansField (field : String × Expr) (entry : String × Value) : Prop :=
  field.1 = entry.1 ∧ field.2.Means entry.2

theorem evaluateFields_means {fields : Named Expr} {entries : Named Value}
    (each : List.Forall₂ MeansField fields entries) (enough : Value.nestingFields entries + 2 ≤ depth) :
    ∃ results, (Evaluator.ofDepth rounds depth).evaluateFields fields machine = .ok results machine ∧
      ∀ ledgers, List.Forall₂ (fun entry result => entry.1 = result.1 ∧ entry.2.same ledgers result.2 = true)
        entries results := by
  induction each with
  | nil => exact ⟨[], rfl, fun _ => .nil⟩
  | @cons field entry fields entries first later ih =>
      obtain ⟨name, expr⟩ := field
      obtain ⟨key, value⟩ := entry
      obtain ⟨rfl, means⟩ : name = key ∧ expr.Means value := first
      rw [Value.nestingFields] at enough
      obtain ⟨result, gives, same⟩ := means rounds depth machine (by omega)
      obtain ⟨results, others, equal⟩ := ih (by omega)
      refine ⟨(name, result) :: results, ?_, fun ledgers => .cons ⟨rfl, same ledgers⟩ (equal ledgers)⟩
      rw [Evaluator.evaluateFields]
      change EStateM.bind _ _ machine = _
      rw [EStateM.bind, gives]
      change EStateM.bind _ _ machine = _
      rw [EStateM.bind, others]
      rfl

theorem sameFields_placed {ledgers : Ledgers} {entries results : Named Value}
    (each : List.Forall₂ (fun entry result => entry.1 = result.1 ∧ entry.2.same ledgers result.2 = true)
      entries results)
    (before : Named Value) (distinct : (Named.names (before ++ results)).Nodup) :
    Value.sameFields ledgers entries (before ++ results) = true := by
  induction each generalizing before with
  | nil => rfl
  | @cons entry result entries results first later ih =>
      obtain ⟨key, value⟩ := entry
      obtain ⟨name, other⟩ := result
      obtain ⟨rfl, same⟩ := first
      have fresh : key ∉ Named.names before := by
        rw [Named.names, List.map_append] at distinct
        exact fun member => (List.nodup_append.mp distinct).2.2 key member key List.mem_cons_self rfl
      have rest := ih (before ++ [(key, other)]) (by rwa [List.append_assoc])
      rw [List.append_assoc] at rest
      rw [Value.sameFields, Named.get_skips fresh, Named.get?, if_pos rfl]
      dsimp only
      rw [same]
      exact rest

theorem object_means (span : Source.Span) {fields : Named Expr} {entries : Named Value}
    (each : List.Forall₂ MeansField fields entries) (distinct : (Named.names entries).Nodup) :
    (object span fields).Means (.object entries) := by
  intro rounds depth machine enough
  obtain ⟨depth, rfl⟩ := Nat.exists_eq_succ_of_ne_zero (show depth ≠ 0 by omega)
  rw [Value.nesting] at enough
  obtain ⟨results, gives, equal⟩ := evaluateFields_means each (show _ ≤ depth by omega)
  refine ⟨.object results, evaluate_form ?_, fun ledgers => ?_⟩
  · change EStateM.bind _ _ machine = _
    rw [EStateM.bind, gives]
    rfl
  · have names : Named.names entries = Named.names results := by
      have placed := equal ledgers
      clear gives distinct enough each equal
      induction placed with
      | nil => rfl
      | cons first later ih => exact congrArg₂ List.cons first.1 ih
    have fields := sameFields_placed (equal ledgers) [] (by rwa [List.nil_append, ← names])
    have length : entries.length = results.length := (equal ledgers).length_eq
    change (entries.length == results.length && Value.sameFields ledgers entries results) = true
    rw [length, beq_self_eq_true]
    exact fields

end Sequences

end Expr

end Fiscal
