import Fiscal.Proofs.Machine.Law

set_option autoImplicit false

namespace Fiscal

open Machine

def Yields {α : Type} (fails : Failure → Prop) (good : α → Prop) : Except Failure α → Prop
  | .ok value => good value
  | .error failure => fails failure

namespace Yields

variable {α β : Type} {fails : Failure → Prop} {good : α → Prop} {result : β → Prop}

theorem bind {first : Except Failure α} {next : α → Except Failure β} (yields : Yields fails good first)
    (rest : ∀ value, good value → Yields fails result (next value)) :
    Yields fails result (first >>= next) := by
  cases first with
  | ok value => exact rest value yields
  | error failure => exact yields

theorem ofFault {computed : Except Fault α} (proper : ∀ value, computed = .ok value → good value)
    (faults : ∀ fault, computed = .error fault → fails (.fault fault)) :
    Yields fails good (Fault.lift computed) := by
  cases computed with
  | ok value => exact proper value rfl
  | error fault => exact faults fault rfl

end Yields

namespace Law

variable (law : Law)

def withFaults : Law :=
  { law with
    fails := fun failure => law.fails failure ∨ ∃ fault, failure = .fault fault
    unplaced := fun issue => .inl (law.unplaced issue)
    atExpr := fun whole issue code => .inl (law.atExpr whole issue code)
    atStmt := fun whole issue code => .inl (law.atStmt whole issue code)
    atHolding := fun span name holdings issue code holding member =>
      .inl (law.atHolding span name holdings issue code holding member)
    tooDeep := .inl law.tooDeep
    unfinished := .inl law.unfinished }

def TakesFaults : Prop :=
  ∀ name fault, law.stops (.fault fault) → law.stops (.issue (faultIssue name fault) none)

end Law

namespace Law.Follows

variable {α : Type} {law : Law} {declares : Bool} {good : Machine → α → Prop} {machine : Machine}
  {action other : Eval α}

theorem lift {computed : Except Failure α} (yields : Yields law.fails (good machine) computed) :
    law.Follows declares good machine (Eval.lift computed) (Eval.lift computed) := by
  constructor
  · exact fun _ => .inl rfl
  · intro _
    cases computed with
    | ok value => exact ⟨.rest _ _, yields⟩
    | error failure => exact ⟨.rest _ _, yields⟩

theorem lifted {computed : Except Failure α} {proper : α → Prop}
    (yields : Yields law.fails proper computed) :
    law.Follows declares (fun _ => proper) machine (Eval.lift computed) (Eval.lift computed) :=
  lift yields

theorem failAt (issue : Source.Issue) (span : Source.Span)
    (placed : ∀ issue, law.fails (.issue issue (some span))) :
    law.Follows declares good machine (Eval.failAt issue span) (Eval.failAt issue span) :=
  .throw _ (placed issue)

theorem faulting (follows : law.Follows declares good machine action other) :
    law.withFaults.Follows declares good machine action other where
  agrees := follows.agrees
  ends sound := by
    have ends := follows.ends sound
    cases ran : action machine with
    | ok _ after =>
        rw [ran] at ends
        exact ends
    | error _ after =>
        rw [ran] at ends
        exact ⟨ends.1, .inl ends.2⟩

theorem takingFaults (name : String) (taken : law.TakesFaults)
    (follows : law.withFaults.Follows declares good machine action other) :
    law.Follows declares good machine (takingFaults name action) (takingFaults name other) := by
  constructor
  · intro sound
    have agrees := follows.agrees sound
    unfold Machine.takingFaults
    rcases agrees with same | stopped
    · rw [same]
      exact .inl rfl
    · cases ran : action machine with
      | ok value after =>
          rw [ran] at stopped
          exact False.elim stopped
      | error failure after =>
          rw [ran] at stopped
          cases failure with
          | fault fault => exact .inr (taken name fault stopped)
          | issue | tooDeep | unfinished => exact .inr stopped
  · intro sound
    have ends := follows.ends sound
    unfold Machine.takingFaults
    cases ran : action machine with
    | ok value after =>
        rw [ran] at ends
        exact ends
    | error failure after =>
        rw [ran] at ends
        obtain ⟨moved, failed⟩ := ends
        cases failure with
        | fault fault => exact ⟨moved, law.unplaced _⟩
        | issue | tooDeep | unfinished =>
            rcases failed with fails | ⟨fault, same⟩
            · exact ⟨moved, fails⟩
            · cases same

theorem located (span : Source.Span) (placed : ∀ issue, law.fails (.issue issue (some span)))
    (follows : law.Follows declares good machine action other) :
    law.Follows declares good machine (Eval.located span action) (Eval.located span other) := by
  constructor
  · intro sound
    have agrees := follows.agrees sound
    unfold Eval.located
    rcases agrees with same | stopped
    · rw [same]
      exact .inl rfl
    · cases ran : action machine with
      | ok value after =>
          rw [ran] at stopped
          exact False.elim stopped
      | error failure after =>
          rw [ran] at stopped
          exact .inr (law.stopped span failure stopped)
  · intro sound
    have ends := follows.ends sound
    unfold Eval.located
    cases ran : action machine with
    | ok value after =>
        rw [ran] at ends
        exact ends
    | error failure after =>
        rw [ran] at ends
        exact ⟨ends.1, law.failed_at span failure placed ends.2⟩

theorem opened_run (outer : Nat) (machine : Machine) (action : Eval α) :
    (Eval.openScope outer >>= fun scope => Eval.inScope scope action) machine =
      match action (machine.entering outer) with
      | .ok value after => .ok value (after.returning machine.current)
      | .error failure after => .error failure (after.returning machine.current) := rfl

theorem inOpened (outer : Nat) (entrance : law.sound machine → MayEnter law.holds machine outer)
    (stays : ∀ value inner scope, good inner value → good (inner.returning scope) value)
    (body : law.Follows true good (machine.entering outer) action other) :
    law.Follows declares good machine (Eval.openScope outer >>= fun scope => Eval.inScope scope action)
      (Eval.openScope outer >>= fun scope => Eval.inScope scope other) := by
  constructor
  · intro sound
    have agrees := body.agrees (law.entered machine outer sound (entrance sound)).1
    rw [opened_run, opened_run]
    rcases agrees with same | stopped
    · rw [same]
      exact .inl rfl
    · cases ran : action (machine.entering outer) with
      | ok value after =>
          rw [ran] at stopped
          exact False.elim stopped
      | error failure after =>
          rw [ran] at stopped
          exact .inr stopped
  · intro sound
    have ends := body.ends (law.entered machine outer sound (entrance sound)).1
    rw [opened_run]
    cases ran : action (machine.entering outer) with
    | ok value after =>
        rw [ran] at ends
        exact ⟨.inside _ _ after outer (entrance sound) ends.1, stays value after machine.current ends.2⟩
    | error failure after =>
        rw [ran] at ends
        exact ⟨.inside _ _ after outer (entrance sound) ends.1, ends.2⟩

theorem inNewScope (stays : ∀ value inner scope, good inner value → good (inner.returning scope) value)
    (body : law.Follows true good (machine.entering machine.current) action other) :
    law.Follows declares good machine (Eval.inNewScope action) (Eval.inNewScope other) :=
  .get (inOpened machine.current (fun _ => .current) stays body)

theorem define (name : String) (value : Value) (held : law.holds machine value) :
    law.Follows true Any machine (Eval.define name value) (Eval.define name value) where
  agrees _ := .inl rfl
  ends _ := ⟨.define machine name value held, trivial⟩

theorem assign (name : String) (value : Value) (held : law.holds machine value) :
    law.Follows declares Any machine (Eval.assign name value) (Eval.assign name value) := by
  constructor
  · exact fun _ => .inl rfl
  · intro _
    unfold Eval.assign
    cases owned : machine.scopes.owner? machine.current name with
    | none => exact ⟨.rest _ _, law.unplaced _⟩
    | some owner => exact ⟨.assign _ _ owner name value owned held, trivial⟩

theorem lookup (name : String) :
    law.Follows declares law.holds machine (Eval.lookup name) (Eval.lookup name) := by
  refine .get ?_
  cases found : machine.scopes.get? machine.current name with
  | none => exact .throw _ (law.unplaced _)
  | some value =>
      refine .pure value fun sound => ?_
      obtain ⟨owner, owned, holds⟩ := Scopes.holds_of_get machine.scopes machine.current name value found
      exact law.found machine owner value sound (Scopes.owner_outward _ _ owner name owned) holds

theorem lookupGlobal (name : String) :
    law.Follows declares law.holds machine (Eval.lookupGlobal name) (Eval.lookupGlobal name) := by
  refine .get ?_
  cases found : machine.scopes.global? machine.current name with
  | none => exact .throw _ (law.unplaced _)
  | some value =>
      refine .pure value fun sound => ?_
      exact law.found machine _ value sound (Scopes.root_outward machine.scopes machine.current)
        (Scopes.holds_of_local machine.scopes _ name value found)

theorem lookupOuter (name : String) :
    law.Follows declares law.holds machine (Eval.lookupOuter name) (Eval.lookupOuter name) := by
  refine .get ?_
  cases found : machine.scopes.outer? machine.current name with
  | none => exact .throw _ (law.unplaced _)
  | some value =>
      refine .pure value fun sound => ?_
      obtain ⟨owner, around, holds⟩ := Scopes.holds_of_outer machine.scopes machine.current name value found
      exact law.found machine owner value sound around holds

theorem lookupLocal (name : String) :
    law.Follows declares (fun after found => ∀ value, found = some value → law.holds after value)
      machine (Eval.lookupLocal? name) (Eval.lookupLocal? name) := by
  refine .get (.pure _ fun sound value found => ?_)
  exact law.found machine _ value sound .refl (Scopes.holds_of_local machine.scopes _ name value found)

theorem isBound (name : String) :
    law.Follows declares Any machine (Eval.isBound name) (Eval.isBound name) :=
  .get (.pure _ fun _ => trivial)

theorem write (line : String) :
    law.Follows declares Any machine (Eval.write line) (Eval.write line) where
  agrees _ := .inl rfl
  ends _ := ⟨.write _ machine line, trivial⟩

theorem shown (value : Value) :
    law.Follows declares Any machine (Eval.shown value) (Eval.shown value) :=
  .get (.pure _ fun _ => trivial)

theorem newIdentity : law.Follows declares (fun after identity => identity < after.functions) machine
    Eval.newIdentity Eval.newIdentity where
  agrees _ := .inl rfl
  ends _ := ⟨.count _ machine, Nat.lt_succ_self _⟩

theorem newLedger : law.Follows true (fun after account => law.holds after (.ledger account)) machine
    Eval.newLedger Eval.newLedger where
  agrees _ := .inl rfl
  ends _ := ⟨.ledger machine, law.ledger _ _ (by simp)⟩

theorem post (ledger : Nat) (entry : Entry) :
    law.Follows true Any machine (Eval.post ledger entry) (Eval.post ledger entry) where
  agrees _ := .inl rfl
  ends _ := ⟨.post machine ledger entry, trivial⟩

end Law.Follows

end Fiscal
