import Fiscal.Proofs.Machine.Moves
import Fiscal.Proofs.Scope.Binding
import Fiscal.Proofs.Session.Made

set_option autoImplicit false

namespace Fiscal

open Machine

namespace Ledgers

theorem entries_post (ledgers : Ledgers) (account other : Nat) (entry : Entry)
    (known : account < ledgers.size) :
    (ledgers.post account entry).entries other =
      if account = other then ledgers.entries account ++ [entry] else ledgers.entries other := by
  rw [entries, post, Array.getD_eq_getD_getElem?, Array.getElem?_modify]
  by_cases same : account = other
  · subst same
    simp [entries, Array.getD_eq_getD_getElem?, Array.getElem?_eq_getElem known]
  · rw [if_neg same, if_neg same, entries, Array.getD_eq_getD_getElem?]

theorem entries_push (ledgers : Ledgers) (other : Nat) :
    entries (ledgers.push []) other = ledgers.entries other := by
  rw [entries, entries, Array.getD_eq_getD_getElem?, Array.getD_eq_getD_getElem?, Array.getElem?_push]
  by_cases fresh : other = ledgers.size
  · simp [fresh]
  · rw [if_neg fresh]

theorem entries_unknown (ledgers : Ledgers) (other : Nat) (unknown : ledgers.size ≤ other) :
    ledgers.entries other = [] := by
  simp [entries, Array.getD_eq_getD_getElem?, Array.getElem?_eq_none unknown]

end Ledgers

-- Amount and description are evaluated first, and give the entry.
def Prepares (parts : Evaluator) (posting : Posting) (machine ready : Machine) (entry : Entry) : Prop :=
  ∃ amount middle words, signedAmount parts posting machine = .ok amount middle ∧
    description parts posting.description middle = .ok words ready ∧
    entry = Entry.ofAmount ready.today amount words

namespace Machine

theorem accountLedger_cases (account : String) (machine after : Machine) (ledger : Nat)
    (ran : accountLedger account machine = .ok ledger after) :
    machine.scopes.local? machine.current account = some (.ledger ledger) ∧ after = machine ∨
      (∀ other, machine.scopes.local? machine.current account ≠ some (.ledger other)) ∧
        ledger = machine.ledgers.size ∧ after = { machine with ledgers := machine.ledgers.push [] } := by
  obtain ⟨bound, _, looked, chosen⟩ := Eval.bind_ok ran
  cases looked
  generalize machine.scopes.local? machine.current account = bound at chosen
  cases bound with
  | none =>
      cases chosen
      exact .inr ⟨by simp, rfl, rfl⟩
  | some value =>
      cases value with
      | ledger =>
          cases chosen
          exact .inl ⟨rfl, rfl⟩
      | _ =>
          cases chosen
          exact .inr ⟨by simp, rfl, rfl⟩

inductive Posts (ready : Machine) (name : String) (entry : Entry) : Machine → Prop where
  | known (account : Nat) (bound : ready.scopes.local? ready.current name = some (.ledger account)) :
      Posts ready name entry
        { ready with
          ledgers := ready.ledgers.post account entry
          scopes := ready.scopes.define ready.current name (.ledger account) }
  | fresh (unbound : ∀ account, ready.scopes.local? ready.current name ≠ some (.ledger account)) :
      Posts ready name entry
        { ready with
          ledgers := Ledgers.post (ready.ledgers.push []) ready.ledgers.size entry
          scopes := ready.scopes.define ready.current name (.ledger ready.ledgers.size) }

theorem post_cases (parts : Evaluator) (posting : Posting) (machine after : Machine) (outcome : Outcome)
    (ran : post parts posting machine = .ok outcome after) :
    ∃ ready entry, Prepares parts posting machine ready entry ∧
      Posts ready posting.account entry after := by
  obtain ⟨amount, middle, evaluated, later⟩ := Eval.bind_ok ran
  obtain ⟨words, ready, described, rest⟩ := Eval.bind_ok later
  obtain ⟨ledger, chosen, found, entered⟩ := Eval.bind_ok rest
  refine ⟨ready, _, ⟨amount, middle, words, evaluated, described, rfl⟩, ?_⟩
  rcases accountLedger_cases posting.account ready chosen ledger found with
    ⟨bound, rfl⟩ | ⟨unbound, rfl, rfl⟩
  · cases entered
    exact .known ledger bound
  · cases entered
    exact .fresh unbound

theorem prepares_stocked {parts : Evaluator} (keeps : Law.made.Parts parts parts) {posting : Posting}
    {machine ready : Machine} {entry : Entry} (stocked : machine.Stocked)
    (prepares : Prepares parts posting machine ready entry) : ready.Stocked := by
  obtain ⟨amount, middle, words, evaluated, described, _⟩ := prepares
  have first := (Law.Follows.signedAmount keeps posting fun _ _ => trivial).ends stocked
  rw [evaluated] at first
  have halfway := moves_stocked _ _ _ first.1 stocked
  have second := (Law.Follows.description keeps posting.description fun _ _ => trivial).ends halfway
  rw [described] at second
  exact moves_stocked _ _ _ second.1 halfway

-- The entry is the last one of the ledger, and nothing else has changed.
structure Entered (ready after : Machine) (account : Nat) (entry : Entry) : Prop where
  appended : after.ledgers.entries account = ready.ledgers.entries account ++ [entry]
  others : ∀ other ≠ account, after.ledgers.entries other = ready.ledgers.entries other
  scopes : after.scopes = ready.scopes

-- The entry is the only one of a new ledger, which the account stands for in the current scope and
-- those opened inside it. No ledger from before has changed, and no name elsewhere.
structure Diverted (ready after : Machine) (name : String) (entry : Entry) : Prop where
  ledgers : ∀ other < ready.ledgers.size, after.ledgers.entries other = ready.ledgers.entries other
  fresh : after.ledgers.entries ready.ledgers.size = [entry]
  shown : after.scopes.get? ready.current name = some (.ledger ready.ledgers.size)
  outside : ∀ scope other, ready.current ∉ ready.scopes.chain scope →
    after.scopes.get? scope other = ready.scopes.get? scope other

theorem posts_entered (ready after : Machine) (account : Nat) (name : String) (entry : Entry)
    (known : account < ready.ledgers.size)
    (bound : ready.scopes.local? ready.current name = some (.ledger account))
    (posts : Posts ready name entry after) : Entered ready after account entry := by
  cases posts with
  | known found binds =>
      cases binds.symm.trans bound
      exact {
        appended := by rw [Ledgers.entries_post _ _ _ _ known, if_pos rfl]
        others := fun other different => by rw [Ledgers.entries_post _ _ _ _ known, if_neg different.symm]
        scopes := Scopes.define_same _ _ _ _ bound }
  | fresh unbound => exact absurd bound (unbound account)

theorem posts_diverted (ready after : Machine) (owner : Nat) (name : String) (entry : Entry)
    (owned : ready.scopes.owner? ready.current name = some owner) (away : owner ≠ ready.current)
    (posts : Posts ready name entry after) : Diverted ready after name entry := by
  have here := Scopes.owned_known _ _ _ _ owned
  cases posts with
  | known nearer bound =>
      have binds : ready.scopes.binds name ready.current = true := by
        rw [Scopes.binds, bound]
        rfl
      have first := Scopes.owner?_here _ _ _ here binds
      exact absurd (Option.some.inj (owned.symm.trans first)) away
  | fresh unbound =>
      exact {
        ledgers := fun other old => by
          rw [Ledgers.entries_post _ _ _ _ (by simp), if_neg (by omega), Ledgers.entries_push]
        fresh := by
          rw [Ledgers.entries_post _ _ _ _ (by simp), if_pos rfl, Ledgers.entries_push,
            Ledgers.entries_unknown _ _ (Nat.le_refl _), List.nil_append]
        shown := Scopes.get?_define_here _ _ _ _ here
        outside := fun scope other outer => Scopes.get?_define_outside _ _ _ _ _ _ here outer }

theorem diverted_apart (ready after : Machine) (account : Nat) (name : String) (entry : Entry)
    (known : account < ready.ledgers.size) (diverted : Diverted ready after name entry) :
    after.ledgers.entries account ≠ ready.ledgers.entries account ++ [entry] := by
  intro appended
  rw [diverted.ledgers account known] at appended
  have longer := congrArg List.length appended
  simp at longer

end Machine

-- A posting is entered in the ledger that its account stands for exactly where the account is bound in
-- the current scope. From a scope further inside it goes to a new ledger that only this scope sees.
theorem posting_entered_iff_local (limits : Limits) (machine after : Machine) (posting : Posting)
    (outcome : Outcome) (stocked : machine.Stocked)
    (executed : (Evaluator.ofLimits limits).execute (.post posting) machine = .ok outcome after) :
    (∀ place, Session.Visited place → place.Stocked) ∧
      ∃ depth ready entry, limits.depth = depth + 1 ∧
        Prepares (.ofDepth limits.rounds depth) posting machine ready entry ∧
        ∀ owner account, ready.scopes.owner? ready.current posting.account = some owner →
          ready.scopes.local? owner posting.account = some (.ledger account) →
          (after.ledgers.entries account = ready.ledgers.entries account ++ [entry] ↔
              owner = ready.current) ∧
            (owner = ready.current → Entered ready after account entry) ∧
            (owner ≠ ready.current → Diverted ready after posting.account entry) := by
  refine ⟨made_lasting.visited, ?_⟩
  obtain ⟨levels, rounds⟩ := limits
  cases levels with
  | zero => cases executed
  | succ depth =>
      obtain ⟨ready, entry, prepares, posts⟩ := post_cases _ posting machine after outcome
        (Eval.located_ok executed)
      refine ⟨depth, ready, entry, rfl, prepares, fun owner account owned bound => ?_⟩
      have known : account < ready.ledgers.size := by
        have makes := prepares_stocked (made_lasting.parts ⟨depth, rounds⟩) stocked prepares
          owner _ (Scopes.holds_of_local _ _ _ _ bound)
        exact makes _ (.self _)
      by_cases nearest : owner = ready.current
      · rw [nearest] at bound
        have entered := posts_entered ready after account posting.account entry known bound posts
        exact ⟨⟨fun _ => nearest, fun _ => entered.appended⟩, fun _ => entered,
          fun away => absurd nearest away⟩
      · have diverted := posts_diverted ready after owner posting.account entry owned nearest posts
        have apart := diverted_apart ready after account posting.account entry known diverted
        exact ⟨⟨fun appended => absurd appended apart, fun same => absurd same nearest⟩,
          fun same => absurd same nearest, fun _ => diverted⟩

theorem Value.named_ledger (found : Option Value) (account : Nat)
    (named : (found.any fun value => match value with
      | .ledger other => other == account
      | _ => false) = true) : found = some (.ledger account) := by
  cases found with
  | none => cases named
  | some value =>
      cases value with
      | ledger other =>
          have same : other = account := by simpa using named
          rw [same]
      | _ => cases named

-- A second posting to an account, in a scope inside the one that binds it, is not in its ledger.
theorem posting_inside_diverted :
    let outer := (Session.execute ⟨50, 50⟩ none "DEBIT cash 1" (start .standard ⟨[]⟩ "2024-02-29")).2
    let machine := outer.entering 0
    let posting : Posting := ⟨default, .debit, "cash", .literal default (.number 2), none⟩
    ∃ outcome after ready entry, machine.Stocked ∧
      (Evaluator.ofLimits ⟨50, 50⟩).execute (.post posting) machine = .ok outcome after ∧
      ready.scopes.owner? ready.current "cash" = some 0 ∧ ready.current = 1 ∧
      ready.scopes.local? 0 "cash" = some (.ledger 0) ∧ Diverted ready after "cash" entry := by
  intro outer machine posting
  have visited : Session.Visited outer := .idle outer (.executed _ _ _ _ (.start _ _ _))
  have stocked : machine.Stocked := stocked_entering outer 0 (made_lasting.visited outer visited)
  have owned : machine.scopes.owner? machine.current "cash" = some 0 := by decide +kernel
  have inside : machine.current = 1 := by decide +kernel
  have bound : machine.scopes.local? 0 "cash" = some (.ledger 0) :=
    Value.named_ledger _ 0 (by decide +kernel)
  cases ran : (Evaluator.ofLimits ⟨50, 50⟩).execute (.post posting) machine with
  | error failure after =>
      have finished : (match (Evaluator.ofLimits ⟨50, 50⟩).execute (.post posting) machine with
          | .ok _ _ => true
          | .error _ _ => false) = true := by decide +kernel
      rw [ran] at finished
      cases finished
  | ok outcome after =>
      obtain ⟨_, depth, ready, entry, same, prepares, enters⟩ :=
        posting_entered_iff_local ⟨50, 50⟩ machine after posting outcome stocked ran
      cases same
      have unchanged : ready = machine := by
        obtain ⟨amount, middle, words, evaluated, described, _⟩ := prepares
        cases evaluated
        cases described
        rfl
      rw [unchanged] at enters
      exact ⟨outcome, after, machine, entry, stocked, rfl, owned, inside, bound,
        (enters 0 0 owned bound).2.2 (by rw [inside]; decide)⟩

end Fiscal
