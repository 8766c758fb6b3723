import Fiscal.Grammar.Statement

set_option autoImplicit false

namespace Fiscal.Grammar

namespace Cursor

def rest (cursor : Cursor) : List Token := cursor.current :: cursor.ahead

def Ended (cursor : Cursor) : Prop :=
  (cursor.ahead.getLast?.getD cursor.current).kind = .endOfFile

end Cursor

-- From a cursor to one further on.
structure Passes (first last : Cursor) : Prop where
  tokens : ∃ passed, first.rest = passed ++ last.rest ∧
    (∀ token ∈ passed, token.kind ≠ .endOfFile) ∧
    last.previous = passed.getLast?.getD first.previous
  lines : last.lines = first.lines
  reports : first.reports <:+ last.reports

-- Fewer than `bound` tokens are ahead, up to the end of the file.
structure Room (bound : Nat) (cursor : Cursor) : Prop where
  ended : cursor.Ended
  within : cursor.ahead.length < bound

def Shorter (first last : Cursor) : Prop := last.ahead.length < first.ahead.length

namespace Passes

theorem refl (cursor : Cursor) : Passes cursor cursor :=
  ⟨⟨[], rfl, by simp, rfl⟩, rfl, List.suffix_rfl⟩

theorem trans {first middle last : Cursor} (before : Passes first middle) (after : Passes middle last) :
    Passes first last := by
  obtain ⟨early, split, open₁, previous₁⟩ := before.tokens
  obtain ⟨late, split₂, open₂, previous₂⟩ := after.tokens
  refine ⟨⟨early ++ late, ?_, ?_, ?_⟩, after.lines.trans before.lines,
    before.reports.trans after.reports⟩
  · rw [split, split₂, List.append_assoc]
  · intro token member
    rcases List.mem_append.mp member with earlier | later
    · exact open₁ token earlier
    · exact open₂ token later
  · rw [previous₂, previous₁, List.getLast?_append]
    cases late.getLast? <;> rfl

theorem length_le {first last : Cursor} (passes : Passes first last) :
    last.ahead.length ≤ first.ahead.length := by
  obtain ⟨passed, split, _, _⟩ := passes.tokens
  have lengths := congrArg List.length split
  simp only [Cursor.rest, List.length_append, List.length_cons] at lengths
  omega

theorem ended {first last : Cursor} (passes : Passes first last) (ended : first.Ended) :
    last.Ended := by
  obtain ⟨passed, split, _, _⟩ := passes.tokens
  have final : first.rest.getLast? = last.rest.getLast? := by
    rw [split, Cursor.rest, List.getLast?_append, List.getLast?_cons]
    rfl
  simp only [Cursor.rest, List.getLast?_cons, Option.some.injEq] at final
  unfold Cursor.Ended at ended ⊢
  rwa [← final]

theorem room {first last : Cursor} {bound : Nat} (passes : Passes first last)
    (room : Room bound first) : Room bound last :=
  ⟨passes.ended room.ended, Nat.lt_of_le_of_lt passes.length_le room.within⟩

theorem unreported {first middle last : Cursor} (before : Passes first middle)
    (after : Passes middle last) (same : last.reports = first.reports) :
    middle.reports = first.reports := by
  have shorter := before.reports.length_le
  have longer := after.reports.length_le
  rw [same] at longer
  exact (before.reports.eq_of_length (Nat.le_antisymm shorter longer)).symm

theorem advance (cursor : Cursor) : Passes cursor cursor.advance := by
  unfold Cursor.advance
  split
  · exact refl cursor
  · rename_i going
    split
    · exact refl cursor
    · rename_i next others ahead
      refine ⟨⟨[cursor.current], ?_, ?_, rfl⟩, rfl, List.suffix_rfl⟩
      · simp only [Cursor.rest, ahead, List.singleton_append]
      · simpa [Cursor.atEnd, Cursor.kind] using going

theorem skip (goOn : Token → Token → Bool) (cursor : Cursor) : Passes cursor (cursor.skip goOn) := by
  obtain ⟨previous, current, ahead, lines, reports⟩ := cursor
  induction ahead generalizing previous current with
  | nil => exact refl _
  | cons next others ih =>
      by_cases on : (current.kind != .endOfFile && goOn previous current) = true
      · have onward : Passes ⟨previous, current, next :: others, lines, reports⟩
            ⟨current, next, others, lines, reports⟩ := by
          refine ⟨⟨[current], rfl, ?_, rfl⟩, rfl, List.suffix_rfl⟩
          simpa using (Bool.and_eq_true_iff.mp on).1
        simp only [Cursor.skip, Cursor.advanceWhile, if_pos on]
        exact onward.trans (ih current next)
      · simp only [Cursor.skip, Cursor.advanceWhile, if_neg on]
        exact refl _

end Passes

theorem advance_shorter {cursor : Cursor} (ended : cursor.Ended) (going : cursor.kind ≠ .endOfFile) :
    Shorter cursor cursor.advance := by
  have on : cursor.atEnd = false := by simpa [Cursor.atEnd] using going
  unfold Shorter Cursor.advance
  rw [on, if_neg (by decide)]
  cases ahead : cursor.ahead with
  | nil =>
      unfold Cursor.Ended at ended
      rw [ahead] at ended
      exact absurd ended going
  | cons next others => exact Nat.lt_succ_self _

section Law

variable {α β : Type}

def Always (_ : α) : Prop := True

def Never (_ : α) : Prop := False

def Any (_ : α) : Prop := True

def More {σ : Type} (result : σ × Bool) : Prop := result.2 = true

-- How a reading that started at a cursor has ended: with a value, which if it `takes` has taken a
-- token, or with a refusal, but not at a bound. Unless something was reported the value is good, and
-- the twin has ended in the same way.
def Leads (takes good : α → Prop) (cursor : Cursor) (twin : EStateM.Result Halt Cursor α) :
    EStateM.Result Halt Cursor α → Prop
  | .ok value after =>
      Passes cursor after ∧ (takes value → Shorter cursor after) ∧
        (after.reports = cursor.reports → good value ∧ twin = .ok value after)
  | .error (.refused _) after => Passes cursor after
  | .error .unfinished _ => False

def Reads (bound : Nat) (takes good : α → Prop) (cursor : Cursor) (reading twin : Reading α) : Prop :=
  Room bound cursor → Leads takes good cursor (twin cursor) (reading cursor)

theorem Leads.onward {takes takesOn good goodOn : α → Prop} {cursor middle : Cursor}
    {twin twinOn result : EStateM.Result Halt Cursor α} (passes : Passes cursor middle)
    (leads : Leads takesOn goodOn middle twinOn result)
    (taken : ∀ value, takes value → Shorter cursor middle ∨ takesOn value)
    (same : middle.reports = cursor.reports → (∀ value, goodOn value → good value) ∧ twin = twinOn) :
    Leads takes good cursor twin result := by
  cases result with
  | ok value after =>
      obtain ⟨onward, took, quiet⟩ := leads
      refine ⟨passes.trans onward, fun takes => ?_, fun silent => ?_⟩
      · rcases taken value takes with sooner | later
        · exact Nat.lt_of_le_of_lt onward.length_le sooner
        · exact Nat.lt_of_lt_of_le (took later) passes.length_le
      · have between := passes.unreported onward silent
        obtain ⟨proper, ended⟩ := quiet (silent.trans between.symm)
        exact ⟨(same between).1 value proper, (same between).2.trans ended⟩
  | error halt after =>
      cases halt with
      | refused => exact passes.trans leads
      | unfinished => exact leads

namespace Reads

variable {bound : Nat} {takes good : α → Prop} {result : β → Prop} {cursor : Cursor}
  {reading twin : Reading α} {next nextTwin : α → Reading β}

theorem chain {narrow : Nat} {takesOn : β → Prop} {proper : β → Prop}
    (first : Reads bound takes good cursor reading twin)
    (narrowed : ∀ value after, Room bound cursor → Room bound after →
      (takes value → Shorter cursor after) → Room narrow after)
    (taken : ∀ value last, result last → takes value ∨ takesOn last)
    (rest : ∀ value after, Reads narrow takesOn (fun last => good value → proper last) after
      (next value) (nextTwin value)) :
    Reads bound result proper cursor (reading >>= next) (twin >>= nextTwin) := by
  intro room
  have leads := first room
  change Leads result proper cursor (EStateM.bind twin nextTwin cursor)
    (EStateM.bind reading next cursor)
  unfold EStateM.bind
  cases ran : reading cursor with
  | ok value after =>
      rw [ran] at leads
      obtain ⟨passes, took, quiet⟩ := leads
      have later := rest value after (narrowed value after room (passes.room room) took)
      refine Leads.onward passes later (fun last lasting => ?_) fun silent => ?_
      · exact (taken value last lasting).imp_left took
      · obtain ⟨held, ended⟩ := quiet silent
        rw [ended]
        exact ⟨fun _ kept => kept held, rfl⟩
  | error halt after =>
      rw [ran] at leads
      cases halt with
      | refused => exact leads
      | unfinished => exact leads

theorem imply {premise : Prop} (reads : Reads bound takes good cursor reading twin) :
    Reads bound takes (fun value => premise → good value) cursor reading twin :=
  fun room => (reads room).onward (.refl cursor) (fun _ => .inr)
    fun _ => ⟨fun _ proper _ => proper, rfl⟩

theorem bind {proper : β → Prop} (first : Reads bound takes good cursor reading twin)
    (rest : ∀ value after, Reads bound result proper after (next value) (nextTwin value)) :
    Reads bound result proper cursor (reading >>= next) (twin >>= nextTwin) :=
  first.chain (fun _ _ _ room _ => room) (fun _ _ takes => .inr takes)
    fun value after => (rest value after).imply

theorem holding {proper : β → Prop} (first : Reads bound takes good cursor reading twin)
    (rest : ∀ value after, Reads bound result (fun last => good value → proper last) after
      (next value) (nextTwin value)) :
    Reads bound result proper cursor (reading >>= next) (twin >>= nextTwin) :=
  first.chain (fun _ _ _ room _ => room) (fun _ _ takes => .inr takes) rest

theorem taking {proper : β → Prop} (first : Reads bound Always good cursor reading twin)
    (rest : ∀ value after, Reads bound Never proper after (next value) (nextTwin value)) :
    Reads bound result proper cursor (reading >>= next) (twin >>= nextTwin) :=
  first.chain (fun _ _ _ room _ => room) (fun _ _ _ => .inl trivial)
    fun value after => (rest value after).imply

theorem gaining {proper : β → Prop} (first : Reads bound Always good cursor reading twin)
    (rest : ∀ value after, Reads bound Never (fun last => good value → proper last) after
      (next value) (nextTwin value)) :
    Reads bound result proper cursor (reading >>= next) (twin >>= nextTwin) :=
  first.chain (fun _ _ _ room _ => room) (fun _ _ _ => .inl trivial) rest

theorem entering {proper : β → Prop} (first : Reads (bound + 1) Always good cursor reading twin)
    (rest : ∀ value after, Reads bound Never proper after (next value) (nextTwin value)) :
    Reads (bound + 1) result proper cursor (reading >>= next) (twin >>= nextTwin) :=
  first.chain
    (fun _ _ before room took =>
      ⟨room.ended, Nat.lt_of_lt_of_le (took trivial) (Nat.le_of_lt_succ before.within)⟩)
    (fun _ _ _ => .inl trivial) fun value after => (rest value after).imply

theorem pure (value : α) (idle : ¬ takes value) (proper : good value) :
    Reads bound takes good cursor (pure value) (pure value) :=
  fun _ => ⟨.refl cursor, fun took => absurd took idle, fun _ => ⟨proper, rfl⟩⟩

theorem refuse (diagnostic : Source.Diagnostic) :
    Reads bound takes good cursor (throw (.refused diagnostic)) twin :=
  fun _ => Passes.refl cursor

theorem get {next nextTwin : Cursor → Reading α}
    (rest : Reads bound takes good cursor (next cursor) (nextTwin cursor)) :
    Reads bound takes good cursor (get >>= next) (get >>= nextTwin) :=
  rest

theorem unexpected (expected : String) :
    Reads bound takes good cursor (unexpected expected) (Grammar.unexpected expected) :=
  .get (.refuse _)

theorem failAt (issue : Source.Issue) (span : Source.Span) (token : Token) :
    Reads bound takes good cursor (failAt issue span token) (Grammar.failAt issue span token) :=
  .get (.refuse _)

theorem kindHere {next nextTwin : TokenKind → Reading α}
    (rest : Reads bound takes good cursor (next cursor.kind) (nextTwin cursor.kind)) :
    Reads bound takes good cursor (kindHere >>= next) (Grammar.kindHere >>= nextTwin) :=
  rest

theorem at? (kind : TokenKind) {next nextTwin : Bool → Reading α}
    (rest : Reads bound takes good cursor (next (cursor.kind == kind)) (nextTwin (cursor.kind == kind))) :
    Reads bound takes good cursor (at? kind >>= next) (Grammar.at? kind >>= nextTwin) :=
  rest

theorem atAny (kinds : List TokenKind) {next nextTwin : Bool → Reading α}
    (rest : Reads bound takes good cursor (next (kinds.contains cursor.kind))
      (nextTwin (kinds.contains cursor.kind))) :
    Reads bound takes good cursor (atAny kinds >>= next) (Grammar.atAny kinds >>= nextTwin) :=
  rest

theorem both {test : Prop} [Decidable test] {first second firstTwin secondTwin : Reading α}
    (yes : test → Reads bound takes good cursor first firstTwin)
    (no : ¬ test → Reads bound takes good cursor second secondTwin) :
    Reads bound takes good cursor (if test then first else second)
      (if test then firstTwin else secondTwin) := by
  split
  · exact yes ‹_›
  · exact no ‹_›

theorem give (value : α) : Reads bound Never Any cursor (Pure.pure value) (Pure.pure value) :=
  .pure value id trivial

theorem spanFrom (first : Source.Location) :
    Reads bound Never Any cursor (spanFrom first) (Grammar.spanFrom first) :=
  .get (.give _)

theorem step : Reads bound (fun _ => cursor.kind ≠ .endOfFile) Any cursor advance Grammar.advance :=
  fun room => ⟨.advance cursor, fun going => advance_shorter room.ended going, fun _ => ⟨trivial, rfl⟩⟩

theorem weaken {few : α → Prop} (reads : Reads bound takes good cursor reading twin)
    (fewer : ∀ value, few value → takes value) : Reads bound few good cursor reading twin :=
  fun room => (reads room).onward (.refl cursor) (fun value took => .inr (fewer value took))
    fun _ => ⟨fun _ => id, rfl⟩

theorem idle (reads : Reads bound takes good cursor reading twin) :
    Reads bound Never good cursor reading twin :=
  reads.weaken fun _ => False.elim

theorem advance (going : cursor.kind ≠ .endOfFile) :
    Reads bound Always Any cursor advance Grammar.advance :=
  step.weaken fun _ _ => going

theorem accept (kind : TokenKind) (going : kind ≠ .endOfFile) :
    Reads bound (· = true) Any cursor (accept kind) (Grammar.accept kind) := by
  refine .at? kind (.both (fun found => ?_) fun _ => .pure false (by simp) trivial)
  exact (advance (by simpa [beq_iff_eq.mp found] using going)).taking
    fun _ _ => .give true

theorem acceptAny (kinds : List TokenKind) (going : .endOfFile ∉ kinds) :
    Reads bound (· = true) Any cursor (acceptAny kinds) (Grammar.acceptAny kinds) := by
  refine .atAny kinds (.both (fun found => ?_) fun _ => .pure false (by simp) trivial)
  refine (advance fun last => going ?_).taking fun _ _ => .give true
  rw [← last]
  exact List.contains_iff_mem.mp found

theorem expect (kind : TokenKind) (expected : String) (going : kind ≠ .endOfFile) :
    Reads bound Always Any cursor (expect kind expected) (Grammar.expect kind expected) := by
  refine .at? kind (.both (fun found => ?_) fun _ => .unexpected expected)
  exact .advance (by simpa [beq_iff_eq.mp found] using going)

theorem expectName (expected : String) :
    Reads bound Always Any cursor (expectName expected) (Grammar.expectName expected) := by
  refine .kindHere (.both (fun named => ?_) fun _ => .unexpected expected)
  refine (advance fun last => ?_).taking fun _ _ => .give _
  rw [last] at named
  cases named

theorem skipNewlines : Reads bound Never Any cursor skipNewlines Grammar.skipNewlines :=
  fun _ => ⟨.skip _ cursor, False.elim, fun _ => ⟨trivial, rfl⟩⟩

theorem expectLineEnd : Reads bound Never Any cursor expectLineEnd Grammar.expectLineEnd := by
  refine .atAny _ (.both (fun _ => .give _) fun _ => ?_)
  refine (accept .newline (by decide)).bind fun _ _ => ?_
  exact .both (fun _ => .give _) fun _ => .unexpected _

-- A loop ends within its bound, since every round that asks for another takes a token.
theorem repeatStep {σ : Type} {kept : σ → Prop} {round roundTwin : σ → Reading (σ × Bool)}
    (rounds : ∀ state cursor, Reads bound More (fun last => kept state → kept last.1) cursor
      (round state) (roundTwin state)) (count : Nat) (state : σ) (cursor : Cursor)
    (enough : cursor.ahead.length < count) :
    Reads bound Never (fun last => kept state → kept last) cursor
      (repeatStep round count state) (Grammar.repeatStep roundTwin count state) := by
  induction count generalizing state cursor with
  | zero => exact absurd enough (Nat.not_lt_zero _)
  | succ count ih =>
      intro room
      have leads := rounds state cursor room
      change Leads _ _ cursor (EStateM.bind (roundTwin state) _ cursor)
        (EStateM.bind (round state) _ cursor)
      unfold EStateM.bind
      cases ran : round state cursor with
      | error halt after =>
          rw [ran] at leads
          cases halt with
          | refused => exact leads
          | unfinished => exact leads
      | ok next after =>
          rw [ran] at leads
          obtain ⟨passes, took, quiet⟩ := leads
          obtain ⟨state', more⟩ := next
          cases more with
          | false =>
              refine ⟨passes, False.elim, fun silent => ?_⟩
              obtain ⟨proper, ended⟩ := quiet silent
              rw [ended]
              exact ⟨proper, rfl⟩
          | true =>
              have fewer : after.ahead.length < count :=
                Nat.lt_of_lt_of_le (took rfl) (Nat.le_of_lt_succ enough)
              refine (ih state' after fewer (passes.room room)).onward passes
                (fun _ => False.elim) fun silent => ?_
              obtain ⟨proper, ended⟩ := quiet silent
              rw [ended]
              exact ⟨fun _ later first => later (proper first), rfl⟩

theorem repeating {σ : Type} {kept : σ → Prop} {round roundTwin : σ → Reading (σ × Bool)}
    (rounds : ∀ state cursor, Reads bound More (fun last => kept state → kept last.1) cursor
      (round state) (roundTwin state)) (state : σ) :
    Reads bound Never (fun last => kept state → kept last) cursor
      (repeating state round) (Grammar.repeating state roundTwin) :=
  .get (repeatStep rounds _ state cursor (Nat.lt_succ_self _))

theorem loop {σ : Type} {round roundTwin : σ → Reading (σ × Bool)}
    (rounds : ∀ state cursor, Reads bound More Any cursor (round state) (roundTwin state)) (state : σ) :
    Reads bound Never Any cursor (Grammar.repeating state round) (Grammar.repeating state roundTwin) :=
  fun room => by
    have leads : Leads Never (fun last => Any state → Any last) cursor _ _ :=
      repeating (fun state after => (rounds state after).imply) state room
    exact leads.onward (.refl cursor) (fun _ => .inr) fun _ => ⟨fun _ _ => trivial, rfl⟩

theorem optionalAfter (kind : TokenKind) (going : kind ≠ .endOfFile)
    (reads : ∀ cursor, Reads bound takes good cursor reading twin) :
    Reads bound Never (fun found => ∀ value ∈ found, good value) cursor
      (optionalAfter kind reading) (Grammar.optionalAfter kind twin) := by
  refine (accept kind going).bind fun found after => .both (fun _ => ?_) fun _ => ?_
  · refine (reads after).holding fun value _ => .pure _ id ?_
    rintro proper _ ⟨⟩
    exact proper
  · exact .pure _ id nofun

theorem unlessAny (kinds : List TokenKind) (reads : ∀ cursor, Reads bound takes Any cursor reading twin) :
    Reads bound Never Any cursor (unlessAny kinds reading) (Grammar.unlessAny kinds twin) := by
  refine .atAny kinds (.both (fun _ => .give _) fun _ => ?_)
  exact (reads cursor).bind fun _ _ => .give _

theorem joined (reads : ∀ cursor, Reads bound Always Any cursor reading twin) :
    Reads bound Always Any cursor (joined reading) (Grammar.joined twin) := by
  have round (items : List α) (cursor : Cursor) :
      Reads bound More Any cursor (nextJoined reading items) (nextJoined twin items) := by
    refine (accept .comma (by decide)).bind fun _ after => .both (fun _ => ?_) fun _ => ?_
    · exact (reads after).taking fun _ _ => .give _
    · exact .pure _ nofun trivial
  refine (reads cursor).taking fun first _ => ?_
  exact (loop round [first]).bind fun _ _ => .give _

end Reads

end Law

end Fiscal.Grammar
