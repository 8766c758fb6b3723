import Fiscal.Proofs.Grammar.Program
import Fiscal.Proofs.Token.Nesting
import Fiscal.Token.OpenBlocks

set_option autoImplicit false

namespace Fiscal.Token

def isPlain (kind : TokenKind) : Bool :=
  !opensBlock kind && kind != .endKeyword && kind != .dot && !kind.isBracket

end Fiscal.Token

namespace Fiscal.Grammar

open Token (Bracket Worded opensBlock isPlain)

-- A measure of a list of kinds, by the kind before it. The token behind a point is read as the name of a
-- member, unless it is a bracket; an IF that goes on with the block of an ELSE opens none.
structure Measure (Amount : Type) where
  ahead : TokenKind → List TokenKind → Amount
  change : TokenKind → TokenKind → Amount → Amount
  opened : Amount → Amount
  closed : Amount → Amount
  entered : Bracket → Amount → Amount
  left : Bracket → Amount → Amount
  cons (before kind : TokenKind) (rest : List TokenKind) : kind ≠ .dot →
    ahead before (kind :: rest) = change before kind (ahead kind rest)
  member (before name : TokenKind) (rest : List TokenKind) : name.isBracket = false →
    ahead before (.dot :: name :: rest) = ahead name rest
  plain (before kind : TokenKind) : isPlain kind = true → change before kind = id
  chained : change .elseKeyword .ifKeyword = id
  opens (before kind : TokenKind) : opensBlock kind = true →
    (kind = .ifKeyword → before ≠ .elseKeyword) → change before kind = opened
  closes (before : TokenKind) : change before .endKeyword = closed
  enters (before : TokenKind) (bracket : Bracket) : change before bracket.opening = entered bracket
  leaves (before : TokenKind) (bracket : Bracket) : change before bracket.closing = left bracket
  block (amount : Amount) : opened (closed amount) = amount
  group (bracket : Bracket) (amount : Amount) : entered bracket (left bracket amount) = amount

variable {Amount : Type}

namespace Cursor

def Fresh (cursor : Cursor) : Prop := cursor.kind = .ifKeyword → cursor.previous.kind ≠ .elseKeyword

def Behind (kind : TokenKind) (cursor : Cursor) : Prop :=
  kind = .endOfFile ∨ cursor.previous.kind = kind

theorem Behind.fresh {kind : TokenKind} {cursor : Cursor} (behind : cursor.Behind kind)
    (going : kind ≠ .endOfFile) (other : kind ≠ .elseKeyword) : cursor.Fresh := by
  rcases behind with last | same
  · exact absurd last going
  · exact fun _ => same ▸ other

theorem Ended.ahead {cursor : Cursor} (ended : cursor.Ended) (going : cursor.kind ≠ .endOfFile) :
    ∃ next others, cursor.ahead = next :: others := by
  cases ahead : cursor.ahead with
  | nil =>
      unfold Ended at ended
      rw [ahead] at ended
      exact absurd ended going
  | cons next others => exact ⟨next, others, rfl⟩

theorem advance_eq {cursor : Cursor} {next : Token} {others : List Token} (going : cursor.kind ≠ .endOfFile)
    (ahead : cursor.ahead = next :: others) :
    cursor.advance = { cursor with previous := cursor.current, current := next, ahead := others } := by
  unfold advance
  rw [if_neg (by simpa [atEnd] using going), ahead]

theorem advance_last {cursor : Cursor} (last : cursor.kind = .endOfFile) : cursor.advance = cursor := by
  unfold advance
  rw [if_pos (by simpa [atEnd] using last)]

structure Proper (cursor : Cursor) : Prop where
  ended : cursor.Ended
  worded : Worded cursor.rest

end Cursor

theorem Passes.proper {first last : Cursor} (passes : Passes first last) (proper : first.Proper) : last.Proper := by
  obtain ⟨passed, split, _⟩ := passes.tokens
  refine ⟨passes.ended proper.ended, fun token member => proper.worded token ?_⟩
  rw [split]
  exact List.mem_append_right passed member

namespace Measure

variable (measure : Measure Amount)

def of (cursor : Cursor) : Amount := measure.ahead cursor.previous.kind (cursor.rest.map (·.kind))

theorem of_advance {cursor : Cursor} (ended : cursor.Ended) (other : cursor.kind ≠ .dot) :
    measure.of cursor = measure.change cursor.previous.kind cursor.kind (measure.of cursor.advance) := by
  by_cases going : cursor.kind = .endOfFile
  · rw [Cursor.advance_last going, going, measure.plain _ .endOfFile rfl]
    rfl
  · obtain ⟨next, others, ahead⟩ := ended.ahead going
    rw [Cursor.advance_eq going ahead]
    unfold of Cursor.rest
    rw [ahead, List.map_cons, measure.cons _ _ _ (by exact other)]
    rfl

end Measure

-- How a reading that has come to a value has changed the measure of what is ahead, and what is so of the
-- cursor it has left.
def Counts {α : Type} (measure : Measure Amount) (change : Amount → Amount) (good : Cursor → Prop)
    (cursor : Cursor) (reading : Reading α) : Prop :=
  cursor.Proper → ∀ value after, reading cursor = .ok value after →
    after.Proper ∧ measure.of cursor = change (measure.of after) ∧ good after

namespace Counts

section Law

variable {α β : Type} {measure : Measure Amount} {change other whole : Amount → Amount}
  {good good' : Cursor → Prop} {cursor : Cursor} {reading : Reading α} {next : α → Reading β}

theorem chain (first : Counts measure change good cursor reading)
    (rest : ∀ value after, good after → Counts measure other good' after (next value))
    (both : ∀ amount, change (other amount) = whole amount) :
    Counts measure whole good' cursor (reading >>= next) := by
  intro proper last after ran
  obtain ⟨value, middle, one, two⟩ := bind_ok ran
  obtain ⟨still, begun, held⟩ := first proper value middle one
  obtain ⟨again, later, holds⟩ := rest value middle held still last after two
  exact ⟨again, by rw [begun, later, both], holds⟩

theorem bind (first : Counts measure id good cursor reading)
    (rest : ∀ value after, good after → Counts measure change good' after (next value)) :
    Counts measure change good' cursor (reading >>= next) :=
  first.chain rest fun _ => rfl

theorem within (first : Counts measure measure.opened good cursor reading)
    (rest : ∀ value after, good after → Counts measure measure.closed good' after (next value)) :
    Counts measure id good' cursor (reading >>= next) :=
  first.chain rest measure.block

theorem around {bracket : Bracket} (first : Counts measure (measure.entered bracket) good cursor reading)
    (rest : ∀ value after, good after →
      Counts measure (fun amount => measure.left bracket (change amount)) good' after (next value)) :
    Counts measure change good' cursor (reading >>= next) :=
  first.chain rest fun amount => measure.group bracket (change amount)

theorem amid {bracket : Bracket} (first : Counts measure (measure.entered bracket) good cursor reading)
    (rest : ∀ value after, good after → Counts measure (measure.left bracket) good' after (next value)) :
    Counts measure id good' cursor (reading >>= next) :=
  first.around rest

theorem closing (first : Counts measure change good cursor reading)
    (rest : ∀ value after, good after → Counts measure id good' after (next value)) :
    Counts measure change good' cursor (reading >>= next) :=
  first.chain rest fun _ => rfl

theorem weaken (counted : Counts measure change good cursor reading) :
    Counts measure change Any cursor reading := by
  intro proper value after ran
  obtain ⟨still, same, _⟩ := counted proper value after ran
  exact ⟨still, same, trivial⟩

theorem pure (value : α) (holds : good cursor) :
    Counts measure id good cursor (Pure.pure value : Reading α) := by
  rintro proper _ _ ⟨⟩
  exact ⟨proper, rfl, holds⟩

theorem give (value : α) : Counts measure id Any cursor (Pure.pure value : Reading α) := .pure value trivial

theorem refuse (halt : Halt) : Counts measure change good cursor (throw halt : Reading α) := by
  rintro _ _ _ ran
  cases ran

theorem get {next : Cursor → Reading α} (rest : Counts measure change good cursor (next cursor)) :
    Counts measure change good cursor (get >>= next) :=
  rest

theorem unexpected (expected : String) : Counts measure change good cursor (unexpected expected : Reading α) :=
  .get (.refuse _)

theorem failAt (issue : Source.Issue) (span : Source.Span) (token : Token) :
    Counts measure change good cursor (failAt issue span token : Reading α) :=
  .get (.refuse _)

theorem kindHere {next : TokenKind → Reading α} (rest : Counts measure change good cursor (next cursor.kind)) :
    Counts measure change good cursor (kindHere >>= next) :=
  rest

theorem at? (kind : TokenKind) {next : Bool → Reading α}
    (rest : Counts measure change good cursor (next (cursor.kind == kind))) :
    Counts measure change good cursor (at? kind >>= next) :=
  rest

theorem atAny (kinds : List TokenKind) {next : Bool → Reading α}
    (rest : Counts measure change good cursor (next (kinds.contains cursor.kind))) :
    Counts measure change good cursor (atAny kinds >>= next) :=
  rest

theorem spanFrom (first : Source.Location) {next : Source.Span → Reading α}
    (rest : ∀ span, Counts measure change good cursor (next span)) :
    Counts measure change good cursor (spanFrom first >>= next) :=
  rest _

theorem both {test : Prop} [Decidable test] {first second : Reading α}
    (yes : test → Counts measure change good cursor first) (no : ¬ test → Counts measure change good cursor second) :
    Counts measure change good cursor (if test then first else second) := by
  split
  · exact yes ‹_›
  · exact no ‹_›

theorem advanceOver (kind : TokenKind) (here : cursor.kind = kind) (other : kind ≠ .dot)
    (counts : measure.change cursor.previous.kind kind = change) :
    Counts measure change (Cursor.Behind kind) cursor advance := by
  rintro proper _ _ ⟨⟩
  refine ⟨(Passes.advance cursor).proper proper, ?_, ?_⟩
  · rw [measure.of_advance proper.ended (here ▸ other), here, counts]
  · by_cases going : cursor.kind = .endOfFile
    · exact .inl (here.symm.trans going)
    · obtain ⟨next, others, ahead⟩ := proper.ended.ahead going
      rw [Cursor.advance_eq going ahead]
      exact .inr here

theorem advance (plain : isPlain cursor.kind = true) : Counts measure id Any cursor advance := by
  have other : cursor.kind ≠ .dot := by
    intro point
    rw [point] at plain
    cases plain
  exact (advanceOver cursor.kind rfl other (measure.plain _ _ plain)).weaken

theorem advanceTo (plain : isPlain cursor.kind = true) (going : cursor.kind ≠ .endOfFile) (kind : TokenKind)
    (known : cursor.kindAhead 0 = kind) (further : kind ≠ .endOfFile) :
    Counts measure id (fun after => after.kind = kind ∧ after.previous.kind = cursor.kind ∧
      ∀ distance, after.kindAhead distance = cursor.kindAhead (distance + 1)) cursor Grammar.advance := by
  rintro proper value after ran
  have moved : Counts measure id Any cursor Grammar.advance := advance plain
  obtain ⟨still, same, _⟩ := moved proper value after ran
  refine ⟨still, same, ?_⟩
  cases ran
  cases ahead : cursor.ahead with
  | nil =>
      rw [Cursor.kindAhead, ahead] at known
      exact absurd known.symm further
  | cons next others =>
      rw [Cursor.advance_eq going ahead]
      unfold Cursor.kindAhead at known ⊢
      rw [ahead] at known ⊢
      exact ⟨known, rfl, fun _ => rfl⟩

theorem advanceInto (opens : opensBlock cursor.kind = true) (fresh : cursor.Fresh) :
    Counts measure measure.opened Any cursor Grammar.advance := by
  have other : cursor.kind ≠ .dot := by
    intro point
    rw [point] at opens
    cases opens
  exact (advanceOver cursor.kind rfl other (measure.opens _ _ opens fresh)).weaken

theorem advanceInside (bracket : Bracket) (here : cursor.kind = bracket.opening) :
    Counts measure (measure.entered bracket) Any cursor Grammar.advance :=
  (advanceOver _ here (by cases bracket <;> decide) (measure.enters _ bracket)).weaken

theorem accept (kind : TokenKind) (plain : isPlain kind = true) : Counts measure id Any cursor (accept kind) := by
  refine .at? kind (.both (fun found => ?_) fun _ => .give false)
  exact (advance (by rwa [beq_iff_eq.mp found])).bind fun _ _ _ => .give true

theorem acceptAny (kinds : List TokenKind) (plain : ∀ kind ∈ kinds, isPlain kind = true) :
    Counts measure id Any cursor (acceptAny kinds) := by
  refine .atAny kinds (.both (fun found => ?_) fun _ => .give false)
  exact (advance (plain _ (List.contains_iff_mem.mp found))).bind fun _ _ _ => .give true

theorem expectOver (kind : TokenKind) (expected : String) (other : kind ≠ .dot)
    (counts : ∀ before, measure.change before kind = change) :
    Counts measure change (Cursor.Behind kind) cursor (expect kind expected) :=
  .at? kind (.both (fun found => advanceOver kind (beq_iff_eq.mp found) other (counts _)) fun _ =>
    .unexpected expected)

theorem expect (kind : TokenKind) (expected : String) (plain : isPlain kind = true) :
    Counts measure id (Cursor.Behind kind) cursor (expect kind expected) := by
  refine expectOver kind expected ?_ fun before => measure.plain before kind plain
  rintro rfl
  cases plain

theorem expectOpening (bracket : Bracket) (expected : String) :
    Counts measure (measure.entered bracket) Any cursor (Grammar.expect bracket.opening expected) :=
  (expectOver _ expected (by cases bracket <;> decide) fun before => measure.enters before bracket).weaken

theorem expectClosing (bracket : Bracket) (expected : String) :
    Counts measure (measure.left bracket) Any cursor (Grammar.expect bracket.closing expected) :=
  (expectOver _ expected (by cases bracket <;> decide) fun before => measure.leaves before bracket).weaken

theorem name_plain {kind : TokenKind} (named : kind.isName = true) : isPlain kind = true := by
  revert named
  cases kind <;> decide

theorem expectName (expected : String) : Counts measure id Any cursor (expectName expected) :=
  .kindHere (.both (fun named => (advance (name_plain named)).bind fun _ _ _ => .give _) fun _ =>
    .unexpected expected)

theorem skip_newlines (measure : Measure Amount) (cursor : Cursor) :
    measure.of (cursor.skip fun _ current => current.kind == .newline) = measure.of cursor ∧
      (cursor.Fresh → (cursor.skip fun _ current => current.kind == .newline).Fresh) := by
  obtain ⟨previous, current, ahead, lines, reports⟩ := cursor
  induction ahead generalizing previous current with
  | nil => exact ⟨rfl, id⟩
  | cons next others ih =>
      by_cases on : (current.kind != .endOfFile && current.kind == .newline) = true
      · have newline : current.kind = .newline := beq_iff_eq.mp (Bool.and_eq_true_iff.mp on).2
        obtain ⟨same, fresh⟩ := ih current next
        simp only [Cursor.skip, Cursor.advanceWhile, if_pos on] at same fresh ⊢
        refine ⟨same.trans ?_, fun _ => fresh fun _ => by simp [newline]⟩
        unfold Measure.of Cursor.rest
        dsimp only
        rw [List.map_cons, List.map_cons, List.map_cons, newline,
          measure.cons _ .newline _ (by decide), measure.plain _ .newline (by decide), id]
      · have still : Cursor.skip (fun _ current => current.kind == .newline)
            ⟨previous, current, next :: others, lines, reports⟩ =
              ⟨previous, current, next :: others, lines, reports⟩ := by
          simp only [Cursor.skip, Cursor.advanceWhile, if_neg on]
        exact ⟨congrArg measure.of still, fun fresh => by rw [still]; exact fresh⟩

theorem skipNewlines : Counts measure id (fun after => cursor.Fresh → after.Fresh) cursor skipNewlines := by
  rintro proper _ _ ⟨⟩
  obtain ⟨same, fresh⟩ := skip_newlines measure cursor
  exact ⟨(Passes.skip _ cursor).proper proper, same.symm, fresh⟩

theorem accepting (kind : TokenKind) (plain : isPlain kind = true) {found missing : Reading α}
    (yes : ∀ after, after.Behind kind → Counts measure change good after found)
    (no : cursor.kind ≠ kind → Counts measure change good cursor missing) :
    Counts measure change good cursor
      (Grammar.accept kind >>= fun there => if there = true then found else missing) := by
  intro proper last after ran
  obtain ⟨there, middle, one, two⟩ := bind_ok ran
  obtain ⟨_, _, here, passed⟩ := bind_ok one
  cases here
  by_cases same : cursor.kind = kind
  · rw [if_pos (beq_iff_eq.mpr same)] at passed
    obtain ⟨_, _, stayed, same'⟩ := bind_ok passed
    cases same'
    have other : kind ≠ .dot := by
      rintro rfl
      cases plain
    obtain ⟨still, begun, behind⟩ := advanceOver kind same other (measure.plain _ _ plain) proper _ _ stayed
    obtain ⟨again, later, holds⟩ := yes middle behind still last after two
    exact ⟨again, begun.trans later, holds⟩
  · rw [if_neg (by simpa using same)] at passed
    cases passed
    exact no same proper last after two

theorem expectLineEnd : Counts measure id Cursor.Fresh cursor expectLineEnd := by
  refine .atAny _ (.both (fun stop => ?_) fun _ => ?_)
  · refine .pure _ fun again => ?_
    rw [again] at stop
    cases stop
  · exact accepting .newline (by decide) (fun after behind => .pure _ (behind.fresh (by decide) (by decide)))
      fun _ => .unexpected _

theorem repeatStep {σ : Type} {step : σ → Reading (σ × Bool)}
    (steps : ∀ state after, good after → Counts measure id good after (step state)) (count : Nat) (state : σ)
    (begun : good cursor) : Counts measure id good cursor (repeatStep step count state) := by
  induction count generalizing state cursor with
  | zero => exact .refuse _
  | succ count ih =>
      refine (steps state cursor begun).bind fun next after held => .both (fun _ => ?_) fun _ => ?_
      · exact ih next.1 held
      · exact .pure _ held

theorem repeating {σ : Type} {step : σ → Reading (σ × Bool)}
    (steps : ∀ state after, good after → Counts measure id good after (step state)) (state : σ)
    (begun : good cursor) : Counts measure id good cursor (Grammar.repeating state step) :=
  .get (repeatStep steps _ state begun)

theorem loop {σ : Type} {step : σ → Reading (σ × Bool)}
    (steps : ∀ state after, Counts measure id Any after (step state)) (state : σ) :
    Counts measure id Any cursor (Grammar.repeating state step) :=
  repeating (fun state after _ => steps state after) state trivial

theorem optionalAfter (kind : TokenKind) (plain : isPlain kind = true)
    (counted : ∀ after, Counts measure id Any after reading) : Counts measure id Any cursor (optionalAfter kind reading) :=
  accepting kind plain (fun after _ => (counted after).bind fun _ _ _ => .give _) fun _ => .give _

theorem unlessAny (kinds : List TokenKind) (counted : Counts measure id Any cursor reading) :
    Counts measure id Any cursor (unlessAny kinds reading) :=
  .atAny _ (.both (fun _ => .give _) fun _ => counted.bind fun _ _ _ => .give _)

theorem joined (counted : ∀ after, Counts measure id Any after reading) : Counts measure id Any cursor (joined reading) := by
  have more (items : List α) (cursor : Cursor) : Counts measure id Any cursor (nextJoined reading items) :=
    accepting .comma (by decide) (fun after _ => (counted after).bind fun _ _ _ => .give _) fun _ => .give _
  refine (counted cursor).bind fun first _ _ => ?_
  exact (loop more [first]).bind fun _ _ _ => .give _

theorem parameters : Counts measure id Any cursor parameters :=
  .at? _ (.both (fun _ => .give _) fun _ => joined fun _ => expectName _)

theorem keyName (expected : String) : Counts measure id Any cursor (keyName expected) := by
  refine .get ?_
  dsimp only
  split
  · rename_i kind _
    exact (advance (by rw [Cursor.kind, kind]; decide)).bind fun _ _ _ => .give _
  · rename_i kind _
    exact (advance (by rw [Cursor.kind, kind]; decide)).bind fun _ _ _ => .give _
  · exact (expectName expected).bind fun _ _ _ => .give _

theorem expectEnd (construct : String) : Counts measure measure.closed Any cursor (expectEnd construct) := by
  refine skipNewlines.bind fun _ after _ => ?_
  exact (expectOver .endKeyword _ (by decide) measure.closes).closing fun _ _ _ => .give _

theorem of_member (point : cursor.kind = .dot) (ended : cursor.Ended)
    (plain : cursor.advance.kind.isBracket = false) :
    measure.of cursor = measure.of cursor.advance.advance := by
  have before := (Passes.advance cursor).ended ended
  obtain ⟨name, others, ahead⟩ := ended.ahead (by rw [point]; decide)
  rw [Cursor.advance_eq (by rw [point]; decide) ahead] at before plain ⊢
  have here : measure.of cursor = measure.ahead name.kind (others.map (·.kind)) := by
    unfold Measure.of Cursor.rest
    rw [ahead, List.map_cons, show cursor.current.kind = .dot from point]
    exact measure.member _ _ _ plain
  rw [here]
  generalize middle : ({ cursor with previous := cursor.current, current := name, ahead := others } : Cursor) =
    behind at before ⊢
  have kind : behind.kind = name.kind := by rw [← middle]; rfl
  have after : behind.ahead = others := by rw [← middle]
  by_cases last : behind.kind = .endOfFile
  · rw [Cursor.advance_last last]
    unfold Measure.of Cursor.rest
    rw [List.map_cons, show behind.current.kind = .endOfFile from last, after, ← kind, last,
      measure.cons _ .endOfFile _ (by decide), measure.plain _ .endOfFile (by decide), id]
  · obtain ⟨next, more, rest⟩ := before.ahead last
    rw [Cursor.advance_eq last rest, ← after, rest, ← kind]
    rfl

theorem member_plain (proper : cursor.Proper)
    (named : (cursor.current.kind == .identifier || Text.isIdentifier cursor.current.lexeme) = true) :
    cursor.kind.isBracket = false := by
  rcases Bool.or_eq_true_iff.mp named with identifier | word
  · rw [Cursor.kind, beq_iff_eq.mp identifier]
    rfl
  · exact (proper.worded cursor.current List.mem_cons_self word).2

theorem member (target : Expr) (point : cursor.kind = .dot) :
    Counts measure id Any cursor (member target) := by
  intro proper value after ran
  obtain ⟨_, _, entered, one⟩ := bind_ok ran
  cases entered
  obtain ⟨_, _, here, two⟩ := bind_ok one
  cases here
  dsimp only at two
  have before := (Passes.advance cursor).proper proper
  by_cases named : (cursor.advance.current.kind == .identifier ||
      Text.isIdentifier cursor.advance.current.lexeme) = true
  · have same : measure.of cursor = measure.of cursor.advance.advance :=
      of_member point proper.ended (member_plain before named)
    rw [if_pos named] at two
    obtain ⟨_, _, name, three⟩ := bind_ok two
    cases name
    obtain ⟨_, _, span, four⟩ := bind_ok three
    cases span
    cases four
    exact ⟨(Passes.advance _).proper before, same, trivial⟩
  · rw [if_neg named] at two
    cases two

end Law

end Counts

end Fiscal.Grammar
