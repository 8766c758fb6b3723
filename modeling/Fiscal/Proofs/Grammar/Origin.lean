import Fiscal.Proofs.Grammar.Measure
import Fiscal.Proofs.Program.Parts
import Fiscal.Proofs.Scope.Binding

set_option autoImplicit false

namespace Fiscal.Grammar

open Source

structure Page where
  tokens : List Token
  lines : Option (List String)

namespace Page

variable (page : Page)

def lineOf (token : Token) : Option String :=
  page.lines.bind fun lines => Text.line? lines token.span.start.line

-- What a report on a page shows beside its span.
inductive Shows : Diagnostic → Prop where
  | nothing (report : Diagnostic) (none : report.line = none) : Shows report
  | line (issue : Issue) (token : Token) (member : token ∈ page.tokens) :
      Shows ⟨issue, some token.span, page.lineOf token⟩
  | equals (span : Span) (before : List Token) (equals : Token) (after : List Token) (first : Token)
      (split : page.tokens = before ++ equals :: after) (kind : equals.kind = .equal) (member : first ∈ before)
      (start : span.start = first.span.start) : Shows ⟨.invalidTarget, some span, page.lineOf equals⟩

def Begun (cursor : Cursor) (start : Location) : Prop :=
  ∃ before first, page.tokens = before ++ cursor.rest ∧ first ∈ before ∧ start = first.span.start

structure Holds (cursor : Cursor) : Prop where
  rest : cursor.rest <:+ page.tokens
  lines : cursor.lines = page.lines
  ended : cursor.Ended
  reports : ∀ report ∈ cursor.reports, page.Shows report

variable {page} {cursor after : Cursor}

theorem Holds.current (holds : page.Holds cursor) : cursor.current ∈ page.tokens :=
  holds.rest.subset List.mem_cons_self

theorem Holds.shows (holds : page.Holds cursor) (issue : Issue) {token : Token} (member : token ∈ page.tokens) :
    page.Shows ⟨issue, some token.span, cursor.lineOf token⟩ := by
  rw [Cursor.lineOf, holds.lines]
  exact .line issue token member

theorem Holds.moved (holds : page.Holds cursor) (passes : Passes cursor after)
    (reports : ∀ report ∈ after.reports, page.Shows report) : page.Holds after := by
  obtain ⟨passed, split, _⟩ := passes.tokens
  exact ⟨(List.suffix_append _ _).trans (split ▸ holds.rest), passes.lines.trans holds.lines,
    passes.ended holds.ended, reports⟩

theorem Begun.onward {start : Location} (begun : page.Begun cursor start) (passes : Passes cursor after) :
    page.Begun after start := by
  obtain ⟨before, first, split, member, same⟩ := begun
  obtain ⟨passed, more, _⟩ := passes.tokens
  exact ⟨before ++ passed, first, by rw [split, more, List.append_assoc], List.mem_append_left _ member, same⟩

theorem Holds.begun_advance (holds : page.Holds cursor) (going : cursor.kind ≠ .endOfFile) :
    page.Begun cursor.advance cursor.current.span.start := by
  obtain ⟨next, others, ahead⟩ := holds.ended.ahead going
  obtain ⟨before, split⟩ := holds.rest
  rw [Cursor.advance_eq going ahead]
  refine ⟨before ++ [cursor.current], cursor.current, ?_, by simp, rfl⟩
  rw [← split, Cursor.rest, ahead]
  simp [Cursor.rest]

end Page

def Page.Ends {α : Type} (page : Page) (good : α → Cursor → Prop) (cursor : Cursor) :
    EStateM.Result Halt Cursor α → Prop
  | .ok value after => Passes cursor after ∧ page.Holds after ∧ good value after
  | .error (.refused report) after => Passes cursor after ∧ page.Holds after ∧ page.Shows report
  | .error .unfinished _ => True

def Faithful {α : Type} (page : Page) (good : α → Cursor → Prop) (cursor : Cursor) (reading : Reading α) : Prop :=
  page.Holds cursor → page.Ends good cursor (reading cursor)

def Free {α : Type} (_ : α) (_ : Cursor) : Prop := True

namespace Faithful

section Law

variable {α β : Type} {page : Page} {good : α → Cursor → Prop} {result : β → Cursor → Prop} {cursor : Cursor}
  {reading : Reading α} {next : α → Reading β}

theorem bind (first : Faithful page good cursor reading)
    (rest : ∀ value after, (∀ start, page.Begun cursor start → page.Begun after start) → good value after →
      Faithful page result after (next value)) :
    Faithful page result cursor (reading >>= next) := by
  intro holds
  have ends := first holds
  change page.Ends result cursor (EStateM.bind reading next cursor)
  unfold EStateM.bind
  cases ran : reading cursor with
  | ok value after =>
      rw [ran] at ends
      obtain ⟨passes, within, held⟩ := ends
      have later := rest value after (fun _ begun => begun.onward passes) held within
      dsimp only
      cases ended : next value after with
      | ok last final =>
          rw [ended] at later
          exact ⟨passes.trans later.1, later.2⟩
      | error halt final =>
          rw [ended] at later
          cases halt with
          | refused => exact ⟨passes.trans later.1, later.2⟩
          | unfinished => trivial
  | error halt after =>
      rw [ran] at ends
      cases halt with
      | refused => exact ends
      | unfinished => trivial

theorem assuming (faithful : page.Holds cursor → Faithful page good cursor reading) :
    Faithful page good cursor reading :=
  fun holds => faithful holds holds

theorem pure (value : α) (holds : good value cursor) : Faithful page good cursor (Pure.pure value : Reading α) :=
  fun within => ⟨.refl cursor, within, holds⟩

theorem give (value : α) : Faithful page Free cursor (Pure.pure value : Reading α) := .pure value trivial

theorem imply {better : α → Cursor → Prop} (faithful : Faithful page good cursor reading)
    (more : ∀ value after, good value after → better value after) : Faithful page better cursor reading := by
  intro holds
  have ends := faithful holds
  cases ran : reading cursor with
  | ok value after =>
      rw [ran] at ends
      exact ⟨ends.1, ends.2.1, more value after ends.2.2⟩
  | error halt after =>
      rw [ran] at ends
      cases halt with
      | refused => exact ends
      | unfinished => trivial

theorem weaken (faithful : Faithful page good cursor reading) : Faithful page Free cursor reading :=
  faithful.imply fun _ _ _ => trivial

theorem refuse (report : Diagnostic) (shows : page.Holds cursor → page.Shows report) :
    Faithful page good cursor (throw (.refused report) : Reading α) :=
  fun holds => ⟨.refl cursor, holds, shows holds⟩

theorem unfinished : Faithful page good cursor (throw .unfinished : Reading α) := fun _ => trivial

theorem get {next : Cursor → Reading α} (rest : Faithful page good cursor (next cursor)) :
    Faithful page good cursor (get >>= next) :=
  rest

theorem unexpected (expected : String) : Faithful page good cursor (unexpected expected : Reading α) := by
  refine .get (.refuse _ fun holds => ?_)
  unfold Cursor.unexpected
  split
  · exact .nothing _ rfl
  · exact holds.shows _ holds.current

theorem failAt (issue : Issue) (token : Token) (member : token ∈ page.tokens) :
    Faithful page good cursor (failAt issue token.span token : Reading α) :=
  .get (.refuse _ fun holds => holds.shows issue member)

theorem kindHere {next : TokenKind → Reading α} (rest : Faithful page good cursor (next cursor.kind)) :
    Faithful page good cursor (kindHere >>= next) :=
  rest

theorem at? (kind : TokenKind) {next : Bool → Reading α}
    (rest : Faithful page good cursor (next (cursor.kind == kind))) :
    Faithful page good cursor (at? kind >>= next) :=
  rest

theorem atAny (kinds : List TokenKind) {next : Bool → Reading α}
    (rest : Faithful page good cursor (next (kinds.contains cursor.kind))) :
    Faithful page good cursor (atAny kinds >>= next) :=
  rest

theorem spanFrom (first : Location) {next : Span → Reading α}
    (rest : Faithful page good cursor (next ⟨first, cursor.previous.span.stop⟩)) :
    Faithful page good cursor (spanFrom first >>= next) :=
  rest

theorem both {test : Prop} [Decidable test] {first second : Reading α}
    (yes : test → Faithful page good cursor first) (no : ¬ test → Faithful page good cursor second) :
    Faithful page good cursor (if test then first else second) := by
  split
  · exact yes ‹_›
  · exact no ‹_›

theorem advance : Faithful page (fun token _ => token ∈ page.tokens) cursor advance :=
  fun holds => ⟨.advance cursor, holds.moved (.advance cursor) (by
    unfold Cursor.advance
    split
    · exact holds.reports
    · split
      · exact holds.reports
      · exact holds.reports), holds.current⟩

theorem advanceOver (going : cursor.kind ≠ .endOfFile) :
    Faithful page (fun token after => token ∈ page.tokens ∧ page.Begun after token.span.start) cursor
      Grammar.advance := by
  intro holds
  obtain ⟨passes, within, member⟩ := advance holds
  exact ⟨passes, within, member, holds.begun_advance going⟩

theorem passing (going : cursor.kind ≠ .endOfFile) {next : Token → Reading α}
    (rest : page.Begun cursor.advance cursor.current.span.start →
      Faithful page good cursor.advance (next cursor.current)) :
    Faithful page good cursor (Grammar.advance >>= next) := by
  have moved : Faithful page (fun token after => token = cursor.current ∧ after = cursor.advance ∧
      page.Begun after token.span.start) cursor Grammar.advance :=
    fun holds => ⟨.advance cursor, (advance holds).2.1, rfl, rfl, holds.begun_advance going⟩
  refine moved.bind fun token after _ passed => ?_
  obtain ⟨rfl, rfl, begun⟩ := passed
  exact rest begun

theorem accept (kind : TokenKind) : Faithful page Free cursor (accept kind) :=
  .at? kind (.both (fun _ => advance.bind fun _ _ _ _ => .give true) fun _ => .give false)

theorem acceptAny (kinds : List TokenKind) : Faithful page Free cursor (acceptAny kinds) :=
  .atAny kinds (.both (fun _ => advance.bind fun _ _ _ _ => .give true) fun _ => .give false)

theorem expect (kind : TokenKind) (expected : String) : Faithful page Free cursor (expect kind expected) :=
  .at? kind (.both (fun _ => advance.weaken) fun _ => .unexpected expected)

theorem expectName (expected : String) : Faithful page Free cursor (expectName expected) :=
  .kindHere (.both (fun _ => advance.bind fun _ _ _ _ => .give _) fun _ => .unexpected expected)

theorem skipNewlines : Faithful page Free cursor skipNewlines :=
  fun holds => ⟨.skip _ cursor, holds.moved (.skip _ cursor) holds.reports, trivial⟩

theorem accepting (kind : TokenKind) {found missing : Reading α}
    (yes : cursor.kind = kind → ∀ after, (∀ start, page.Begun cursor start → page.Begun after start) →
      Faithful page good after found)
    (no : Faithful page good cursor missing) :
    Faithful page good cursor
      (Grammar.accept kind >>= fun there => if there = true then found else missing) := by
  by_cases here : cursor.kind = kind
  · have taken : (Grammar.accept kind >>= fun there => if there = true then found else missing) cursor =
        (Grammar.advance >>= fun _ => found) cursor := by
      change EStateM.bind (if (cursor.kind == kind) = true then _ else _) _ cursor = _
      rw [if_pos (beq_iff_eq.mpr here)]
      rfl
    intro holds
    rw [taken]
    exact advance.bind (fun _ after kept _ => yes here after kept) holds
  · have left : (Grammar.accept kind >>= fun there => if there = true then found else missing) cursor =
        missing cursor := by
      change EStateM.bind (if (cursor.kind == kind) = true then _ else _) _ cursor = _
      rw [if_neg (by simpa using here)]
      rfl
    intro holds
    rw [left]
    exact no holds

theorem expectLineEnd : Faithful page Free cursor expectLineEnd :=
  .atAny _ (.both (fun _ => .give _) fun _ => accepting .newline (fun _ _ _ => .give _) (.unexpected _))

section Loops

variable {σ : Type} {kept : σ → Cursor → Prop} {step : σ → Reading (σ × Bool)}

theorem repeatStep
    (steps : ∀ state after, kept state after → Faithful page (fun last => kept last.1) after (step state))
    (count : Nat) (state : σ) (begun : kept state cursor) :
    Faithful page kept cursor (repeatStep step count state) := by
  induction count generalizing state cursor with
  | zero => exact .unfinished
  | succ count ih =>
      refine (steps state cursor begun).bind fun last after _ held => .both (fun _ => ?_) fun _ => ?_
      · exact ih last.1 held
      · exact .pure _ held

theorem repeating
    (steps : ∀ state after, kept state after → Faithful page (fun last => kept last.1) after (step state))
    (state : σ) (begun : kept state cursor) : Faithful page kept cursor (repeating state step) :=
  .get (repeatStep steps _ state begun)

end Loops

theorem optionalAfter (kind : TokenKind) {held : α → Prop}
    (faithful : ∀ after, Faithful page (fun value _ => held value) after reading) :
    Faithful page (fun found _ => ∀ value ∈ found.toList, held value) cursor (optionalAfter kind reading) := by
  refine accepting kind (fun _ after _ => ?_) (.pure _ (List.forall_mem_nil _))
  exact (faithful after).bind fun value _ _ good => .pure _ (by simpa using good)

theorem unlessAny (kinds : List TokenKind) {held : α → Prop}
    (faithful : Faithful page (fun value _ => held value) cursor reading) :
    Faithful page (fun found _ => ∀ value ∈ found.toList, held value) cursor (unlessAny kinds reading) := by
  refine .atAny _ (.both (fun _ => .pure _ (List.forall_mem_nil _)) fun _ => ?_)
  exact faithful.bind fun value _ _ good => .pure _ (by simpa using good)

theorem joined {held : α → Prop} (faithful : ∀ after, Faithful page (fun value _ => held value) after reading) :
    Faithful page (fun values _ => ∀ value ∈ values, held value) cursor (joined reading) := by
  have more (items : List α) (after : Cursor) (all : ∀ item ∈ items, held item) :
      Faithful page (fun last _ => ∀ item ∈ last.1, held item) after (nextJoined reading items) :=
    accepting .comma
      (fun _ after _ => (faithful after).bind fun _ _ _ good => .pure _ (List.forall_mem_cons.mpr ⟨good, all⟩))
      (.pure _ all)
  refine (faithful cursor).bind fun first after _ good => ?_
  have others : Faithful page (fun items _ => ∀ item ∈ items, held item) after
      (Grammar.repeating [first] (nextJoined reading)) :=
    repeating more [first] (by simpa using good)
  exact others.bind fun _ _ _ all => .pure _ fun item member => all item (List.mem_reverse.mp member)

theorem parameters : Faithful page Free cursor parameters :=
  .at? _ (.both (fun _ => .give _) fun _ => (joined fun _ => expectName _).weaken)

theorem keyName (expected : String) :
    Faithful page (fun key _ => key.2 ∈ page.tokens) cursor (keyName expected) := by
  refine .assuming fun holds => .get ?_
  dsimp only
  split
  · exact advance.bind fun _ _ _ _ => .pure _ holds.current
  · exact advance.bind fun _ _ _ _ => .pure _ holds.current
  · exact (expectName expected).bind fun _ _ _ _ => .pure _ holds.current

theorem expectEnd (construct : String) : Faithful page Free cursor (expectEnd construct) :=
  skipNewlines.bind fun _ _ _ _ => (expect .endKeyword _).bind fun _ _ _ _ => .give _

end Law

end Faithful

end Fiscal.Grammar
