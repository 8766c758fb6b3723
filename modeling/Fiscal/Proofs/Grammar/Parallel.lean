import Fiscal.Proofs.Grammar.Seam

/-!
Two readings in parallel. They come to the same values and refuse for the same reasons, as long as
they are before the seam.
-/

set_option autoImplicit false

namespace Fiscal.Grammar

open Token (Groups)

def TokenKind.isPlain (kind : TokenKind) : Bool := kind.isRead && !kind.isBracket

theorem plain_kinds {kind : TokenKind} (plain : TokenKind.isPlain kind = true) :
    kind ≠ .endOfFile ∧ kind ≠ .newline ∧ kind.isBracket = false := by
  refine ⟨?_, ?_, ?_⟩
  · rintro rfl
    cases plain
  · rintro rfl
    cases plain
  · simpa using (Bool.and_eq_true_iff.mp plain).2

theorem name_plain {kind : TokenKind} (named : kind.isName = true) : TokenKind.isPlain kind = true := by
  cases kind <;> first | rfl | cases named

section Law

variable {α β : Type}

def Failed (mode : Mode) (base : Option Cursor) (one two : Source.Diagnostic) (first second : Cursor) : Prop :=
  mode.strict ∨ one.issue = two.issue ∧ (∃ groups, Near mode base groups first second) ∨
    Gapped mode first second ∧ second.previous.kind = .newline

-- How two readings have ended: at a bound, of which nothing is said, or both with the same value, or
-- both refused. A reading that does not recover counts only where it is not refused.
def Agree (mode : Mode) (base : Option Cursor) (post : α → Cursor → Cursor → Prop) :
    EStateM.Result Halt Cursor α → EStateM.Result Halt Cursor α → Prop
  | .error .unfinished _, _ => True
  | .error (.refused one) first, other =>
      match other with
      | .ok _ _ => mode.strict
      | .error (.refused two) second => Failed mode base one two first second
      | .error .unfinished _ => True
  | .ok value first, other =>
      match other with
      | .ok same second => value = same ∧ post value first second
      | .error (.refused _) _ => False
      | .error .unfinished _ => True

def Parallel (mode : Mode) (base : Option Cursor) (post : α → Cursor → Cursor → Prop) (first second : Cursor)
    (reading other : Reading α) : Prop :=
  Agree mode base post (reading first) (other second)

abbrev Keeps (mode : Mode) (base : Option Cursor) (groups : Groups) (first second : Cursor)
    (reading other : Reading α) : Prop :=
  Parallel mode base (fun _ => On mode groups) first second reading other

variable {mode : Mode} {base : Option Cursor} {post : α → Cursor → Cursor → Prop}

theorem Agree.unfinished (result : EStateM.Result Halt Cursor α) (cursor : Cursor) :
    Agree mode base post result (.error .unfinished cursor) := by
  cases result with
  | ok => exact trivial
  | error halt =>
      cases halt with
      | refused => exact trivial
      | unfinished => exact trivial

theorem Agree.lost (strict : mode.strict) (diagnostic : Source.Diagnostic) (cursor : Cursor)
    (other : EStateM.Result Halt Cursor α) :
    Agree mode base post (.error (.refused diagnostic) cursor) other := by
  cases other with
  | ok => exact strict
  | error halt =>
      cases halt with
      | refused => exact .inl strict
      | unfinished => exact trivial

theorem Agree.cases {one two : EStateM.Result Halt Cursor α} (agree : Agree mode base post one two) :
    (∃ value first second, one = .ok value first ∧ two = .ok value second ∧ post value first second) ∨
      (∃ refusal other first second, one = .error (.refused refusal) first ∧ two = .error (.refused other) second ∧
        Failed mode base refusal other first second) ∨
      (mode.strict ∧ ∃ refusal first, one = .error (.refused refusal) first) ∨
      (∃ first, one = .error .unfinished first) ∨ ∃ second, two = .error .unfinished second := by
  cases one with
  | ok value first =>
      cases two with
      | ok same second =>
          obtain ⟨rfl, held⟩ := agree
          exact .inl ⟨value, first, second, rfl, rfl, held⟩
      | error halt second =>
          cases halt with
          | refused => exact agree.elim
          | unfinished => exact .inr (.inr (.inr (.inr ⟨second, rfl⟩)))
  | error halt first =>
      cases halt with
      | unfinished => exact .inr (.inr (.inr (.inl ⟨first, rfl⟩)))
      | refused refusal =>
          cases two with
          | ok => exact .inr (.inr (.inl ⟨agree, refusal, first, rfl⟩))
          | error halt second =>
              cases halt with
              | refused other => exact .inr (.inl ⟨refusal, other, first, second, rfl, rfl, agree⟩)
              | unfinished => exact .inr (.inr (.inr (.inr ⟨second, rfl⟩)))

def Fails (reading : Reading α) (cursor : Cursor) : Prop := ∃ halt after, reading cursor = .error halt after

def Stalls (mode : Mode) (cursor : Cursor) (reading : Reading α) : Prop :=
  mode.strict ∧ ∃ value after, reading cursor = .ok value after ∧ after.kind = .endOfFile

section Tests

variable {cursor : Cursor} {kind : TokenKind} {kinds : List TokenKind} {yes no : Reading α}

theorem at?_found (found : cursor.kind = kind) :
    (at? kind >>= fun here => if here = true then yes else no) cursor = yes cursor := by
  change (if (cursor.kind == kind) = true then yes else no) cursor = _
  rw [if_pos (beq_iff_eq.mpr found)]

theorem at?_missing (missing : cursor.kind ≠ kind) :
    (at? kind >>= fun here => if here = true then yes else no) cursor = no cursor := by
  change (if (cursor.kind == kind) = true then yes else no) cursor = _
  rw [if_neg (by simpa using missing)]

theorem kindHere_run {α : Type} (next : TokenKind → Reading α) (cursor : Cursor) :
    (kindHere >>= next) cursor = next cursor.kind cursor := rfl

theorem atAny_found (found : cursor.kind ∈ kinds) :
    (atAny kinds >>= fun here => if here = true then yes else no) cursor = yes cursor := by
  change (if kinds.contains cursor.kind = true then yes else no) cursor = _
  rw [if_pos (List.contains_iff_mem.mpr found)]

theorem atAny_missing (missing : cursor.kind ∉ kinds) :
    (atAny kinds >>= fun here => if here = true then yes else no) cursor = no cursor := by
  change (if kinds.contains cursor.kind = true then yes else no) cursor = _
  rw [if_neg (by simpa using missing)]

end Tests

theorem expect_refused {kind : TokenKind} {expected : String} {cursor : Cursor} {next : Token → Reading α}
    (missing : cursor.kind ≠ kind) :
    (expect kind expected >>= next) cursor = .error (.refused (cursor.unexpected expected)) cursor := by
  have refused : expect kind expected cursor = unexpected expected cursor := at?_missing missing
  change EStateM.bind (expect kind expected) next cursor = _
  unfold EStateM.bind
  rw [refused]
  rfl

theorem Fails.bind {reading : Reading α} {next : α → Reading β} {cursor : Cursor} (fails : Fails reading cursor) :
    Fails (reading >>= next) cursor := by
  obtain ⟨halt, after, failed⟩ := fails
  refine ⟨halt, after, ?_⟩
  change EStateM.bind reading next cursor = _
  unfold EStateM.bind
  rw [failed]

theorem Fails.after {reading : Reading α} {next : α → Reading β} {cursor middle : Cursor} {value : α}
    (ran : reading cursor = .ok value middle) (fails : Fails (next value) middle) :
    Fails (reading >>= next) cursor := by
  obtain ⟨halt, after, failed⟩ := fails
  refine ⟨halt, after, ?_⟩
  change EStateM.bind reading next cursor = _
  unfold EStateM.bind
  rw [ran]
  exact failed

theorem Fails.expect {kind : TokenKind} {expected : String} {cursor : Cursor} (missing : cursor.kind ≠ kind) :
    Fails (expect kind expected) cursor := by
  have refused : (Grammar.expect kind expected >>= Pure.pure) cursor = _ := expect_refused missing
  rw [bind_pure] at refused
  exact ⟨_, _, refused⟩

section Rounds

variable {σ : Type} {round : σ → Reading (σ × Bool)} {state next : σ} {count : Nat} {cursor after : Cursor}

theorem repeatStep_more (ran : round state cursor = .ok (next, true) after) :
    repeatStep round (count + 1) state cursor = repeatStep round count next after := by
  change EStateM.bind (round state) _ cursor = _
  unfold EStateM.bind
  rw [ran]
  rfl

theorem repeatStep_done (ran : round state cursor = .ok (next, false) after) :
    repeatStep round (count + 1) state cursor = .ok next after := by
  change EStateM.bind (round state) _ cursor = _
  unfold EStateM.bind
  rw [ran]
  rfl

end Rounds

namespace Parallel

variable {result : β → Cursor → Cursor → Prop} {first second : Cursor} {groups : Groups}
  {reading other : Reading α} {next nextOther : α → Reading β}

theorem chain (together : Parallel mode base post first second reading other)
    (rest : ∀ value one two, reading first = .ok value one → post value one two →
      Parallel mode base result one two (next value) (nextOther value)) :
    Parallel mode base result first second (reading >>= next) (other >>= nextOther) := by
  unfold Parallel at together ⊢
  change Agree mode base result (EStateM.bind reading next first) (EStateM.bind other nextOther second)
  unfold EStateM.bind
  rcases together.cases with ⟨value, after, later, one, two, held⟩ | ⟨_, _, _, _, one, two, failed⟩ |
    ⟨strict, refusal, after, one⟩ | ⟨_, one⟩ | ⟨later, two⟩
  · rw [one, two]
    exact rest value after later one held
  · rw [one, two]
    exact failed
  · rw [one]
    exact .lost strict refusal after _
  · rw [one]
    exact trivial
  · rw [two]
    exact .unfinished _ later

theorem bind (together : Parallel mode base post first second reading other)
    (rest : ∀ value one two, post value one two →
      Parallel mode base result one two (next value) (nextOther value)) :
    Parallel mode base result first second (reading >>= next) (other >>= nextOther) :=
  together.chain fun value one two _ => rest value one two

theorem mono {wide : α → Cursor → Cursor → Prop}
    (together : Parallel mode base post first second reading other)
    (wider : ∀ value one two, post value one two → wide value one two) :
    Parallel mode base wide first second reading other := by
  have more : Parallel mode base wide first second (reading >>= Pure.pure) (other >>= Pure.pure) :=
    together.bind fun value one two held => ⟨rfl, wider value one two held⟩
  rwa [bind_pure, bind_pure] at more

theorem pure (value : α) (held : post value first second) :
    Parallel mode base post first second (Pure.pure value) (Pure.pure value) :=
  ⟨rfl, held⟩

theorem refuse {one two : Source.Diagnostic} (near : Near mode base groups first second)
    (same : one.issue = two.issue) :
    Parallel mode base post first second (throw (.refused one)) (throw (.refused two)) :=
  .inr (.inl ⟨same, groups, near⟩)

theorem get {next nextOther : Cursor → Reading α}
    (rest : Parallel mode base post first second (next first) (nextOther second)) :
    Parallel mode base post first second (get >>= next) (get >>= nextOther) :=
  rest

theorem unexpected (near : Near mode base groups first second) (expected : String) :
    Parallel mode base post first second (unexpected expected) (Grammar.unexpected expected) := by
  refine .get (.refuse near ?_)
  unfold Cursor.unexpected Cursor.atEnd
  rw [near.same_kind, near.same_current]
  split <;> rfl

theorem failAt (near : Near mode base groups first second) (issue : Source.Issue) (span : Source.Span)
    (token : Token) :
    Parallel mode base post first second (failAt issue span token) (Grammar.failAt issue span token) :=
  .get (.refuse near rfl)

theorem kindHere (same : first.kind = second.kind) {next nextOther : TokenKind → Reading α}
    (rest : Parallel mode base post first second (next first.kind) (nextOther first.kind)) :
    Parallel mode base post first second (kindHere >>= next) (Grammar.kindHere >>= nextOther) := by
  change Agree mode base post (next first.kind first) (nextOther second.kind second)
  rw [← same]
  exact rest

theorem at? (same : first.kind = second.kind) (kind : TokenKind)
    {next nextOther : Bool → Reading α}
    (rest : Parallel mode base post first second (next (first.kind == kind)) (nextOther (first.kind == kind))) :
    Parallel mode base post first second (at? kind >>= next) (Grammar.at? kind >>= nextOther) := by
  change Agree mode base post (next (first.kind == kind) first) (nextOther (second.kind == kind) second)
  rw [← same]
  exact rest

theorem atAny (same : first.kind = second.kind) (kinds : List TokenKind)
    {next nextOther : Bool → Reading α}
    (rest : Parallel mode base post first second (next (kinds.contains first.kind))
      (nextOther (kinds.contains first.kind))) :
    Parallel mode base post first second (atAny kinds >>= next) (Grammar.atAny kinds >>= nextOther) := by
  change Agree mode base post (next (kinds.contains first.kind) first)
    (nextOther (kinds.contains second.kind) second)
  rw [← same]
  exact rest

theorem both {test : Prop} [Decidable test] {yes no yesOther noOther : Reading α}
    (holds : test → Parallel mode base post first second yes yesOther)
    (fails : ¬ test → Parallel mode base post first second no noOther) :
    Parallel mode base post first second (if test then yes else no) (if test then yesOther else noOther) := by
  split
  · exact holds ‹_›
  · exact fails ‹_›

theorem spanFrom (same : first.previous = second.previous) (start : Source.Location)
    {next nextOther : Source.Span → Reading α}
    (rest : Parallel mode base post first second (next (first.spanFrom start)) (nextOther (first.spanFrom start))) :
    Parallel mode base post first second (spanFrom start >>= next) (Grammar.spanFrom start >>= nextOther) := by
  change Agree mode base post (next (first.spanFrom start) first) (nextOther (second.spanFrom start) second)
  have spans : second.spanFrom start = first.spanFrom start := by
    rw [Cursor.spanFrom, Cursor.spanFrom, same]
  rw [spans]
  exact rest

theorem advance {kind : TokenKind} (near : Near mode base groups first second) (found : first.kind = kind)
    (going : kind ≠ .endOfFile) (inside : kind ≠ .newline) :
    Parallel mode base (fun token one two => token = first.current ∧
      On mode (groups.after token.span.start kind) one two) first second advance Grammar.advance := by
  subst found
  exact ⟨near.same_current, rfl, near.advance going inside⟩

theorem step (near : Near mode base groups first second) (plain : TokenKind.isPlain first.kind = true) :
    Parallel mode base (fun token one two => token = first.current ∧ On mode groups one two) first second
      Grammar.advance Grammar.advance := by
  obtain ⟨going, inside, other⟩ := plain_kinds plain
  refine (advance near rfl going inside).mono fun token one two held => ⟨held.1, ?_⟩
  rw [← Groups.after_other groups token.span.start first.kind other]
  exact held.2

theorem advanceTo (near : Near mode base groups first second) (plain : TokenKind.isPlain first.kind = true) :
    Parallel mode base (fun token one two => token = first.current ∧ one.kind = first.kindAhead 0 ∧
      one.kindAhead 0 = first.kindAhead 1 ∧ On mode groups one two) first second
      Grammar.advance Grammar.advance := by
  obtain ⟨going, inside, _⟩ := plain_kinds plain
  obtain ⟨token, one, two, oneSplit, _⟩ := near.ahead going inside
  obtain ⟨same, _, on⟩ := step near plain
  refine ⟨same, rfl, ?_, ?_, on⟩
  · rw [Cursor.advance_onto going oneSplit]
    simp [Cursor.kindAhead, Cursor.onto, Cursor.kind, oneSplit]
  · rw [Cursor.advance_onto going oneSplit]
    simp [Cursor.kindAhead, Cursor.onto, oneSplit]

theorem accept (on : On mode groups first second) (kind : TokenKind) (plain : TokenKind.isPlain kind = true) :
    Keeps mode base groups first second (accept kind) (Grammar.accept kind) := by
  refine .at? on.same_kind kind (.both (fun found => ?_) fun _ => .pure false on)
  rw [beq_iff_eq] at found
  exact (step (on.based base) (by rwa [found])).bind fun _ _ _ held => .pure true held.2

theorem acceptAny (on : On mode groups first second) (kinds : List TokenKind)
    (plain : ∀ kind ∈ kinds, TokenKind.isPlain kind = true) :
    Keeps mode base groups first second (acceptAny kinds) (Grammar.acceptAny kinds) := by
  refine .atAny on.same_kind kinds (.both (fun found => ?_) fun _ => .pure false on)
  exact (step (on.based base) (plain _ (List.contains_iff_mem.mp found))).bind
    fun _ _ _ held => .pure true held.2

theorem expect (near : Near mode base groups first second) (kind : TokenKind) (expected : String)
    (going : kind ≠ .endOfFile) (inside : kind ≠ .newline) :
    Parallel mode base (fun token => On mode (groups.after token.span.start kind)) first second
      (expect kind expected) (Grammar.expect kind expected) := by
  refine .at? near.same_kind kind (.both (fun found => ?_) fun _ => .unexpected near expected)
  exact (advance near (beq_iff_eq.mp found) going inside).mono fun _ _ _ held => held.2

theorem expectName (near : Near mode base groups first second) (expected : String) :
    Keeps mode base groups first second (expectName expected)
      (Grammar.expectName expected) := by
  refine .kindHere near.same_kind (.both (fun named => ?_) fun _ => .unexpected near expected)
  exact (step near (name_plain named)).bind fun token _ _ held => .pure _ held.2

theorem skipInside (fits : mode.Fits) (on : On mode groups first second) (inside : groups.depth ≠ 0) :
    Keeps mode base groups first second skipNewlines Grammar.skipNewlines := by
  refine ⟨rfl, ?_⟩
  rcases on.skip fits with ⟨still, _⟩ | ⟨gapped, _⟩
  · exact still
  · have other : first.kind ≠ .newline := by
      intro line
      rcases on.outside (by rw [line]; rfl) with ⟨_, whole⟩ | none
      · rw [whole] at gapped
        exact gapped.rest
      · rw [none] at inside
        exact inside rfl
    change On mode groups first.skipBlank second.skipBlank
    rw [Cursor.skipBlank_stop other, Cursor.skipBlank_stop (by rwa [← on.same_kind])]
    exact on

theorem skip (fits : mode.Fits) (near : Near mode base groups first second) :
    Parallel mode base (fun _ one two => Near mode base groups one two ∨
      Gapped mode one two ∧ two.previous.kind = .newline) first second skipNewlines Grammar.skipNewlines :=
  ⟨rfl, (near.skip fits).imp_left And.left⟩

theorem skipLoose (fits : mode.Fits) (loose : Loose mode first second) :
    Parallel mode base (fun _ => Poised mode) first second skipNewlines Grammar.skipNewlines :=
  ⟨rfl, loose.skip fits⟩

theorem expectLineEnd (fits : mode.Fits) (on : On mode groups first second) :
    Parallel mode base (fun _ => Closed mode) first second expectLineEnd Grammar.expectLineEnd := by
  refine .atAny on.same_kind _ (.both (fun ended => .pure () ?_) fun _ => ?_)
  · exact on.stops (by simpa using ended)
  · have accepted : Parallel mode base (fun taken one two =>
        if taken = true then Closed mode one two else On mode groups one two) first second
        (Grammar.accept .newline) (Grammar.accept .newline) := by
      refine .at? on.same_kind .newline (.both (fun line => ?_) fun _ => .pure false on)
      exact ⟨rfl, on.lineEnd fits (by simpa using line)⟩
    refine accepted.bind fun taken one two after => .both (fun found => .pure () ?_) fun missing => ?_
    · rwa [if_pos found] at after
    · rw [if_neg missing] at after
      exact .unexpected (after.based base) _

theorem indented (fits : mode.Fits) (near : Near mode base groups first second) (expected : String)
    {next nextOther : Token → Reading α}
    (rest : ∀ token one two, mode.nests → On mode Groups.none one two →
      (∀ one two, On mode Groups.none one two → On mode groups one two) →
      Parallel mode base post one two (next token) (nextOther token)) :
    Parallel mode base post first second
      (Grammar.skipNewlines >>= fun _ => Grammar.expect .indent expected >>= next)
      (Grammar.skipNewlines >>= fun _ => Grammar.expect .indent expected >>= nextOther) := by
  refine (skip fits near).bind fun _ one two skipped => ?_
  rcases skipped with still | ⟨gapped, line⟩
  · have opened : Parallel mode base (fun _ one two => mode.nests ∧ On mode Groups.none one two ∧
        ∀ one two, On mode Groups.none one two → On mode groups one two) one two
        (Grammar.expect .indent expected) (Grammar.expect .indent expected) := by
      refine .at? still.same_kind _ (.both (fun found => ?_) fun _ => .unexpected still expected)
      rw [beq_iff_eq] at found
      have layout : one.kind.isLayout = true := by rw [found]; rfl
      refine (advance still found (by decide) (by decide)).mono fun _ one two held => ⟨?_, ?_, ?_⟩
      · exact still.nested layout (by rw [found]; decide)
      · exact (still.regroup layout).mpr held.2
      · exact fun one two => (still.regroup layout).mp
    exact opened.bind fun token one two held => rest token one two held.1 held.2.1 held.2.2
  · obtain ⟨both, _, other⟩ := gapped.cases
    have neither : one.kind ≠ .indent := by
      rcases both with ⟨kind, _⟩ | kind <;> rw [kind] <;> decide
    unfold Parallel
    rw [expect_refused neither, expect_refused other]
    exact .inr (.inr ⟨gapped, line⟩)

theorem lost (strict : mode.strict) (fails : Fails reading first) :
    Parallel mode base post first second reading other := by
  obtain ⟨halt, after, failed⟩ := fails
  unfold Parallel
  rw [failed]
  cases halt with
  | refused diagnostic => exact .lost strict diagnostic after _
  | unfinished => exact trivial

theorem dedent (poised : Poised mode first second) (expected : String) :
    Parallel mode base (fun _ one two => mode.nests ∧ Closed mode one two) first second
      (Grammar.expect .dedent expected) (Grammar.expect .dedent expected) := by
  obtain ⟨nests, on | gapped⟩ := poised
  · refine .at? on.same_kind _ (.both (fun found => ?_) fun _ => .unexpected (on.based base) expected)
    rw [beq_iff_eq] at found
    obtain ⟨token, ahead, _, split, _⟩ := on.ahead (by rw [found]; decide) (by rw [found]; decide)
    obtain ⟨same, _, after⟩ := advance (on.based base) found (by decide) (by decide)
    refine ⟨same, nests, .inl ⟨nests, after, .inr (.inr (.inr ?_))⟩⟩
    rw [Cursor.advance_onto (by rw [found]; decide) split]
    exact found
  · obtain ⟨⟨kind, same, _⟩ | ended, _⟩ := gapped.cases
    · have also : second.kind = .dedent := by rw [Cursor.kind, ← same]; exact kind
      refine .at? (kind.trans also.symm) _ ?_
      rw [kind]
      exact ⟨same, nests, .inr (gapped.dedent kind)⟩
    · exact .lost (gapped.strict_of_nests nests) (.expect (by rw [ended]; decide))

theorem expectEnd (fits : mode.Fits) (loose : Loose mode first second) (construct : String) :
    Keeps mode base Groups.none first second (expectEnd construct)
      (Grammar.expectEnd construct) := by
  refine (skipLoose fits loose).bind fun _ one two poised => ?_
  obtain ⟨nests, on | gapped⟩ := poised
  · refine (expect (on.based base) .endKeyword _ (by decide) (by decide)).bind fun _ _ _ closed => ?_
    exact .pure () closed
  · refine .lost (gapped.strict_of_nests nests) (.bind (.expect ?_))
    obtain ⟨⟨kind, _⟩ | kind, _⟩ := gapped.cases <;> rw [kind] <;> decide

section Loops

variable {σ : Type} {held ended : Cursor → Cursor → Prop} {round roundOther : σ → Reading (σ × Bool)}

theorem repeatStep (rounds : ∀ state one two, held one two →
      Parallel mode base (fun _ => held) one two (round state) (roundOther state))
    (count countOther : Nat) (state : σ) (start : held first second) :
    Parallel mode base (fun _ => held) first second (repeatStep round count state)
      (Grammar.repeatStep roundOther countOther state) := by
  induction count generalizing countOther state first second with
  | zero => exact trivial
  | succ count ih =>
      cases countOther with
      | zero => exact .unfinished _ _
      | succ countOther =>
          refine (rounds state first second start).bind fun last one two still => .both (fun _ => ?_) fun _ => ?_
          · exact ih countOther last.1 still
          · exact .pure last.1 still

theorem loop (rounds : ∀ state one two, held one two →
      Parallel mode base (fun _ => held) one two (round state) (roundOther state)) (state : σ)
    (start : held first second) :
    Parallel mode base (fun _ => held) first second (repeating state round)
      (Grammar.repeating state roundOther) :=
  repeatStep rounds _ _ state start

theorem repeatUntil (rounds : ∀ state one two, held one two →
      Parallel mode base (fun last one two => if last.2 = true then held one two else ended one two) one two
        (round state) (roundOther state) ∨ Stalls mode one (round state))
    (stuck : ∀ state cursor, cursor.kind = .endOfFile → round state cursor = .ok (state, false) cursor)
    (count countOther : Nat) (state : σ) (start : held first second) :
    Parallel mode base (fun _ => ended) first second (Grammar.repeatStep round count state)
        (Grammar.repeatStep roundOther countOther state) ∨
      Stalls mode first (Grammar.repeatStep round count state) := by
  induction count generalizing countOther state first second with
  | zero => exact .inl trivial
  | succ count ih =>
      cases countOther with
      | zero => exact .inl (.unfinished _ _)
      | succ countOther =>
          rcases rounds state first second start with together | ⟨strict, ⟨next, more⟩, after, ran, last⟩
          · by_cases stalls : Stalls mode first (Grammar.repeatStep round (count + 1) state)
            · exact .inr stalls
            · refine .inl (together.chain fun last one two ran still => ?_)
              obtain ⟨next, more⟩ := last
              cases more with
              | false => exact .pure next still
              | true =>
                  refine (ih countOther next still).resolve_right fun later => stalls ?_
                  unfold Stalls
                  rwa [repeatStep_more ran]
          · cases more with
            | false => exact .inr ⟨strict, next, after, repeatStep_done ran, last⟩
            | true =>
                unfold Parallel Stalls
                rw [repeatStep_more ran]
                cases count with
                | zero => exact .inl trivial
                | succ count =>
                    refine .inr ⟨strict, next, after, ?_, last⟩
                    exact repeatStep_done (stuck next after last)

end Loops

-- A loop over the lines of a block, and what follows it. At the end of the file nothing can follow.
theorem overLines {σ : Type} {held ended : Cursor → Cursor → Prop} {round roundOther : σ → Reading (σ × Bool)}
    {next nextOther : σ → Reading β}
    (rounds : ∀ state one two, held one two →
      Parallel mode base (fun last one two => if last.2 = true then held one two else ended one two) one two
        (round state) (roundOther state) ∨ Stalls mode one (round state))
    (stuck : ∀ state cursor, cursor.kind = .endOfFile → round state cursor = .ok (state, false) cursor)
    (state : σ) (start : held first second)
    (rest : ∀ state one two, ended one two → Parallel mode base result one two (next state) (nextOther state))
    (fails : ∀ state cursor, cursor.kind = .endOfFile → Fails (next state) cursor) :
    Parallel mode base result first second (Grammar.repeating state round >>= next)
      (Grammar.repeating state roundOther >>= nextOther) := by
  rcases repeatUntil rounds stuck (first.ahead.length + 1) (second.ahead.length + 1) state start with
    together | ⟨strict, last, after, ran, stopped⟩
  · have repeated : Parallel mode base (fun _ => ended) first second (Grammar.repeating state round)
        (Grammar.repeating state roundOther) := together
    exact repeated.bind rest
  · have repeated : Grammar.repeating state round first = .ok last after := ran
    exact .lost strict (.after repeated (fails last after stopped))

theorem nextLine_ends {σ : Type} (state : σ) (line : Reading (σ × Bool))
    (stops : ∀ cursor, cursor.kind = .dedent → line cursor = .ok (state, false) cursor) (cursor : Cursor)
    (dedent : cursor.skipBlank.kind = .dedent) :
    nextLine state line cursor = .ok (state, false) cursor.skipBlank := by
  by_cases ended : cursor.kind ∈ [TokenKind.dedent, .endOfFile]
  · have other : cursor.kind ≠ .newline := by
      intro newline
      simp [newline] at ended
    rw [Cursor.skipBlank_stop other]
    exact atAny_found ended
  · exact (atAny_missing ended).trans (stops cursor.skipBlank dedent)

theorem nextLine_stuck {σ : Type} (state : σ) (line : Reading (σ × Bool)) (cursor : Cursor)
    (ended : cursor.kind = .endOfFile) : nextLine state line cursor = .ok (state, false) cursor :=
  atAny_found (by simp [ended])

theorem past {σ : Type} {round roundOther : Reading (σ × Bool)} {state : σ} (nests : mode.nests)
    (lagging : Lagging mode first second)
    (ends : ∀ cursor, cursor.skipBlank.kind = .dedent → round cursor = .ok (state, false) cursor.skipBlank)
    (endsOther : ∀ cursor, cursor.skipBlank.kind = .dedent →
      roundOther cursor = .ok (state, false) cursor.skipBlank)
    (stuck : ∀ cursor, cursor.kind = .endOfFile → round cursor = .ok (state, false) cursor) :
    Parallel mode base (fun last one two => if last.2 = true then Loose mode one two else Poised mode one two)
        first second round roundOther ∨ Stalls mode first round := by
  obtain ⟨still, gapped⟩ := lagging.skip
  obtain ⟨⟨kind, same, _⟩ | ended, _⟩ := gapped.cases
  · refine .inl ?_
    have also : second.skipBlank.kind = .dedent := by rw [Cursor.kind, ← same]; exact kind
    unfold Parallel
    rw [ends first (by rw [still, kind]), endsOther second also, still]
    exact ⟨rfl, nests, .inr gapped⟩
  · exact .inr ⟨gapped.strict_of_nests nests, _, first, stuck first ended, ended⟩

theorem nextLine {σ : Type} {line lineOther : Reading (σ × Bool)} (fits : mode.Fits) (state : σ)
    (loose : Loose mode first second)
    (inside : ∀ one two, On mode Groups.none one two → one.kind ≠ .newline →
      Parallel mode base (fun last one two => if last.2 = true then Loose mode one two else Poised mode one two)
        one two line lineOther)
    (stops : ∀ cursor, cursor.kind = .dedent → line cursor = .ok (state, false) cursor)
    (stopsOther : ∀ cursor, cursor.kind = .dedent → lineOther cursor = .ok (state, false) cursor)
    (ended : ∀ cursor, cursor.kind = .endOfFile → Fails line cursor ∨ line cursor = .ok (state, false) cursor) :
    Parallel mode base (fun last one two => if last.2 = true then Loose mode one two else Poised mode one two)
        first second (nextLine state line) (Grammar.nextLine state lineOther) ∨
      Stalls mode first (Grammar.nextLine state line) := by
  obtain ⟨nests, on | lagging⟩ := loose
  · by_cases here : first.kind ∈ [TokenKind.dedent, .endOfFile]
    · refine .inl (.atAny on.same_kind _ (.both (fun _ => .pure _ ⟨nests, .inl on⟩) fun more => ?_))
      exact absurd here (by simpa using more)
    · have there : second.kind ∉ [TokenKind.dedent, .endOfFile] := on.same_kind ▸ here
      have ran : Grammar.nextLine state line first = line first.skipBlank := atAny_missing here
      have ranOther : Grammar.nextLine state lineOther second = lineOther second.skipBlank := atAny_missing there
      unfold Parallel Stalls
      rw [ran, ranOther]
      rcases Near.skip fits on with ⟨still, stands⟩ | ⟨gapped, _⟩
      · exact .inl (inside _ _ still stands)
      · obtain ⟨⟨kind, same, _⟩ | last, _⟩ := gapped.cases
        · have also : second.skipBlank.kind = .dedent := by rw [Cursor.kind, ← same]; exact kind
          rw [stops _ kind, stopsOther _ also]
          exact .inl ⟨rfl, nests, .inr gapped⟩
        · have strict := gapped.strict_of_nests nests
          rcases ended _ last with fails | found
          · exact .inl (lost strict fails)
          · exact .inr ⟨strict, (state, false), _, found, last⟩
  · exact past nests lagging (nextLine_ends state line stops) (nextLine_ends state lineOther stopsOther)
      (nextLine_stuck state line)

theorem optionalAfter (on : On mode groups first second) (kind : TokenKind) (plain : TokenKind.isPlain kind = true)
    (reads : ∀ one two, On mode groups one two →
      Keeps mode base groups one two reading other) :
    Keeps mode base groups first second (optionalAfter kind reading)
      (Grammar.optionalAfter kind other) := by
  refine (accept on kind plain).bind fun _ one two still => .both (fun _ => ?_) fun _ => .pure _ still
  exact (reads one two still).bind fun _ _ _ after => .pure _ after

theorem unlessAny (on : On mode groups first second) (kinds : List TokenKind)
    (reads : Keeps mode base groups first second reading other) :
    Keeps mode base groups first second (unlessAny kinds reading)
      (Grammar.unlessAny kinds other) := by
  refine .atAny on.same_kind kinds (.both (fun _ => .pure _ on) fun _ => ?_)
  exact reads.bind fun _ _ _ after => .pure _ after

theorem joined (near : Near mode base groups first second)
    (reads : ∀ one two, Near mode base groups one two →
      Keeps mode base groups one two reading other) :
    Keeps mode base groups first second (joined reading) (Grammar.joined other) := by
  have round (items : List α) (one two : Cursor) (on : On mode groups one two) :
      Keeps mode base groups one two (nextJoined reading items)
        (nextJoined other items) := by
    refine (accept on .comma rfl).bind fun _ one two still => .both (fun _ => ?_) fun _ => .pure _ still
    exact (reads one two (still.based base)).bind fun _ _ _ after => .pure _ after
  refine (reads first second near).bind fun item one two on => ?_
  exact (loop round [item] on).bind fun _ _ _ after => .pure _ after

end Parallel

end Law

end Fiscal.Grammar
