import Fiscal.Proofs.Token.Completion

set_option autoImplicit false

namespace Fiscal.Token

open Source

namespace Scan

-- So many rounds in a row come to a line end inside brackets, each within the call for the one before.
inductive Deepens (dialect : Dialect) : Nat → Scan → Prop where
  | here (scan : Scan) : Deepens dialect 0 scan
  | line (count : Nat) (scan next : Scan) (continues : scan.continues = true) (ran : scan.round dialect = .ok next)
      (later : Deepens dialect count next) : Deepens dialect (count + 1) scan

-- On its way a scan comes to more line ends in a row than there is room for calls.
def Overflows (dialect : Dialect) (calls : Nat) (scan : Scan) : Prop :=
  ∃ moment, Reaches dialect scan moment ∧ Deepens dialect (calls + 1) moment

variable {dialect : Dialect} {scan next : Scan} {calls : Nat}

theorem Deepens.fewer {count more : Nat} (deepens : Deepens dialect more scan) (fewer : count ≤ more) :
    Deepens dialect count scan := by
  induction deepens generalizing count with
  | here scan =>
      cases Nat.le_zero.mp fewer
      exact .here scan
  | line more scan next continues ran _ ih =>
      cases count with
      | zero => exact .here scan
      | succ count => exact .line count scan next continues ran (ih (Nat.le_of_succ_le_succ fewer))

theorem continues_ahead (continues : scan.continues = true) : scan.ahead ≠ [] := by
  intro empty
  rw [Scan.continues, empty] at continues
  simp at continues

theorem continues_round (dialect : Dialect) (continues : scan.continues = true) : ∃ next, scan.round dialect = .ok next := by
  simp only [Scan.continues, Bool.and_eq_true, Option.isNone_iff_eq_none, beq_iff_eq] at continues
  obtain ⟨⟨closed, feed⟩, _⟩ := continues
  obtain ⟨rest, ahead⟩ := List.head?_eq_some_iff.mp feed
  refine ⟨(scan.passed dialect).readNewline, ?_⟩
  rw [round_closed dialect scan closed, readToken, passed_ahead, ahead]
  rfl

theorem Overflows.later (ran : scan.round dialect = .ok next) (more : scan.ahead ≠ [])
    (overflows : Overflows dialect calls next) : Overflows dialect calls scan := by
  obtain ⟨moment, reaches, deepens⟩ := overflows
  exact ⟨moment, .step scan next moment more ran reaches, deepens⟩

theorem overflows_cases (overflows : Overflows dialect calls scan) :
    Deepens dialect (calls + 1) scan ∨
      ∃ next, scan.ahead ≠ [] ∧ scan.round dialect = .ok next ∧ Overflows dialect calls next := by
  obtain ⟨moment, reaches, deepens⟩ := overflows
  cases reaches with
  | refl => exact .inl deepens
  | step _ next _ more ran later => exact .inr ⟨next, more, ran, moment, later, deepens⟩

theorem roundsWithin_cases (dialect : Dialect) (scan : Scan) (calls count spare : Nat) :
    scan.roundsWithin dialect calls count spare = .error .stackOverflow ∨
      scan.roundsWithin dialect calls count spare = scan.rounds dialect count := by
  induction count generalizing scan spare with
  | zero => exact .inr rfl
  | succ count ih =>
      unfold roundsWithin rounds
      by_cases ended : scan.ahead.isEmpty = true
      · rw [if_pos ended, if_pos ended]
        exact .inr rfl
      · rw [if_neg ended, if_neg ended]
        by_cases continues : scan.continues = true
        · rw [if_pos continues]
          obtain ⟨next, ran⟩ := continues_round dialect continues
          rw [ran]
          cases spare with
          | zero => exact .inl rfl
          | succ spare => exact ih next spare
        · rw [if_neg continues]
          cases scan.round dialect with
          | error fault => exact .inr rfl
          | ok next => exact ih next calls

theorem Deepens.continues {count : Nat} (deepens : Deepens dialect (count + 1) scan) : scan.continues = true := by
  cases deepens with
  | line _ _ _ continues => exact continues

theorem Deepens.tail {count : Nat} (deepens : Deepens dialect (count + 1) scan)
    (ran : scan.round dialect = .ok next) : Deepens dialect count next := by
  cases deepens with
  | line _ _ other _ also later =>
      cases ran.symm.trans also
      exact later

-- The line ends right ahead use up the calls that are spare, or those further on use up all of them.
def Exceeds (dialect : Dialect) (calls spare : Nat) (scan : Scan) : Prop :=
  Deepens dialect (spare + 1) scan ∨ Overflows dialect calls scan

theorem exceeds_cases {spare : Nat} (exceeds : Exceeds dialect calls spare scan) (within : spare ≤ calls) :
    Deepens dialect (spare + 1) scan ∨
      ∃ next, scan.ahead ≠ [] ∧ scan.round dialect = .ok next ∧ Overflows dialect calls next := by
  rcases exceeds with deepens | overflows
  · exact .inl deepens
  · exact (overflows_cases overflows).imp_left fun deepens => deepens.fewer (Nat.succ_le_succ within)

theorem exceeds_ahead {spare : Nat} (exceeds : Exceeds dialect calls spare scan) (within : spare ≤ calls) :
    scan.ahead ≠ [] := by
  rcases exceeds_cases exceeds within with deepens | ⟨_, more, _⟩
  · exact continues_ahead deepens.continues
  · exact more

theorem exceeds_line {spare : Nat} (continues : scan.continues = true) (ran : scan.round dialect = .ok next)
    (within : spare + 1 ≤ calls) : Exceeds dialect calls (spare + 1) scan ↔ Exceeds dialect calls spare next := by
  constructor
  · intro exceeds
    rcases exceeds_cases exceeds within with deepens | ⟨other, _, also, later⟩
    · exact .inl (deepens.tail ran)
    · cases ran.symm.trans also
      exact .inr later
  · rintro (deepens | overflows)
    · exact .inl (.line _ scan next continues ran deepens)
    · exact .inr (overflows.later ran (continues_ahead continues))

theorem exceeds_token {spare : Nat} (other : ¬ scan.continues = true) (more : scan.ahead ≠ [])
    (ran : scan.round dialect = .ok next) (within : spare ≤ calls) :
    Exceeds dialect calls spare scan ↔ Exceeds dialect calls calls next := by
  constructor
  · intro exceeds
    rcases exceeds_cases exceeds within with deepens | ⟨_, _, also, later⟩
    · exact absurd deepens.continues other
    · cases ran.symm.trans also
      exact .inr later
  · rintro (deepens | overflows)
    · exact .inr (.later ran more ⟨next, .refl next, deepens⟩)
    · exact .inr (overflows.later ran more)

theorem exceeds_stuck {spare : Nat} {fault : Fault} (other : ¬ scan.continues = true)
    (ran : scan.round dialect = .error fault) (within : spare ≤ calls) : ¬ Exceeds dialect calls spare scan := by
  intro exceeds
  rcases exceeds_cases exceeds within with deepens | ⟨_, _, also, _⟩
  · exact other deepens.continues
  · cases ran.symm.trans also

theorem roundsWithin_overflow_iff (count spare : Nat) (enough : scan.ahead.length ≤ count) (within : spare ≤ calls) :
    scan.roundsWithin dialect calls count spare = .error .stackOverflow ↔ Exceeds dialect calls spare scan := by
  induction count generalizing scan spare with
  | zero =>
      have empty := List.length_eq_zero_iff.mp (Nat.le_zero.mp enough)
      exact ⟨nofun, fun exceeds => absurd empty (exceeds_ahead exceeds within)⟩
  | succ count ih =>
      unfold roundsWithin
      by_cases ended : scan.ahead = []
      · rw [if_pos (by simp [ended])]
        exact ⟨nofun, fun exceeds => absurd ended (exceeds_ahead exceeds within)⟩
      · rw [if_neg (by simpa using ended)]
        by_cases continues : scan.continues = true
        · obtain ⟨next, ran⟩ := continues_round dialect continues
          have shorter := round_shorter dialect scan next ran ended
          rw [if_pos continues, ran]
          cases spare with
          | zero => exact iff_of_true rfl (.inl (.line 0 scan next continues ran (.here next)))
          | succ spare => exact (ih spare (by omega) (by omega)).trans (exceeds_line continues ran within).symm
        · rw [if_neg continues]
          cases ran : scan.round dialect with
          | error fault =>
              obtain ⟨_, _, _, _, _, _, rfl⟩ := round_error_iff.mp ran
              exact ⟨nofun, fun exceeds => absurd exceeds (exceeds_stuck continues ran within)⟩
          | ok next =>
              have shorter := round_shorter dialect scan next ran ended
              exact (ih calls (by omega) (Nat.le_refl _)).trans (exceeds_token continues ended ran within).symm

end Scan

open Scan (Reaches Deepens Overflows Stuck Malformed Shows LeftOpen)

section Streams

variable {calls tabWidth : Nat} {currencies : List String} {file : Option String} {source : String}

theorem tokenize_cases (calls tabWidth : Nat) (currencies : List String) (file : Option String) (source : String) :
    tokenize calls tabWidth currencies file source = .error .stackOverflow ∨
      tokenize calls tabWidth currencies file source = scan tabWidth currencies file source := by
  rcases Scan.roundsWithin_cases (dialectOf tabWidth currencies source) (Scan.start file source) calls
    (Scan.start file source).ahead.length calls with failed | same
  · exact .inl (congrArg (Except.map _) failed)
  · exact .inr (congrArg (Except.map _) same)

theorem scan_of_tokenize {stream : Stream} (ran : tokenize calls tabWidth currencies file source = .ok stream) :
    scan tabWidth currencies file source = .ok stream := by
  rcases tokenize_cases calls tabWidth currencies file source with full | same
  · cases ran.symm.trans full
  · exact same.symm.trans ran

theorem tokenize_overflow_iff :
    tokenize calls tabWidth currencies file source = .error .stackOverflow ↔
      Overflows (dialectOf tabWidth currencies source) calls (Scan.start file source) := by
  have failed : tokenize calls tabWidth currencies file source = .error .stackOverflow ↔
      (Scan.start file source).roundsWithin (dialectOf tabWidth currencies source) calls
        (Scan.start file source).ahead.length calls = .error .stackOverflow := by
    change ((Scan.start file source).roundsWithin (dialectOf tabWidth currencies source) calls
      (Scan.start file source).ahead.length calls).map _ = _ ↔ _
    cases (Scan.start file source).roundsWithin (dialectOf tabWidth currencies source) calls
        (Scan.start file source).ahead.length calls with
    | ok ended => simp [Except.map]
    | error other => simp [Except.map]
  rw [failed, Scan.roundsWithin_overflow_iff _ _ (Nat.le_refl _) (Nat.le_refl _)]
  exact or_iff_right_of_imp fun deepens => ⟨_, .refl _, deepens⟩

end Streams

-- A scan fails in two ways: there are more line ends in a row inside brackets than there is room for calls, or
-- it comes to a currency code before a number that a digit without a place value spoils. Otherwise it ends
-- with the end of the file, and has reported all that is malformed on its way and the brackets left open.
theorem tokenize_outcomes (calls tabWidth : Nat) (currencies : List String) (file : Option String) (source : String) :
    (∀ fault, tokenize calls tabWidth currencies file source = .error fault ↔
      fault = .stackOverflow ∧ Overflows (dialectOf tabWidth currencies source) calls (Scan.start file source) ∨
      ¬ Overflows (dialectOf tabWidth currencies source) calls (Scan.start file source) ∧
        ∃ moment word blanks numeral rest,
          Reaches (dialectOf tabWidth currencies source) (Scan.start file source) moment ∧
          (trivia moment.ahead).openComment = none ∧
          Stuck (dialectOf tabWidth currencies source) (moment.passed (dialectOf tabWidth currencies source))
            word blanks numeral rest ∧
          fault = .unreadableNumber (numberText numeral)) ∧
    ∀ stream, tokenize calls tabWidth currencies file source = .ok stream →
      WellFormed (dialectOf tabWidth currencies source) file source stream ∧
      (∀ moment issue span replaced,
        Reaches (dialectOf tabWidth currencies source) (Scan.start file source) moment →
        Malformed (dialectOf tabWidth currencies source) moment issue span replaced →
        Shows (dialectOf tabWidth currencies source) issue span replaced stream.tokens stream.reports) ∧
      ∃ ended, Reaches (dialectOf tabWidth currencies source) (Scan.start file source) ended ∧ ended.ahead = [] ∧
        ∀ name place, LeftOpen ended.groups name place →
          ⟨.unclosedGroup name, some (Span.point place), none⟩ ∈ stream.reports := by
  obtain ⟨fails, ends⟩ := scan_outcomes tabWidth currencies file source
  by_cases overflows : Overflows (dialectOf tabWidth currencies source) calls (Scan.start file source)
  · rw [tokenize_overflow_iff.mpr overflows]
    refine ⟨fun fault => ⟨fun failed => ?_, fun either => ?_⟩, nofun⟩
    · cases failed
      exact .inl ⟨rfl, overflows⟩
    · rcases either with ⟨rfl, _⟩ | ⟨without, _⟩
      · rfl
      · exact absurd overflows without
  · rw [(tokenize_cases _ _ _ _ _).resolve_left fun failed => overflows (tokenize_overflow_iff.mp failed)]
    refine ⟨fun fault => (fails fault).trans ⟨fun stuck => .inr ⟨overflows, stuck⟩, fun either => ?_⟩, ends⟩
    rcases either with ⟨_, full⟩ | ⟨_, stuck⟩
    · exact absurd full overflows
    · exact stuck

-- A superscript two behind a code of a currency, and two line ends where there is room for one.
theorem spoiled_amount_fails :
    tokenize 1000 4 [] none "USD ²" = .error (.unreadableNumber "²") ∧
      tokenize 1 4 [] none "[\n\n]" = .error .stackOverflow ∧
      Overflows (dialectOf 4 [] "[\n\n]") 1 (Scan.start none "[\n\n]") := by
  have failed : tokenize 1 4 [] none "[\n\n]" = .error .stackOverflow := by rfl
  refine ⟨by rfl, failed, ?_⟩
  rcases ((tokenize_outcomes 1 4 [] none "[\n\n]").1 _).mp failed with ⟨_, overflows⟩ | ⟨_, _, _, _, _, _, _, _, _, other⟩
  · exact overflows
  · cases other

end Fiscal.Token
