import Fiscal.Proofs.Token.Literal
import Fiscal.Text.Identifier
import Fiscal.Token.Scan

set_option autoImplicit false

namespace Fiscal

open Source

namespace TokenKind

def isBracket : TokenKind → Bool
  | leftParen | rightParen | leftBracket | rightBracket | leftBrace | rightBrace => true
  | _ => false

def isRead (kind : TokenKind) : Bool := !kind.isLayout && kind != .endOfFile

theorem keyword_read (word : String) (kind : TokenKind) (found : ofWord? word = some kind) :
    kind.isRead = true ∧ kind.isBracket = false := by
  obtain ⟨before, after, split, _⟩ := List.lookup_eq_some_iff.mp found
  have member : (Text.lowerAscii word, kind) ∈ keywords := by simp [split]
  have all : ∀ entry ∈ keywords, entry.2.isRead = true ∧ entry.2.isBracket = false := by decide
  exact all _ member

end TokenKind

namespace Token

namespace Groups

def after (groups : Groups) (place : Location) : TokenKind → Groups
  | .leftParen => { groups with parens := place :: groups.parens }
  | .rightParen => { groups with parens := groups.parens.tail }
  | .leftBracket => { groups with brackets := place :: groups.brackets }
  | .rightBracket => { groups with brackets := groups.brackets.tail }
  | .leftBrace => { groups with braces := place :: groups.braces }
  | .rightBrace => { groups with braces := groups.braces.tail }
  | _ => groups

theorem after_other (groups : Groups) (place : Location) (kind : TokenKind)
    (other : kind.isBracket = false) : groups.after place kind = groups := by
  cases kind <;> first | rfl | cases other

theorem after_layout (groups : Groups) (place : Location) (kind : TokenKind)
    (layout : kind.isLayout = true) : groups.after place kind = groups := by
  refine after_other groups place kind ?_
  cases kind <;> first | rfl | cases layout

end Groups

namespace Scan

section Reading

variable (scan : Scan)

def reading (kind : TokenKind) (payload : Payload) (count : Nat) (reports : List Diagnostic) : Scan :=
  { scan with groups := scan.groups.after scan.place kind, reports := reports }.read kind payload count

inductive Reads : Scan → Prop where
  | nothing (ended : scan.ahead = []) : Reads scan
  | newline (rest : List Char) (ahead : scan.ahead = '\n' :: rest) : Reads scan.readNewline
  | token (c : Char) (rest : List Char) (kind : TokenKind) (payload : Payload) (count : Nat)
      (reports : List Diagnostic) (ahead : scan.ahead = c :: rest) (read : kind.isRead = true)
      (positive : 0 < count)
      (lines : OneLine count scan.ahead ∨ kind = .multilineString ∨ scan.ahead.length ≤ count)
      (nul : c = '\x00' → kind = .invalid ∧ count = 1 ∨ scan.ahead.length ≤ count)
      (mark : kind.isBracket = true → count = 1 ∧ Text.startsIdentifier c = false)
      (grown : scan.reports <:+ reports) : Reads (scan.reading kind payload count reports)

variable {scan} {c : Char} {rest : List Char}

theorem Reads.plain (ahead : scan.ahead = c :: rest) (visible : c ≠ '\x00') (kind : TokenKind)
    (payload : Payload) (count : Nat) (reports : List Diagnostic) (read : kind.isRead = true)
    (other : kind.isBracket = false) (positive : 0 < count)
    (lines : OneLine count scan.ahead ∨ kind = .multilineString ∨ scan.ahead.length ≤ count)
    (grown : scan.reports <:+ reports) :
    scan.Reads ({ scan with reports := reports }.read kind payload count) := by
  have reads := Reads.token c rest kind payload count reports ahead read positive lines
    (fun nul => absurd nul visible) (fun bracket => by rw [other] at bracket; cases bracket) grown
  rwa [reading, Groups.after_other _ _ kind other] at reads

theorem readInvalid_eq (dialect : Dialect) (issue : Issue) (count : Nat) (scan : Scan) :
    ∃ payload reports, scan.readInvalid dialect issue count =
      { scan with reports := reports }.read .invalid payload count ∧ scan.reports <:+ reports :=
  ⟨.text (String.ofList (scan.ahead.take count)),
    ⟨issue, some ⟨scan.place, (scan.advance count).place⟩, Text.line? dialect.lines scan.place.line⟩
      :: scan.reports, rfl, List.suffix_cons _ _⟩

theorem Reads.invalid (dialect : Dialect) (issue : Issue) (ahead : scan.ahead = c :: rest)
    (visible : c ≠ '\x00') (reports : List Diagnostic) (count : Nat) (positive : 0 < count)
    (lines : OneLine count scan.ahead ∨ scan.ahead.length ≤ count) (grown : scan.reports <:+ reports) :
    scan.Reads ({ scan with reports := reports }.readInvalid dialect issue count) := by
  obtain ⟨payload, all, same, also⟩ :=
    readInvalid_eq dialect issue count { scan with reports := reports }
  rw [same]
  exact .plain ahead visible .invalid payload count all rfl rfl positive (lines.imp_right .inr) (grown.trans also)

theorem reportEscapes_eq (dialect : Dialect) (offset : Nat) (escapes : List (Nat × Option Char))
    (scan : Scan) : ∃ reports, scan.reportEscapes dialect offset escapes = { scan with reports := reports } ∧
      scan.reports <:+ reports := by
  induction escapes generalizing scan with
  | nil => exact ⟨scan.reports, rfl, List.suffix_refl _⟩
  | cons escape others ih =>
      obtain ⟨reports, same, grown⟩ := ih (scan.reportAt dialect (.invalidEscape escape.2)
        ⟨scan.place.afterAll (scan.ahead.take (offset + escape.1)),
          (escape.2.map (scan.place.afterAll (scan.ahead.take (offset + escape.1))).after).getD
            (scan.place.afterAll (scan.ahead.take (offset + escape.1)))⟩)
      exact ⟨reports, same, (List.suffix_cons _ _).trans grown⟩

theorem readString_reads (dialect : Dialect) (ahead : scan.ahead = c :: rest)
    (quote : c = '"' ∨ c = '\'') : scan.Reads (scan.readString dialect c) := by
  have visible : c ≠ '\x00' := by rcases quote with rfl | rfl <;> decide
  have quoted : c ≠ '\n' := by rcases quote with rfl | rfl <;> decide
  unfold readString
  by_cases triple : scan.ahead.take 3 = [c, c, c]
  · simp only [triple, if_true]
    obtain ⟨reports, same, grown⟩ := reportEscapes_eq dialect 3
      (StringBody.multiline c (scan.ahead.drop 3)).badEscapes scan
    rw [same]
    by_cases closed : (StringBody.multiline c (scan.ahead.drop 3)).closed = true
    · rw [if_pos closed]
      exact .plain ahead visible .multilineString _ _ _ rfl rfl (by omega) (.inr (.inl rfl)) grown
    · rw [if_neg closed]
      have rest := StringBody.multiline_unclosed c (scan.ahead.drop 3) (by simpa using closed)
      rw [List.length_drop] at rest
      exact .invalid dialect _ ahead visible _ _ (by omega) (.inr (by omega)) grown
  · simp only [triple, if_false]
    obtain ⟨reports, same, grown⟩ := reportEscapes_eq dialect 1
      (StringBody.inline c (scan.ahead.drop 1)).badEscapes scan
    rw [same]
    have line : OneLine (1 + (StringBody.inline c (scan.ahead.drop 1)).length) scan.ahead := by
      rw [ahead, Nat.add_comm]
      exact .cons quoted (StringBody.inline_oneLine c quoted _)
    by_cases closed : (StringBody.inline c (scan.ahead.drop 1)).closed = true
    · rw [if_pos closed]
      exact .plain ahead visible .string _ _ _ rfl rfl (by omega) (.inl line) grown
    · rw [if_neg closed]
      exact .invalid dialect _ ahead visible _ _ (by omega) (.inl line) grown

theorem readNumber_reads (dialect : Dialect) (ahead : scan.ahead = c :: rest)
    (digit : Text.isDigit c = true) : scan.Reads (scan.readNumber dialect) := by
  have visible : c ≠ '\x00' := by
    rintro rfl
    revert digit
    decide
  have positive : 0 < numberLength (scan.groups.depth == 0) scan.ahead := by
    rw [ahead]
    exact numberLength_positive _ c rest digit
  have line := numberLength_oneLine (scan.groups.depth == 0) scan.ahead
  unfold readNumber
  split
  · rename_i count found
    obtain ⟨same, dated⟩ := dateLength_eq scan.ahead count found
    exact .plain ahead visible .date _ count _ rfl rfl (by omega) (.inl dated) (List.suffix_refl _)
  · dsimp only
    split
    · exact .invalid dialect _ ahead visible _ _ positive (.inl line) (List.suffix_refl _)
    · split
      · rename_i code suffix found
        refine .plain ahead visible .money _ _ _ rfl rfl (by omega) (.inl (line.append ?_)) (List.suffix_refl _)
        exact currencySuffix_oneLine dialect.currencies _ code suffix found
      · exact .plain ahead visible .number _ _ _ rfl rfl positive (.inl line) (List.suffix_refl _)

theorem readWord_reads (dialect : Dialect) (next : Scan) (ahead : scan.ahead = c :: rest)
    (begins : (Text.isLetter c || c = '_') = true) (ran : scan.readWord dialect = .ok next) :
    scan.Reads next := by
  have visible : c ≠ '\x00' := by
    rintro rfl
    revert begins
    decide
  have positive : 0 < wordLength scan.ahead := by
    rw [ahead]
    exact wordLength_positive c rest begins
  have line := wordLength_oneLine scan.ahead
  unfold readWord at ran
  dsimp only at ran
  split at ran
  · split at ran
    · cases ran
      refine .plain ahead visible .money _ _ _ rfl rfl (by omega) (.inl ?_) (List.suffix_refl _)
      refine (line.append (.takeWhile isInlineBlank _ (by decide))).append ?_
      rw [← List.drop_drop]
      exact numberLength_oneLine _ _
    · cases ran
  · split at ran
    · rename_i kind found
      cases ran
      obtain ⟨read, other⟩ := TokenKind.keyword_read _ kind found
      exact .plain ahead visible kind _ _ _ read other positive (.inl line) (List.suffix_refl _)
    · cases ran
      exact .plain ahead visible .identifier _ _ _ rfl rfl positive (.inl line) (List.suffix_refl _)

theorem pairKind_read (first second : Char) (kind : TokenKind)
    (found : pairKind? first second = some kind) :
    kind.isRead = true ∧ kind.isBracket = false ∧ first ≠ '\x00' ∧ first ≠ '\n' ∧ second ≠ '\n' := by
  unfold pairKind? at found
  split at found <;> cases found <;> decide

theorem singleKind_read (c : Char) (kind : TokenKind) (found : singleKind? c = some kind) :
    kind.isRead = true ∧ kind.isBracket = false ∧ c ≠ '\x00' := by
  unfold singleKind? at found
  split at found <;> cases found <;> decide

theorem closeGroup_eq (dialect : Dialect) (kind : TokenKind) (name : String)
    (stack : List Location) (groups : Groups) (unopened : stack = [] → groups = scan.groups) :
    ∃ reports, scan.closeGroup dialect kind name stack groups =
      { scan with groups := groups, reports := reports }.readText kind 1 ∧ scan.reports <:+ reports := by
  unfold closeGroup
  cases stack with
  | nil =>
      rw [unopened rfl]
      exact ⟨⟨.unopenedGroup name, some ⟨scan.place, scan.place.afterAll (scan.ahead.take 1)⟩,
        Text.line? dialect.lines scan.place.line⟩ :: scan.reports, rfl, List.suffix_cons _ _⟩
  | cons => exact ⟨scan.reports, rfl, List.suffix_refl _⟩

theorem single_oneLine (ahead : scan.ahead = c :: rest) (inline : c ≠ '\n') : OneLine 1 scan.ahead := by
  rw [ahead]
  exact .cons inline (.zero _)

theorem Reads.pair (ahead : scan.ahead = c :: rest) (kind : TokenKind)
    (found : rest.head?.bind (pairKind? c) = some kind) : scan.Reads (scan.readText kind 2) := by
  obtain ⟨second, head, pair⟩ := Option.bind_eq_some_iff.mp found
  obtain ⟨read, plain, visible, first, later⟩ := pairKind_read c second kind pair
  obtain ⟨others, rfl⟩ := List.head?_eq_some_iff.mp head
  refine .plain ahead visible kind _ 2 _ read plain (by omega) (.inl ?_) (List.suffix_refl _)
  rw [ahead]
  exact .cons first (.cons later (.zero _))

theorem Reads.bracket (ahead : scan.ahead = c :: rest) (inline : c ≠ '\n') (visible : c ≠ '\x00')
    (mark : Text.startsIdentifier c = false) (kind : TokenKind) (reports : List Diagnostic)
    (read : kind.isRead = true) (grown : scan.reports <:+ reports) :
    scan.Reads
      ({ scan with groups := scan.groups.after scan.place kind, reports := reports }.readText kind 1) :=
  .token c rest kind _ 1 reports ahead read (by omega) (.inl (single_oneLine ahead inline))
    (fun nul => absurd nul visible) (fun _ => ⟨rfl, mark⟩) grown

theorem Reads.closed (dialect : Dialect) (ahead : scan.ahead = c :: rest) (inline : c ≠ '\n')
    (visible : c ≠ '\x00') (mark : Text.startsIdentifier c = false) (kind : TokenKind) (name : String)
    (stack : List Location) (read : kind.isRead = true)
    (unopened : stack = [] → scan.groups.after scan.place kind = scan.groups) :
    scan.Reads (scan.closeGroup dialect kind name stack (scan.groups.after scan.place kind)) := by
  obtain ⟨reports, same, grown⟩ := closeGroup_eq dialect kind name stack _ unopened
  rw [same]
  exact .bracket ahead inline visible mark kind reports read grown

theorem readSymbol_reads (dialect : Dialect) (ahead : scan.ahead = c :: rest) (inline : c ≠ '\n') :
    scan.Reads (scan.readSymbol dialect c rest.head?) := by
  unfold readSymbol
  split
  · rename_i kind found
    exact .pair ahead kind found
  · dsimp only
    split
    · exact .bracket ahead inline (by decide) rfl .leftParen scan.reports rfl (List.suffix_refl _)
    · exact .bracket ahead inline (by decide) rfl .leftBracket scan.reports rfl (List.suffix_refl _)
    · exact .bracket ahead inline (by decide) rfl .leftBrace scan.reports rfl (List.suffix_refl _)
    · refine .closed dialect ahead inline (by decide) rfl .rightParen _ _ rfl fun none => ?_
      rw [Groups.after, none, List.tail_nil, ← none]
    · refine .closed dialect ahead inline (by decide) rfl .rightBracket _ _ rfl fun none => ?_
      rw [Groups.after, none, List.tail_nil, ← none]
    · refine .closed dialect ahead inline (by decide) rfl .rightBrace _ _ rfl fun none => ?_
      rw [Groups.after, none, List.tail_nil, ← none]
    · split
      · rename_i kind found
        obtain ⟨read, plain, visible⟩ := singleKind_read c kind found
        exact .plain ahead visible kind _ 1 _ read plain (by omega) (.inl (single_oneLine ahead inline))
          (List.suffix_refl _)
      · obtain ⟨payload, reports, same, grown⟩ := readInvalid_eq dialect (.unexpectedCharacter c) 1 scan
        rw [same]
        exact .token c rest .invalid payload 1 reports ahead rfl (by omega)
          (.inl (single_oneLine ahead inline)) (fun _ => .inl ⟨rfl, rfl⟩) nofun grown

theorem readToken_reads (dialect : Dialect) (scan next : Scan)
    (ran : scan.readToken dialect = .ok next) : scan.Reads next := by
  unfold readToken at ran
  split at ran
  · rename_i ended
    cases ran
    exact .nothing ended
  · rename_i c rest ahead
    by_cases feed : c = '\n'
    · rw [if_pos feed] at ran
      cases ran
      exact .newline rest (by rw [ahead, feed])
    · rw [if_neg feed] at ran
      split at ran
      · rename_i quote
        cases ran
        exact readString_reads dialect ahead (by simpa using quote)
      · split at ran
        · rename_i digit
          cases ran
          exact readNumber_reads dialect ahead digit
        · split at ran
          · rename_i begins
            exact readWord_reads dialect next ahead begins ran
          · cases ran
            exact readSymbol_reads dialect ahead feed

end Reading

inductive Rounds (dialect : Dialect) (scan : Scan) : Scan → Prop where
  | comment (count : Nat) (next : Scan) (reads : (scan.advance count).Reads next)
      (ended : next.ahead = []) : Rounds dialect scan next
  | within (next : Scan) (quiet : scan.lineStart = false)
      (reads : (scan.advance (trivia scan.ahead).length).Reads next) : Rounds dialect scan next
  | starts (next : Scan) (pending : scan.lineStart = true)
      (reads : ((scan.advance (trivia scan.ahead).length).startLine
        (indentWidth dialect.tabWidth scan.ahead) scan.place).Reads next) : Rounds dialect scan next

theorem openComment_reads (dialect : Dialect) (scan : Scan) (offset : Nat)
    (opened : (trivia scan.ahead).openComment = some offset) :
    (scan.advance offset).Reads ((scan.advance offset).readInvalid dialect .unterminatedComment
      ((trivia scan.ahead).length - offset)) ∧
      (scan.advance offset).ahead.length ≤ (trivia scan.ahead).length - offset := by
  obtain ⟨started, all⟩ := trivia_open scan.ahead offset opened
  have length : (scan.ahead.drop offset).length = scan.ahead.length - offset := List.length_drop
  have whole : (scan.advance offset).ahead.length ≤ (trivia scan.ahead).length - offset := by
    change (scan.ahead.drop offset).length ≤ _
    omega
  obtain ⟨c, rest, ahead⟩ : ∃ c rest, (scan.advance offset).ahead = c :: rest := by
    refine List.exists_cons_of_ne_nil fun ended => ?_
    have gone : (scan.ahead.drop offset).length = 0 := congrArg List.length ended
    omega
  obtain ⟨payload, reports, same, grown⟩ := readInvalid_eq dialect .unterminatedComment
    ((trivia scan.ahead).length - offset) (scan.advance offset)
  rw [same]
  refine ⟨?_, whole⟩
  exact .token c rest .invalid payload _ reports ahead rfl (by omega) (.inr (.inr whole))
    (fun _ => .inr whole) nofun grown

theorem openComment_rounds (dialect : Dialect) (scan : Scan) (offset : Nat)
    (opened : (trivia scan.ahead).openComment = some offset) :
    scan.Rounds dialect ((scan.advance offset).readInvalid dialect .unterminatedComment
      ((trivia scan.ahead).length - offset)) := by
  obtain ⟨reads, whole⟩ := openComment_reads dialect scan offset opened
  exact .comment offset _ reads (List.drop_eq_nil_iff.mpr whole)

theorem round_cases (dialect : Dialect) (scan next : Scan)
    (ran : scan.round dialect = .ok next) : scan.Rounds dialect next := by
  unfold round at ran
  dsimp only at ran
  split at ran
  · rename_i offset opened
    cases ran
    exact openComment_rounds dialect scan offset opened
  · cases pending : scan.lineStart with
    | true =>
        rw [pending, if_pos rfl] at ran
        exact .starts next pending (readToken_reads dialect _ next ran)
    | false =>
        rw [pending, if_neg (by decide)] at ran
        exact .within next pending (readToken_reads dialect _ next ran)

end Scan

end Token

end Fiscal
