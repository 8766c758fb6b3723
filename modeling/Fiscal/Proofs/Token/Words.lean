import Fiscal.Proofs.Token.Coverage
import Fiscal.Proofs.Token.Pieces

set_option autoImplicit false

namespace Fiscal

/-- A text that is scanned as one token, which may stand for a name. -/
def LexesAsName (text : String) : Prop :=
  ∃ stream token, Token.scan 4 [] none text = .ok stream ∧ stream.reports = [] ∧
    (stream.tokens.filter fun token => token.kind.isRead) = [token] ∧ token.kind.isName = true ∧ token.lexeme = text

namespace Token

open Scan (Wordlike wordToken)

def Words (tokens : List Token) : Prop :=
  ∀ token ∈ tokens, token.kind.isName = true →
    Wordlike token.lexeme.toList ∧ (wordToken token.lexeme).kind = token.kind

theorem name_read {kind : TokenKind} (name : kind.isName = true) : kind.isRead = true := by
  cases kind <;> first | rfl | cases name

theorem Words.add {tokens : List Token} {token : Token} (words : Words tokens) (other : token.kind.isName = false) :
    Words (token :: tokens) := by
  refine List.forall_mem_cons.mpr ⟨fun name => ?_, words⟩
  rw [other] at name
  cases name

namespace Scan

variable {dialect : Dialect} {scan next : Scan}

theorem settleIndent_words (scan : Scan) (words : Words scan.tokens) (width : Nat) (first : Source.Location) :
    Words (scan.settleIndent width first).tokens := by
  unfold settleIndent
  split
  · exact words.add rfl
  · intro token member
    rcases List.mem_append.mp member with closing | earlier
    · rw [(List.mem_replicate.mp closing).2]
      exact fun name => by cases name
    · exact words token earlier

theorem passed_words (words : Words scan.tokens) : Words (scan.passed dialect).tokens := by
  unfold passed startLine
  dsimp only
  split
  · split
    · split
      · exact settleIndent_words { scan.advance (trivia scan.ahead).length with lineStart := false } words _ _
      · exact words
    · exact words
  · exact words

theorem readString_words (words : Words scan.tokens) (quote : Char) : Words (scan.readString dialect quote).tokens := by
  have kept : ∀ offset escapes, Words (scan.reportEscapes dialect offset escapes).tokens := fun offset escapes => by
    obtain ⟨reports, same, _⟩ := reportEscapes_eq dialect offset escapes scan
    rw [same]
    exact words
  unfold readString
  dsimp only
  split <;> split
  · exact (kept _ _).add rfl
  · exact (kept _ _).add rfl
  · exact (kept _ _).add rfl
  · exact (kept _ _).add rfl

theorem readNumber_words (words : Words scan.tokens) : Words (scan.readNumber dialect).tokens := by
  unfold readNumber
  split
  · exact words.add rfl
  · dsimp only
    split
    · exact words.add rfl
    · split
      · exact words.add rfl
      · exact words.add rfl

theorem pairKind_unnamed {first second : Char} {kind : TokenKind} (found : pairKind? first second = some kind) :
    kind.isName = false := by
  unfold pairKind? at found
  split at found <;> cases found <;> rfl

theorem singleKind_unnamed {c : Char} {kind : TokenKind} (found : singleKind? c = some kind) : kind.isName = false := by
  unfold singleKind? at found
  split at found <;> cases found <;> rfl

theorem closeGroup_words (words : Words scan.tokens) {kind : TokenKind} (other : kind.isName = false) (name : String)
    (stack : List Source.Location) (groups : Groups) :
    Words (scan.closeGroup dialect kind name stack groups).tokens := by
  unfold closeGroup
  split
  · exact words.add other
  · exact words.add other

theorem readSymbol_words (words : Words scan.tokens) (c : Char) (following : Option Char) :
    Words (scan.readSymbol dialect c following).tokens := by
  unfold readSymbol
  split
  · rename_i kind found
    obtain ⟨second, rfl, pair⟩ := Option.bind_eq_some_iff.mp found
    exact words.add (pairKind_unnamed pair)
  · dsimp only
    split
    · exact words.add rfl
    · exact words.add rfl
    · exact words.add rfl
    · exact closeGroup_words words rfl _ _ _
    · exact closeGroup_words words rfl _ _ _
    · exact closeGroup_words words rfl _ _ _
    · split
      · rename_i kind found
        exact words.add (singleKind_unnamed found)
      · exact words.add rfl

theorem readWord_words (words : Words scan.tokens) {c : Char} {rest : List Char} (ahead : scan.ahead = c :: rest)
    (digit : Text.isDigit c = false) (begins : (Text.isLetter c || c = '_') = true)
    (ran : scan.readWord dialect = .ok next) : Words next.tokens := by
  have whole : scan.ahead.take (wordLength scan.ahead) = scan.ahead.takeWhile isWordChar :=
    List.prefix_iff_eq_take.mp (List.takeWhile_prefix _) |>.symm
  have like : Wordlike (scan.ahead.take (wordLength scan.ahead)) := by
    rw [whole]
    refine ⟨⟨c, rest.takeWhile isWordChar, ?_, digit, begins⟩, List.all_eq_true.mp List.all_takeWhile⟩
    rw [ahead, List.takeWhile_cons_of_pos (wordChar_begins begins)]
  unfold readWord at ran
  dsimp only at ran
  split at ran
  · split at ran
    · cases ran
      exact words.add rfl
    · cases ran
  · split at ran
    · rename_i kind found
      cases ran
      refine List.forall_mem_cons.mpr ⟨fun _ => ⟨?_, ?_⟩, words⟩
      · rw [String.toList_ofList]
        exact like
      · change (wordToken (String.ofList (scan.ahead.take (wordLength scan.ahead)))).kind = kind
        rw [wordToken, found]
        rfl
    · rename_i found
      cases ran
      refine List.forall_mem_cons.mpr ⟨fun _ => ⟨?_, ?_⟩, words⟩
      · rw [String.toList_ofList]
        exact like
      · change (wordToken (String.ofList (scan.ahead.take (wordLength scan.ahead)))).kind = .identifier
        rw [wordToken, found]
        rfl

theorem readNewline_words (words : Words scan.tokens) : Words scan.readNewline.tokens := by
  unfold readNewline
  dsimp only
  split
  · exact words.add rfl
  · exact words

theorem readToken_words (words : Words scan.tokens) (ran : scan.readToken dialect = .ok next) : Words next.tokens := by
  unfold readToken at ran
  split at ran
  · cases ran
    exact words
  · rename_i c rest ahead
    split at ran
    · cases ran
      exact readNewline_words words
    · split at ran
      · cases ran
        exact readString_words words c
      · split at ran
        · cases ran
          exact readNumber_words words
        · rename_i digit
          split at ran
          · rename_i begins
            exact readWord_words words ahead (by simpa using digit) begins ran
          · cases ran
            exact readSymbol_words words c rest.head?

theorem round_words (words : Words scan.tokens) (ran : scan.round dialect = .ok next) : Words next.tokens := by
  cases closed : (trivia scan.ahead).openComment with
  | none =>
      rw [round_closed dialect scan closed] at ran
      exact readToken_words (passed_words words) ran
  | some offset =>
      rw [round] at ran
      dsimp only at ran
      rw [closed] at ran
      cases ran
      exact words.add rfl

theorem Reaches.words (reaches : Reaches dialect scan next) (words : Words scan.tokens) : Words next.tokens := by
  induction reaches with
  | refl => exact words
  | step scan next last more ran later ih => exact ih (round_words words ran)

end Scan

variable {tabWidth : Nat} {currencies : List String} {file : Option String} {source : String} {stream : Stream}

theorem stream_words (scanned : scan tabWidth currencies file source = .ok stream) : Words stream.tokens := by
  obtain ⟨ended, reaches, _, tokens, _⟩ := scan_ended.mp scanned
  have words := reaches.words (fun _ none => absurd none List.not_mem_nil)
  intro token member name
  rw [tokens, List.append_assoc] at member
  rcases List.mem_append.mp member with read | ending
  · exact words token (List.mem_reverse.mp read) name
  · have layout := (ending_point ended token ending).1
    rw [name_read name] at layout
    cases layout

end Token

theorem LexesAsName.word {text : String} (lexes : LexesAsName text) :
    Token.Scan.Wordlike text.toList ∧ (Token.Scan.wordToken text).kind.isName = true := by
  obtain ⟨stream, token, scanned, _, only, name, rfl⟩ := lexes
  have member : token ∈ stream.tokens.filter fun token => token.kind.isRead := by
    rw [only]
    exact List.mem_singleton_self _
  obtain ⟨like, kind⟩ := Token.stream_words scanned token (List.mem_filter.mp member).1 name
  exact ⟨like, by rw [kind]; exact name⟩

end Fiscal
