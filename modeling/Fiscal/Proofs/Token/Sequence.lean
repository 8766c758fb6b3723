import Fiscal.Proofs.Token.Pieces
import Mathlib.Data.List.Forall2

set_option autoImplicit false

namespace Fiscal.Token

open Scan (Wordlike Apart wordToken)

structure ReadsAs (dialect : Dialect) (text : List Char) (tokens : List Token) : Prop where
  begins : ∃ c others, text = c :: others ∧ Scan.isCode c = true ∧ c ≠ '\n' ∧ c ≠ '\x00'
  ends : ∃ front last, tokens = front ++ [last] ∧ last.kind.isRead = true
  passes : ∀ (scan : Scan) (gap rest : List Char), scan.lineStart = false → gap = [] ∨ gap = [' '] → Ends rest →
    scan.ahead = gap ++ (text ++ rest) →
    ∃ next, Scan.Reaches dialect scan next ∧ scan.Continues rest scan.groups tokens next

namespace ReadsAs

variable {dialect : Dialect} {text other : List Char} {tokens others : List Token}

section Words

theorem ends_apart {rest : List Char} (ends : Ends rest) : Apart rest where
  stops c begins := by rcases ends.head c begins with rfl | rfl | rfl <;> decide
  unpriced := by cases ends <;> rfl

theorem wordToken_read (word : String) : (wordToken word).kind.isRead = true := by
  unfold Scan.wordToken
  split
  · rename_i kind found
    exact (TokenKind.keyword_read word kind found).1
  · rfl

theorem wordlike_begins {word : List Char} (like : Wordlike word) :
    ∃ c others, word = c :: others ∧ Scan.isCode c = true ∧ c ≠ '\n' ∧ c ≠ '\x00' := by
  obtain ⟨c, others, same, digit, begins⟩ := like.begins
  refine ⟨c, others, same, Scan.begins_code begins, (Scan.begins_visible begins).1, ?_⟩
  rintro rfl
  revert begins
  decide

theorem word {word : List Char} (like : Wordlike word) : ReadsAs dialect word [wordToken (String.ofList word)] where
  begins := wordlike_begins like
  ends := ⟨[], _, rfl, wordToken_read _⟩
  passes _ _ _ inline blank ends ahead := Scan.word_read inline blank like (ends_apart ends) ahead

theorem literal (word : String) (like : Wordlike word.toList) : ReadsAs dialect word.toList [wordToken word] := by
  have reads : ReadsAs dialect word.toList _ := .word like
  rwa [String.ofList_toList] at reads

end Words

section Numbers

variable {d : Number.Decimal}

theorem number (written : Number.Written text d) :
    ReadsAs dialect text [numeral (d.toFloat false) (String.ofList text)] where
  begins := by
    obtain ⟨c, others, same, digit⟩ := written.numeral.begins
    exact ⟨c, others, same, Scan.digit_code digit, Number.digit_apart digit '\n' (by decide),
      Number.digit_apart digit '\x00' (by decide)⟩
  ends := ⟨[], _, rfl, rfl⟩
  passes _ _ _ inline blank ends ahead := Scan.number_read inline blank written ends ahead

theorem minus (written : Number.Written text d) :
    ReadsAs dialect ('-' :: text) [mark .minus "-", numeral (d.toFloat false) (String.ofList text)] where
  begins := ⟨'-', text, rfl, by decide, by decide, by decide⟩
  ends := ⟨[_], _, rfl, rfl⟩
  passes scan gap rest inline blank ends ahead := by
    obtain ⟨c, others, same, digit⟩ := written.numeral.begins
    have alone : (text ++ rest).head? ≠ some '>' := by
      rw [same]
      exact fun found => absurd (Option.some.inj found) (Number.digit_apart digit '>' (by decide))
    obtain ⟨middle, reaches, sign⟩ := Scan.single_read inline blank ahead (.inr (.inr ⟨rfl, rfl, alone⟩))
    obtain ⟨next, onward, amount⟩ := Scan.number_read sign.inline (.inl rfl) written ends sign.ahead
    rw [sign.groups] at amount
    exact ⟨next, reaches.trans onward, sign.trans amount⟩

end Numbers

section Sequences

theorem field {key : List Char} (like : Wordlike key) (value : ReadsAs dialect text tokens) :
    ReadsAs dialect (key ++ ':' :: ' ' :: text) (wordToken (String.ofList key) :: mark .colon ":" :: tokens) where
  begins := by
    obtain ⟨c, others, same, begins⟩ := wordlike_begins like
    exact ⟨c, others ++ ':' :: ' ' :: text, by rw [same]; rfl, begins⟩
  ends := by
    obtain ⟨front, last, same, read⟩ := value.ends
    exact ⟨_ :: _ :: front, last, by rw [same]; rfl, read⟩
  passes scan gap rest inline blank ends ahead := by
    have apart : Apart (':' :: ' ' :: (text ++ rest)) := ⟨fun c begins => by cases begins; decide, rfl⟩
    obtain ⟨named, reaches, name⟩ := Scan.word_read inline blank like apart (by rw [ahead]; simp)
    obtain ⟨marked, further, colon⟩ := Scan.single_read name.inline (.inl rfl) name.ahead (.inr (.inl ⟨rfl, rfl⟩))
    obtain ⟨next, onward, last⟩ := value.passes marked [' '] rest colon.inline (.inr rfl) ends colon.ahead
    rw [colon.groups, name.groups] at last
    have all := (name.trans colon).trans last
    exact ⟨next, (reaches.trans further).trans onward, all⟩

theorem both (first : ReadsAs dialect text tokens) (second : ReadsAs dialect other others) :
    ReadsAs dialect (text ++ ',' :: ' ' :: other) (tokens ++ mark .comma "," :: others) where
  begins := by
    obtain ⟨c, chars, same, begins⟩ := first.begins
    exact ⟨c, chars ++ ',' :: ' ' :: other, by rw [same]; rfl, begins⟩
  ends := by
    obtain ⟨front, last, same, read⟩ := second.ends
    exact ⟨tokens ++ mark .comma "," :: front, last, by rw [same]; simp, read⟩
  passes scan gap rest inline blank ends ahead := by
    obtain ⟨left, reaches, one⟩ := first.passes scan gap (',' :: ' ' :: (other ++ rest)) inline blank (.comma _)
      (by rw [ahead]; simp)
    obtain ⟨marked, further, comma⟩ := Scan.single_read one.inline (.inl rfl) one.ahead (.inl ⟨rfl, rfl⟩)
    obtain ⟨next, onward, two⟩ := second.passes marked [' '] rest comma.inline (.inr rfl) ends comma.ahead
    rw [comma.groups, one.groups] at two
    have all := one.trans (comma.trans two)
    exact ⟨next, (reaches.trans further).trans onward, all⟩

theorem joined {texts : List (List Char)} {pieces : List (List Token)}
    (each : List.Forall₂ (ReadsAs dialect) texts pieces) (some : texts ≠ []) :
    ReadsAs dialect ([',', ' '].intercalate texts) ([mark .comma ","].intercalate pieces) := by
  induction each with
  | nil => exact absurd rfl some
  | @cons text tokens texts pieces first later ih =>
      cases later with
      | nil => simpa using first
      | @cons second secondTokens texts pieces one more => exact first.both (ih (List.cons_ne_nil _ _))

theorem bracketed (inner : text = [] ∧ tokens = [] ∨ ReadsAs dialect text tokens) :
    ReadsAs dialect ('[' :: (text ++ [']'])) (mark .leftBracket "[" :: (tokens ++ [mark .rightBracket "]"])) where
  begins := ⟨'[', _, rfl, by decide, by decide, by decide⟩
  ends := ⟨mark .leftBracket "[" :: tokens, _, rfl, rfl⟩
  passes scan gap rest inline blank ends ahead := by
    obtain ⟨inside, place, reaches, opened⟩ := Scan.bracket_opens dialect inline blank ahead
    have content : ∃ middle, Scan.Reaches dialect inside middle ∧
        inside.Continues (']' :: rest) inside.groups tokens middle := by
      rcases inner with ⟨rfl, rfl⟩ | inner
      · exact ⟨inside, .refl _, ⟨opened.ahead, opened.inline, rfl, rfl, rfl, rfl⟩⟩
      · exact inner.passes inside [] (']' :: rest) opened.inline (.inl rfl) (.bracket rest) (by rw [opened.ahead]; simp)
    obtain ⟨middle, further, between⟩ := content
    rw [opened.groups] at between
    obtain ⟨next, onward, closed⟩ := Scan.bracket_closes between.inline (.inl rfl) between.ahead
      (congrArg Groups.brackets between.groups)
    rw [between.groups] at closed
    exact ⟨next, (reaches.trans further).trans onward, opened.trans (between.trans closed)⟩

theorem braced (inner : ReadsAs dialect text tokens) :
    ReadsAs dialect ('\x7b' :: ' ' :: (text ++ [' ', '\x7d']))
      (mark .leftBrace "\x7b" :: (tokens ++ [mark .rightBrace "\x7d"])) where
  begins := ⟨'\x7b', _, rfl, by decide, by decide, by decide⟩
  ends := ⟨mark .leftBrace "\x7b" :: tokens, _, rfl, rfl⟩
  passes scan gap rest inline blank ends ahead := by
    obtain ⟨inside, place, reaches, opened⟩ := Scan.brace_opens dialect inline blank ahead
    obtain ⟨middle, further, between⟩ := inner.passes inside [' '] (' ' :: '\x7d' :: rest) opened.inline (.inr rfl)
      (.brace rest) (by rw [opened.ahead]; simp)
    rw [opened.groups] at between
    obtain ⟨next, onward, closed⟩ := Scan.brace_closes between.inline (.inr rfl) between.ahead
      (congrArg Groups.braces between.groups)
    rw [between.groups] at closed
    exact ⟨next, (reaches.trans further).trans onward, opened.trans (between.trans closed)⟩

theorem braces : ReadsAs dialect ['\x7b', '\x7d'] [mark .leftBrace "\x7b", mark .rightBrace "\x7d"] where
  begins := ⟨'\x7b', _, rfl, by decide, by decide, by decide⟩
  ends := ⟨[_], _, rfl, rfl⟩
  passes scan gap rest inline blank ends ahead := by
    obtain ⟨inside, place, reaches, opened⟩ := Scan.brace_opens dialect inline blank ahead
    obtain ⟨next, onward, closed⟩ := Scan.brace_closes opened.inline (.inl rfl) opened.ahead
      (congrArg Groups.braces opened.groups)
    rw [opened.groups] at closed
    exact ⟨next, reaches.trans onward, opened.trans closed⟩

end Sequences

end ReadsAs

section Streams

variable {text : List Char} {tokens : List Token}

theorem start_round (dialect : Dialect) (file : Option String) {source : String} {c : Char} {others : List Char}
    (same : source.toList = c :: others) (code : Scan.isCode c = true) (line : c ≠ '\n') (visible : c ≠ '\x00') :
    (Scan.start file source).round dialect = { Scan.start file source with lineStart := false }.round dialect := by
  have skipped : trivia source.toList = ⟨0, none⟩ := by
    rw [same]
    exact Scan.trivia_code code (.inl rfl) others
  have closed : (trivia source.toList).openComment = none := by rw [skipped]
  have width : indentWidth dialect.tabWidth source.toList = 0 := by
    rw [same]
    simp only [Scan.isCode, isInlineBlank, Bool.and_eq_true, Bool.not_eq_true', Bool.or_eq_false_iff, bne_iff_ne,
      decide_eq_false_iff_not] at code
    unfold indentWidth
    split <;> simp_all
  have codes : ((Scan.start file source).advance 0).atCode = true := by
    change source.toList.head?.any _ = true
    rw [same]
    simp [line, visible]
  rw [Scan.round_closed dialect (Scan.start file source) closed,
    Scan.round_closed dialect { Scan.start file source with lineStart := false } closed]
  have starts : (Scan.start file source).passed dialect =
      ((Scan.start file source).advance 0).startLine 0 (Scan.start file source).place := by
    change ((Scan.start file source).advance (trivia source.toList).length).startLine
      (indentWidth dialect.tabWidth source.toList) _ = _
    rw [skipped, width]
  have within : { Scan.start file source with lineStart := false }.passed dialect =
      { Scan.start file source with lineStart := false }.advance 0 := by
    change { Scan.start file source with lineStart := false }.advance (trivia source.toList).length = _
    rw [skipped]
  rw [starts, within, Scan.startLine, if_pos codes]
  rfl

theorem ReadsAs.scanned {tabWidth : Nat} {currencies : List String} {source : String}
    (reads : ReadsAs (dialectOf tabWidth currencies source) source.toList tokens) (file : Option String) :
    ∃ stream, scan tabWidth currencies file source = .ok stream ∧ stream.reports = [] ∧
      stream.tokens.map Token.bare =
        tokens ++ [⟨.newline, .none, "", default⟩, ⟨.endOfFile, .none, "", default⟩] := by
  obtain ⟨c, others, same, code, line, visible⟩ := reads.begins
  obtain ⟨next, reaches, ends⟩ := reads.passes { Scan.start file source with lineStart := false } [] [] rfl (.inl rfl)
    .nothing (List.append_nil _).symm
  have begun : Scan.Reaches (dialectOf tabWidth currencies source) (Scan.start file source) next := by
    cases reaches with
    | refl =>
        have none : source.toList = [] := ends.ahead
        rw [same] at none
        cases none
    | step scan middle next more ran later =>
        exact .step _ middle _ more ((start_round _ file same code line visible).trans ran) later
  have bare : next.tokens.map Token.bare = tokens.reverse := by
    rw [ends.tokens]
    exact List.append_nil _
  obtain ⟨front, last, rfl, read⟩ := reads.ends
  have lineOpen : next.lineOpen = true := by
    rw [Scan.lineOpen_bare, bare, List.reverse_append]
    exact (Bool.and_eq_true_iff.mp read).1
  have closing : next.closing.map Token.bare = [⟨.newline, .none, "", default⟩] := by
    rw [Scan.closing, lineOpen, ends.indents]
    rfl
  have quiet : next.finish.reports = [] := by
    have issues := next.finish_issues
    rw [ends.groups, ends.reports] at issues
    exact List.map_eq_nil_iff.mp issues
  refine ⟨⟨next.tokens.reverse ++ next.closing ++ [next.ending], next.finish.reports.reverse⟩,
    scan_ended.mpr ⟨next, begun, ends.ahead, rfl, rfl⟩, by rw [quiet]; rfl, ?_⟩
  rw [stream_bare, bare, closing, List.reverse_reverse]
  rfl

end Streams

end Fiscal.Token
