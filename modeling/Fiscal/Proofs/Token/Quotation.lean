import Fiscal.Proofs.Token.Sequence

set_option autoImplicit false

namespace Fiscal.Token

open Source

-- A character within quotes. A backslash and the quote itself stand behind a backslash.
def escaped (quote c : Char) : List Char := if c = '\\' ∨ c = quote then ['\\', c] else [c]

def escapedInline (quote c : Char) : List Char := if c = '\n' then ['\\', 'n'] else escaped quote c

def quotedInline (quote : Char) (text : String) : String :=
  String.ofList (quote :: (text.toList.flatMap (escapedInline quote) ++ [quote]))

def quotedTriple (quote : Char) (text : String) : String :=
  String.ofList (quote :: quote :: quote :: (text.toList.flatMap (escaped quote) ++ [quote, quote, quote]))

section Bodies

variable {quote : Char} (quotes : quote = '"' ∨ quote = '\'')

include quotes

theorem quote_ordinary : quote ≠ '\\' ∧ quote ≠ '\n' := by
  rcases quotes with rfl | rfl <;> decide

theorem escapeValue_self {c : Char} (special : c = '\\' ∨ c = quote) : escapeValue? c = some c ∧ c ≠ '\n' := by
  rcases special with rfl | rfl
  · decide
  · rcases quotes with rfl | rfl <;> decide

namespace StringBody

theorem multiline_step (c : Char) (rest : List Char) :
    multiline quote (escaped quote c ++ rest) = (multiline quote rest).precede (escaped quote c).length [c] := by
  unfold escaped
  split
  · rename_i special
    obtain ⟨value, inline⟩ := escapeValue_self quotes special
    rw [List.cons_append, List.cons_append, List.nil_append, multiline, if_neg inline, precedeEscape, value]
    rfl
  · rename_i plain
    obtain ⟨ordinary, other⟩ := not_or.mp plain
    rw [List.cons_append, List.nil_append, multiline.eq_3 _ _ _ fun _ _ same => absurd same ordinary,
      if_neg (by simp [other]), if_neg ordinary]
    rfl

theorem inline_step (c : Char) (rest : List Char) :
    inline quote (escapedInline quote c ++ rest) = (inline quote rest).precede (escapedInline quote c).length [c] := by
  unfold escapedInline
  split
  · rename_i feed
    rw [feed, List.cons_append, List.cons_append, List.nil_append, inline, if_neg (by decide)]
    rfl
  · rename_i inline
    unfold escaped
    split
    · rename_i special
      rw [List.cons_append, List.cons_append, List.nil_append, StringBody.inline, if_neg inline, precedeEscape,
        (escapeValue_self quotes special).1]
      rfl
    · rename_i plain
      obtain ⟨ordinary, other⟩ := not_or.mp plain
      rw [List.cons_append, List.nil_append, StringBody.inline.eq_3 _ _ _ fun _ _ same => absurd same ordinary,
        if_neg other, if_neg inline, if_neg ordinary]
      rfl

theorem multiline_escaped (text rest : List Char) :
    multiline quote (text.flatMap (escaped quote) ++ quote :: quote :: quote :: rest) =
      ⟨(text.flatMap (escaped quote)).length + 3, text, [], true⟩ := by
  induction text with
  | nil =>
      have other := (quote_ordinary quotes).1
      rw [List.flatMap_nil, List.nil_append, multiline.eq_3 _ _ _ fun _ _ same => absurd same other, if_pos (by simp)]
      rfl
  | cons c others ih =>
      rw [List.flatMap_cons, List.append_assoc, multiline_step quotes, ih, List.length_append, Nat.add_assoc]
      rfl

theorem inline_escaped (text rest : List Char) :
    inline quote (text.flatMap (escapedInline quote) ++ quote :: rest) =
      ⟨(text.flatMap (escapedInline quote)).length + 1, text, [], true⟩ := by
  induction text with
  | nil =>
      have other := (quote_ordinary quotes).1
      rw [List.flatMap_nil, List.nil_append, inline.eq_3 _ _ _ fun _ _ same => absurd same other, if_pos rfl]
      rfl
  | cons c others ih =>
      rw [List.flatMap_cons, List.append_assoc, inline_step quotes, ih, List.length_append, Nat.add_assoc]
      rfl

end StringBody

theorem escapedInline_begins (c : Char) : ∃ first others, escapedInline quote c = first :: others ∧ first ≠ quote := by
  have backslash := Ne.symm (quote_ordinary quotes).1
  unfold escapedInline escaped
  split
  · exact ⟨'\\', ['n'], rfl, backslash⟩
  · split
    · exact ⟨'\\', [c], rfl, backslash⟩
    · rename_i plain
      exact ⟨c, [], rfl, (not_or.mp plain).2⟩

theorem inline_untripled (text : List Char) :
    (quote :: (text.flatMap (escapedInline quote) ++ [quote])).take 3 ≠ [quote, quote, quote] := by
  cases text with
  | nil => simp
  | cons c others =>
      obtain ⟨first, rest, same, other⟩ := escapedInline_begins quotes c
      rw [List.flatMap_cons, same]
      simp [other]

end Bodies

-- The stream of a text that is read as one token with a text for its value.
def single (file : Option String) (kind : TokenKind) (value source : String) : Stream :=
  let stop := (Location.start file).afterAll source.toList
  ⟨[⟨kind, .text value, source, ⟨.start file, stop⟩⟩, ⟨.newline, .none, "", .point stop⟩,
    ⟨.endOfFile, .none, "", .point stop⟩], []⟩

section Texts

variable {quote : Char} (quotes : quote = '"' ∨ quote = '\'')

include quotes

theorem readString_inline (text : String) (dialect : Dialect) {scan : Scan}
    (ahead : scan.ahead = (quotedInline quote text).toList) :
    scan.readString dialect quote = scan.read .string (.text text) scan.ahead.length := by
  have chars : scan.ahead = quote :: (text.toList.flatMap (escapedInline quote) ++ [quote]) := by
    rw [ahead, quotedInline, String.toList_ofList]
  have untripled : scan.ahead.take 3 ≠ [quote, quote, quote] := chars ▸ inline_untripled quotes text.toList
  have body : StringBody.inline quote (scan.ahead.drop 1) =
      ⟨(text.toList.flatMap (escapedInline quote)).length + 1, text.toList, [], true⟩ := by
    rw [chars]
    exact StringBody.inline_escaped quotes text.toList []
  have length : scan.ahead.length = 1 + ((text.toList.flatMap (escapedInline quote)).length + 1) := by
    rw [chars, List.length_cons, List.length_append, Nat.add_comm]
    rfl
  rw [Scan.readString_closed dialect untripled (by rw [body]) (by rw [body]), body, String.ofList_toList, length]

theorem readString_triple (text : String) (dialect : Dialect) {scan : Scan}
    (ahead : scan.ahead = (quotedTriple quote text).toList) :
    scan.readString dialect quote = scan.read .multilineString (.text text) scan.ahead.length := by
  have chars : scan.ahead =
      quote :: quote :: quote :: (text.toList.flatMap (escaped quote) ++ [quote, quote, quote]) := by
    rw [ahead, quotedTriple, String.toList_ofList]
  have triple : scan.ahead.take 3 = [quote, quote, quote] := congrArg _ chars
  have behind : scan.ahead.drop 3 = text.toList.flatMap (escaped quote) ++ [quote, quote, quote] := congrArg _ chars
  have length : scan.ahead.length = 3 + ((text.toList.flatMap (escaped quote)).length + 3) := by
    rw [chars, List.length_cons, List.length_cons, List.length_cons, List.length_append, Nat.add_comm 3]
    rfl
  unfold Scan.readString
  simp only [triple, if_true, behind, StringBody.multiline_escaped quotes text.toList [], String.ofList_toList]
  rw [length]
  rfl

theorem string_scanned (tabWidth : Nat) (currencies : List String) (file : Option String) {source value : String}
    {kind : TokenKind} {others : List Char} (begins : source.toList = quote :: others) (read : kind.isLayout = false)
    (reads : ∀ (dialect : Dialect) {scan : Scan}, scan.ahead = source.toList →
      scan.readString dialect quote = scan.read kind (.text value) scan.ahead.length) :
    scan tabWidth currencies file source = .ok (single file kind value source) := by
  let inside : Scan := { Scan.start file source with lineStart := false }
  let ended := inside.read kind (.text value) source.toList.length
  have ran : (Scan.start file source).round (dialectOf tabWidth currencies source) = .ok ended := by
    have code : Scan.isCode quote = true ∧ quote ≠ '\n' ∧ quote ≠ '\x00' := by
      rcases quotes with rfl | rfl <;> decide
    have string : inside.readToken (dialectOf tabWidth currencies source) = .ok (inside.readString _ quote) :=
      Scan.readToken_quote _ begins quotes
    rw [reads _ rfl] at string
    rw [start_round _ file begins code.1 code.2.1 code.2.2, Scan.round_inline rfl (.inl rfl) code.1 begins]
    exact string
  have more : (Scan.start file source).ahead ≠ [] := List.ne_nil_of_mem (begins ▸ List.mem_cons_self)
  have whole : source.toList.take source.toList.length = source.toList := List.take_length
  have place : ended.place = (Location.start file).afterAll source.toList := congrArg _ whole
  have tokens : ended.tokens = [⟨kind, .text value, source, ⟨.start file, ended.place⟩⟩] := by
    change [Token.mk kind _ (String.ofList (source.toList.take source.toList.length)) _] = _
    rw [whole, String.ofList_toList]
    rfl
  have closing : ended.closing = [⟨.newline, .none, "", .point ended.place⟩] := by
    have lineOpen : ended.lineOpen = true := by simp [Scan.lineOpen, tokens, read]
    rw [Scan.closing, lineOpen]
    rfl
  have quiet : ended.finish.reports = [] := List.map_eq_nil_iff.mp ended.finish_issues
  refine scan_ended.mpr ⟨ended, .step _ ended ended more ran (.refl _), List.drop_length, ?_, ?_⟩
  · rw [tokens, closing, Scan.ending, place]
    rfl
  · rw [quiet]
    rfl

end Texts

-- Every text can be written in quotes, on one line and in three of them, and comes back as it was: a single
-- token has it for its value, the line ends behind it, and nothing is reported.
theorem quoted_text_scanned (tabWidth : Nat) (currencies : List String) (file : Option String) (text : String)
    (quote : Char) (quotes : quote = '"' ∨ quote = '\'') :
    scan tabWidth currencies file (quotedInline quote text) =
        .ok (single file .string text (quotedInline quote text)) ∧
      scan tabWidth currencies file (quotedTriple quote text) =
        .ok (single file .multilineString text (quotedTriple quote text)) :=
  ⟨string_scanned quotes tabWidth currencies file String.toList_ofList rfl (readString_inline quotes text),
    string_scanned quotes tabWidth currencies file String.toList_ofList rfl (readString_triple quotes text)⟩

theorem awkward_text_scanned :
    let text := "'\n\x00\r\"\"\"\\"
    quotedInline '"' text = "\"'\\n\x00\r\\\"\\\"\\\"\\\\\"" ∧
      quotedTriple '\'' text = "'''\\'\n\x00\r\"\"\"\\\\'''" ∧
      scan 4 [] none (quotedInline '"' text) = .ok (single none .string text (quotedInline '"' text)) ∧
      scan 4 [] none (quotedTriple '\'' text) = .ok (single none .multilineString text (quotedTriple '\'' text)) := by
  intro text
  exact ⟨by decide +kernel, by decide +kernel, (quoted_text_scanned 4 [] none text '"' (.inl rfl)).1,
    (quoted_text_scanned 4 [] none text '\'' (.inr rfl)).2⟩

end Fiscal.Token
