import Fiscal.Proofs.Token.Completion
import Fiscal.Proofs.Token.Literal

set_option autoImplicit false

namespace Fiscal.Source

structure Location.Marks (source : List Char) (place : Location) : Prop where
  within : place.offset ≤ source.length
  line : place.line = 1 + (source.take place.offset).count '\n'
  column : place.column = 1 + ((source.take place.offset).reverse.takeWhile (· != '\n')).length

def Span.Marks (source : List Char) (span : Span) : Prop :=
  span.start.Marks source ∧ span.stop.Marks source

namespace Location

variable {source : List Char} {place : Location}

theorem start_marks (source : List Char) (file : Option String) : (start file).Marks source :=
  ⟨Nat.zero_le _, rfl, rfl⟩

theorem Marks.after {c : Char} {rest : List Char} (marks : place.Marks source)
    (ahead : source.drop place.offset = c :: rest) : (place.after c).Marks source := by
  have here : source[place.offset]? = some c := by rw [← List.head?_drop, ahead, List.head?_cons]
  have taken : source.take (place.offset + 1) = source.take place.offset ++ [c] := by
    rw [List.take_add_one, here, Option.toList_some]
  obtain ⟨bound, _⟩ := List.getElem?_eq_some_iff.mp here
  unfold Location.after
  by_cases feed : c = '\n'
  · rw [if_pos feed]
    refine ⟨bound, ?_, ?_⟩ <;> dsimp only <;> rw [taken]
    · rw [List.count_append, marks.line, feed]
      rfl
    · rw [List.reverse_concat, feed]
      rfl
  · rw [if_neg feed]
    have other : (c != '\n') = true := by simpa using feed
    refine ⟨bound, ?_, ?_⟩ <;> dsimp only <;> rw [taken]
    · rw [List.count_append, List.count_singleton, if_neg (by simpa using feed), marks.line, Nat.add_zero]
    · rw [List.reverse_concat, List.takeWhile_cons, if_pos other, List.length_cons, marks.column]
      omega

theorem Marks.afterAll (chars : List Char) (marks : place.Marks source)
    (ahead : chars <+: source.drop place.offset) : (place.afterAll chars).Marks source := by
  induction chars generalizing place with
  | nil => exact marks
  | cons c rest ih =>
      obtain ⟨others, split⟩ := ahead
      refine ih (marks.after split.symm) ⟨others, ?_⟩
      rw [after_offset, ← List.drop_drop, ← split]
      rfl

end Location

end Fiscal.Source

namespace Fiscal.Token

open Source

structure Sited (source : List Char) (token : Token) : Prop where
  span : token.span.Marks source
  lexeme : token.kind.isRead = true →
    token.lexeme ≠ "" ∧
      token.lexeme = String.ofList (source.extract token.span.start.offset token.span.stop.offset)

def Tiles (source : List Char) : Nat → List Token → Prop
  | position, [] => Spacing [] (source.drop position)
  | position, token :: rest =>
      position ≤ token.span.start.offset ∧ token.span.start.offset < token.span.stop.offset ∧
        Spacing (source.drop token.span.start.offset)
          (source.extract position token.span.start.offset) ∧
        Tiles source token.span.stop.offset rest

inductive Tiled (source : List Char) : List Token → Nat → Prop where
  | nothing : Tiled source [] 0
  | token (latest : Token) (earlier : List Token) (position : Nat) (tiled : Tiled source earlier position)
      (behind : position ≤ latest.span.start.offset)
      (filled : latest.span.start.offset < latest.span.stop.offset)
      (spaced : Spacing (source.drop latest.span.start.offset)
        (source.extract position latest.span.start.offset)) :
      Tiled source (latest :: earlier) latest.span.stop.offset

theorem Tiled.tiles {source : List Char} {earlier later : List Token} {position : Nat}
    (tiled : Tiled source earlier position) (rest : Tiles source position later) :
    Tiles source 0 (earlier.reverse ++ later) := by
  induction tiled generalizing later with
  | nothing => exact rest
  | token latest earlier position _ behind filled spaced ih =>
      rw [List.reverse_cons, List.append_assoc]
      exact ih ⟨behind, filled, spaced, rest⟩

theorem extract_append (source : List Char) (position offset count : Nat) (behind : position ≤ offset) :
    source.extract position (offset + ((source.drop offset).take count).length) =
      source.extract position offset ++ (source.drop offset).take count := by
  have front : offset + ((source.drop offset).take count).length - position =
      (offset - position) + ((source.drop offset).take count).length := by omega
  have there : position + (offset - position) = offset := by omega
  rw [List.extract_eq_take_drop, List.extract_eq_take_drop, front, List.take_add, List.drop_drop, there,
    List.length_take, ← List.take_eq_take_min]

namespace Scan

def Sees (scan : Scan) (place : Location) : Prop :=
  ∃ count, place = scan.place.afterAll (scan.ahead.take count)

def Accounts (scan : Scan) (reports : List Diagnostic) : Prop :=
  ∀ report ∈ reports, report ∈ scan.reports ∨
    ∃ span, report.span = some span ∧ scan.Sees span.start ∧ scan.Sees span.stop

section Reports

variable {scan : Scan}

theorem Sees.here : scan.Sees scan.place := ⟨0, rfl⟩

theorem Sees.advanced (count : Nat) : scan.Sees (scan.advance count).place := ⟨count, rfl⟩

theorem Sees.later {count : Nat} {place : Location} (sees : (scan.advance count).Sees place) :
    scan.Sees place := by
  obtain ⟨further, same⟩ := sees
  refine ⟨count + further, ?_⟩
  rw [same, List.take_add]
  exact (List.foldl_append ..).symm

theorem Sees.after {index : Nat} {c : Char} (here : scan.ahead[index]? = some c) :
    scan.Sees ((scan.place.afterAll (scan.ahead.take index)).after c) := by
  refine ⟨index + 1, ?_⟩
  rw [List.take_add_one, here, Option.toList_some]
  simp [Location.afterAll]

theorem Accounts.same : scan.Accounts scan.reports := fun _ member => .inl member

theorem Accounts.cons {reports : List Diagnostic} (accounts : scan.Accounts reports)
    (latest : Diagnostic) (span : Span) (placed : latest.span = some span) (start : scan.Sees span.start)
    (stop : scan.Sees span.stop) : scan.Accounts (latest :: reports) :=
  List.forall_mem_cons.mpr ⟨.inr ⟨span, placed, start, stop⟩, accounts⟩

theorem Accounts.later {count : Nat} {reports : List Diagnostic}
    (accounts : (scan.advance count).Accounts reports) : scan.Accounts reports := by
  intro report member
  rcases accounts report member with earlier | ⟨span, placed, start, stop⟩
  · exact .inl earlier
  · exact .inr ⟨span, placed, start.later, stop.later⟩

theorem readInvalid_accounts (dialect : Dialect) (issue : Issue) (count : Nat) (other : Scan)
    (ahead : other.ahead = scan.ahead) (place : other.place = scan.place)
    (accounts : scan.Accounts other.reports) :
    scan.Accounts (other.readInvalid dialect issue count).reports := by
  refine accounts.cons _ ⟨other.place, other.place.afterAll (other.ahead.take count)⟩ rfl ?_ ?_ <;>
    simp only [ahead, place]
  · exact .here
  · exact .advanced count

end Reports

end Scan

namespace StringBody

def Escapes (chars : List Char) (body : StringBody) : Prop :=
  ∀ position c, (position, some c) ∈ body.badEscapes → chars[position]? = some c

theorem Escapes.precede {chars rest : List Char} {body : StringBody} (count : Nat) (value : List Char)
    (escapes : Escapes rest body) (ahead : chars.drop count = rest) :
    Escapes chars (body.precede count value) := by
  intro position c member
  obtain ⟨⟨index, escaped⟩, found, same⟩ := List.mem_map.mp member
  cases same
  rw [← List.getElem?_drop, ahead]
  exact escapes index c found

theorem Escapes.precedeEscape {rest : List Char} {body : StringBody} (c : Char)
    (escapes : Escapes rest body) : Escapes ('\\' :: c :: rest) (body.precedeEscape c) := by
  unfold StringBody.precedeEscape
  split
  · exact escapes.precede 2 _ rfl
  · intro position found member
    rcases List.mem_cons.mp member with same | earlier
    · cases same
      rfl
    · exact escapes.precede 2 [c] rfl position found earlier

theorem Escapes.withBadEscape {chars : List Char} {body : StringBody} (escapes : Escapes chars body) :
    Escapes chars (body.withBadEscape none) := by
  intro position c member
  rcases List.mem_cons.mp member with same | earlier
  · cases same
  · exact escapes position c earlier

theorem Escapes.none (chars : List Char) (body : StringBody) (quiet : body.badEscapes = []) :
    Escapes chars body := by
  intro position c member
  rw [quiet] at member
  cases member

theorem inline_escapes (quote : Char) (chars : List Char) : Escapes chars (inline quote chars) := by
  fun_induction inline quote chars with
  | case1 | case4 | case5 => exact .none _ _ rfl
  | case2 rest => exact .withBadEscape (.none _ _ rfl)
  | case3 c rest _ ih => exact ih.precedeEscape c
  | case6 => exact .withBadEscape (.none _ _ rfl)
  | case7 c rest _ _ _ _ ih => exact ih.precede 1 [c] rfl

theorem multiline_escapes (quote : Char) (chars : List Char) : Escapes chars (multiline quote chars) := by
  fun_induction multiline quote chars with
  | case1 | case4 => exact .none _ _ rfl
  | case2 rest ih => exact (ih.precede 1 [] rfl).withBadEscape
  | case3 c rest _ ih => exact ih.precedeEscape c
  | case5 rest _ _ ih => exact (ih.precede 1 [] rfl).withBadEscape
  | case6 c rest _ _ _ ih => exact ih.precede 1 [c] rfl

end StringBody

namespace Scan

section Readers

variable {scan next : Scan} {dialect : Dialect}

theorem quoted_escapes (quote : Char) (chars : List Char) :
    (quoted quote chars).Escapes (chars.drop (quotes quote chars)) := by
  unfold quoted quotes
  split
  · exact StringBody.multiline_escapes quote _
  · exact StringBody.inline_escapes quote _

theorem reportEscapes_accounts (offset : Nat) (escapes : List (Nat × Option Char)) (other : Scan)
    (ahead : other.ahead = scan.ahead) (place : other.place = scan.place)
    (found : ∀ position c, (position, some c) ∈ escapes → scan.ahead[offset + position]? = some c)
    (accounts : scan.Accounts other.reports) :
    scan.Accounts (other.reportEscapes dialect offset escapes).reports := by
  induction escapes generalizing other with
  | nil => exact accounts
  | cons escape others ih =>
      obtain ⟨position, escaped⟩ := escape
      refine ih _ ahead place (fun position c later => found position c (List.mem_cons_of_mem _ later)) ?_
      refine accounts.cons _ _ rfl ?_ ?_ <;> dsimp only <;> rw [ahead, place]
      · exact .advanced (offset + position)
      · cases escaped with
        | none => exact .advanced (offset + position)
        | some c => exact .after (found position c List.mem_cons_self)

theorem readString_accounts (quote : Char) : scan.Accounts (scan.readString dialect quote).reports := by
  obtain ⟨kind, same⟩ := readString_eq dialect quote scan
  obtain ⟨reports, reported, _⟩ := reportEscapes_eq dialect (quotes quote scan.ahead)
    (quoted quote scan.ahead).badEscapes scan
  have accounts : scan.Accounts
      (scan.reportEscapes dialect (quotes quote scan.ahead) (quoted quote scan.ahead).badEscapes).reports :=
    reportEscapes_accounts _ _ scan rfl rfl (fun position c bad => by
      rw [← List.getElem?_drop]
      exact quoted_escapes quote scan.ahead position c bad) .same
  rw [reported] at accounts
  rw [same]
  dsimp only
  rw [reported]
  split
  · exact accounts
  · exact readInvalid_accounts dialect _ _ _ rfl rfl accounts

theorem readNumber_accounts : scan.Accounts (scan.readNumber dialect).reports := by
  unfold readNumber
  split
  · exact .same
  · dsimp only
    split
    · exact readInvalid_accounts dialect _ _ scan rfl rfl .same
    · split <;> exact .same

theorem readWord_accounts (ran : scan.readWord dialect = .ok next) : scan.Accounts next.reports := by
  unfold readWord at ran
  dsimp only at ran
  split at ran
  · split at ran <;> cases ran
    exact .same
  · split at ran <;> cases ran <;> exact .same

theorem closeGroup_accounts (kind : TokenKind) (name : String) (stack : List Location) (groups : Groups) :
    scan.Accounts (scan.closeGroup dialect kind name stack groups).reports := by
  cases stack with
  | nil => exact Accounts.same.cons _ _ rfl .here (.advanced 1)
  | cons => exact .same

theorem readSymbol_accounts (c : Char) (following : Option Char) :
    scan.Accounts (scan.readSymbol dialect c following).reports := by
  unfold readSymbol
  split
  · exact .same
  · dsimp only
    split
    · exact .same
    · exact .same
    · exact .same
    · exact closeGroup_accounts _ _ _ _
    · exact closeGroup_accounts _ _ _ _
    · exact closeGroup_accounts _ _ _ _
    · split
      · exact .same
      · exact readInvalid_accounts dialect _ _ scan rfl rfl .same

theorem readNewline_reports (scan : Scan) : scan.readNewline.reports = scan.reports := by
  unfold readNewline
  dsimp only
  split <;> rfl

theorem readToken_accounts (ran : scan.readToken dialect = .ok next) : scan.Accounts next.reports := by
  unfold readToken at ran
  split at ran
  · cases ran
    exact .same
  · split at ran
    · cases ran
      rw [readNewline_reports]
      exact .same
    · split at ran
      · cases ran
        exact readString_accounts _
      · split at ran
        · cases ran
          exact readNumber_accounts
        · split at ran
          · exact readWord_accounts ran
          · cases ran
            exact readSymbol_accounts _ _

theorem passed_place (dialect : Dialect) (scan : Scan) :
    (scan.passed dialect).place = (scan.advance (trivia scan.ahead).length).place := by
  unfold passed
  split
  · exact startLine_place _ _ _
  · rfl

theorem round_accounts (ran : scan.round dialect = .ok next) : scan.Accounts next.reports := by
  cases opened : (trivia scan.ahead).openComment with
  | some offset =>
      rw [round] at ran
      dsimp only at ran
      rw [opened] at ran
      cases ran
      exact (readInvalid_accounts dialect _ _ (scan.advance offset) rfl rfl .same).later
  | none =>
      rw [round_closed dialect scan opened] at ran
      have accounts := readToken_accounts ran
      have same : (scan.advance (trivia scan.ahead).length).Accounts next.reports := by
        intro report member
        have found := accounts report member
        simp only [passed_reports, Sees, passed_place, passed_ahead] at found
        exact found
      exact same.later

end Readers

-- What holds between any two steps of a scan: it stands where its offset says, and so do the open brackets
-- and the tokens; up to here the text is made of the tokens that were read and the spacing between them.
structure Lies (source : List Char) (scan : Scan) : Prop where
  ahead : scan.ahead = source.drop scan.place.offset
  place : scan.place.Marks source
  groups : ∀ place, place ∈ scan.groups.parens ∨ place ∈ scan.groups.brackets ∨ place ∈ scan.groups.braces →
    place.Marks source
  tokens : ∀ token ∈ scan.tokens, Sited source token
  tiled : ∃ position, Tiled source (scan.tokens.filter (·.kind.isRead)) position ∧
    position ≤ scan.place.offset ∧ Spacing scan.ahead (source.extract position scan.place.offset)

section Steps

variable {source : List Char} {scan next : Scan}

theorem Lies.sees {place : Location} (lies : scan.Lies source) (sees : scan.Sees place) :
    place.Marks source := by
  obtain ⟨count, rfl⟩ := sees
  refine lies.place.afterAll _ ?_
  rw [← lies.ahead]
  exact List.take_prefix _ _

theorem Lies.advance (lies : scan.Lies source) (count : Nat)
    (spacing : Spacing (scan.ahead.drop count) (scan.ahead.take count)) : (scan.advance count).Lies source := by
  obtain ⟨position, tiled, behind, spaced⟩ := lies.tiled
  have offset : (scan.advance count).place.offset = scan.place.offset + (scan.ahead.take count).length :=
    Location.afterAll_offset _ _
  refine ⟨advance_ahead_at scan count lies.ahead, lies.sees (.advanced count), lies.groups, lies.tokens,
    position, tiled, by omega, ?_⟩
  rw [offset, lies.ahead, extract_append source position _ count behind, ← lies.ahead]
  refine .append ?_ spacing
  rwa [advance_ahead, List.take_append_drop]

theorem Lies.layout (lies : scan.Lies source) (token : Token) (kind : token.kind.isRead = false)
    (start : token.span.start.Marks source) (stop : token.span.stop.Marks source) (count : Nat)
    (indents : List Nat) (lineStart : Bool) :
    Lies source { scan with
      tokens := List.replicate count token ++ scan.tokens
      indents := indents
      lineStart := lineStart } := by
  obtain ⟨position, tiled, behind, spaced⟩ := lies.tiled
  refine ⟨lies.ahead, lies.place, lies.groups, fun other member => ?_, position, ?_, behind, spaced⟩
  · rcases List.mem_append.mp member with new | earlier
    · rw [(List.mem_replicate.mp new).2]
      exact ⟨⟨start, stop⟩, fun read => by rw [kind] at read; cases read⟩
    · exact lies.tokens other earlier
  · simpa [List.filter_append, kind] using tiled

theorem Lies.settleIndent (lies : scan.Lies source) (width : Nat) (first : Location)
    (begun : first.Marks source) (lineStart : Bool) :
    (({ scan with lineStart := lineStart } : Scan).settleIndent width first).Lies source := by
  unfold Scan.settleIndent
  split
  · exact lies.layout ⟨.indent, .none, "", ⟨first, scan.place⟩⟩ rfl begun lies.place 1 _ _
  · exact lies.layout _ rfl begun lies.place _ _ _

theorem Lies.startLine (lies : scan.Lies source) (width : Nat) (first : Location)
    (begun : first.Marks source) : (scan.startLine width first).Lies source := by
  unfold Scan.startLine
  dsimp only
  split
  · split
    · exact lies.settleIndent width first begun false
    · exact ⟨lies.ahead, lies.place, lies.groups, lies.tokens, lies.tiled⟩
  · exact lies

theorem groups_after {groups : Groups} {here : Location} (kind : TokenKind)
    (marked : ∀ place, place ∈ groups.parens ∨ place ∈ groups.brackets ∨ place ∈ groups.braces →
      place.Marks source) (marks : here.Marks source) :
    ∀ place, place ∈ (groups.after here kind).parens ∨ place ∈ (groups.after here kind).brackets ∨
      place ∈ (groups.after here kind).braces → place.Marks source := by
  have opened (place : Location) (places : List Location) (member : place ∈ here :: places)
      (earlier : place ∈ places → place.Marks source) : place.Marks source := by
    rcases List.mem_cons.mp member with rfl | before
    · exact marks
    · exact earlier before
  intro place member
  cases kind with
  | leftParen =>
      rcases member with paren | other
      · exact opened place _ paren fun before => marked place (.inl before)
      · exact marked place (.inr other)
  | leftBracket =>
      rcases member with paren | bracket | brace
      · exact marked place (.inl paren)
      · exact opened place _ bracket fun before => marked place (.inr (.inl before))
      · exact marked place (.inr (.inr brace))
  | leftBrace =>
      rcases member with paren | bracket | brace
      · exact marked place (.inl paren)
      · exact marked place (.inr (.inl bracket))
      · exact opened place _ brace fun before => marked place (.inr (.inr before))
  | rightParen => exact marked place (member.imp_left List.mem_of_mem_tail)
  | rightBracket => exact marked place (member.imp_right (Or.imp_left List.mem_of_mem_tail))
  | rightBrace => exact marked place (member.imp_right (Or.imp_right List.mem_of_mem_tail))
  | _ => exact marked place member

theorem reads_lies (reads : scan.Reads next) (lies : scan.Lies source) : next.Lies source := by
  cases reads with
  | nothing => exact lies
  | newline rest ahead =>
      have passed := lies.advance 1 (by
        rw [ahead]
        exact .space '\n' [] rfl .nothing)
      unfold readNewline
      dsimp only
      split
      · exact passed.layout ⟨.newline, .none, "\\n", ⟨scan.place, (scan.advance 1).place⟩⟩ rfl
          lies.place passed.place 1 _ _
      · exact passed
  | token c rest kind payload count reports ahead read positive =>
      obtain ⟨position, tiled, behind, spaced⟩ := lies.tiled
      have stop : (scan.advance count).place.Marks source := lies.sees (.advanced count)
      have offset : (scan.advance count).place.offset = scan.place.offset + (scan.ahead.take count).length :=
        Location.afterAll_offset _ _
      have some : 0 < (scan.ahead.take count).length := by
        rw [ahead, List.length_take, List.length_cons]
        omega
      have text : scan.ahead.take count =
          source.extract scan.place.offset (scan.advance count).place.offset := by
        rw [offset, lies.ahead, extract_append source _ _ count (Nat.le_refl _)]
        simp
      refine ⟨advance_ahead_at scan count lies.ahead, stop, groups_after kind lies.groups lies.place,
        List.forall_mem_cons.mpr ⟨⟨⟨lies.place, stop⟩, fun _ => ⟨?_, ?_⟩⟩, lies.tokens⟩,
        (scan.advance count).place.offset, ?_, Nat.le_refl _, ?_⟩
      · intro empty
        have none : scan.ahead.take count = [] := by
          rw [← String.toList_ofList (l := scan.ahead.take count)]
          exact congrArg String.toList empty
        rw [none] at some
        cases some
      · exact congrArg String.ofList text
      · change Tiled source (List.filter _ (_ :: scan.tokens)) _
        rw [List.filter_cons_of_pos (by exact read)]
        have filled : scan.place.offset < (scan.advance count).place.offset := by omega
        refine .token _ _ position tiled behind filled ?_
        rwa [← lies.ahead]
      · have empty : source.extract (scan.advance count).place.offset (scan.advance count).place.offset = [] := by
          simp
        exact empty ▸ .nothing

theorem round_lies (dialect : Dialect) (ran : scan.round dialect = .ok next) (lies : scan.Lies source) :
    next.Lies source := by
  have spacing := trivia_spacing scan.ahead
  cases opened : (trivia scan.ahead).openComment with
  | some offset =>
      rw [Trivia.stop, opened] at spacing
      rw [round] at ran
      dsimp only at ran
      rw [opened] at ran
      cases ran
      exact reads_lies (openComment_reads dialect scan offset opened).1 (lies.advance offset spacing)
  | none =>
      rw [Trivia.stop, opened] at spacing
      rw [round_closed dialect scan opened] at ran
      have advanced := lies.advance (trivia scan.ahead).length spacing
      refine reads_lies (readToken_reads dialect _ next ran) ?_
      unfold passed
      split
      · exact advanced.startLine _ scan.place lies.place
      · exact advanced

def Reports (source : List Char) (reports : List Diagnostic) : Prop :=
  ∀ report ∈ reports, ∃ span, report.span = some span ∧ span.Marks source

theorem Lies.accounts {reports : List Diagnostic} (lies : scan.Lies source) (earlier : Reports source scan.reports)
    (accounts : scan.Accounts reports) : Reports source reports := by
  intro report member
  rcases accounts report member with before | ⟨span, placed, start, stop⟩
  · exact earlier report before
  · exact ⟨span, placed, lies.sees start, lies.sees stop⟩

theorem rounds_lies (dialect : Dialect) (file : Option String) (source : String) (count : Nat) (last : Scan)
    (ran : (start file source).rounds dialect count = .ok last) :
    last.Lies source.toList ∧ Reports source.toList last.reports := by
  have begun : (start file source).Lies source.toList := by
    refine ⟨rfl, Location.start_marks _ file, ?_, ?_, 0, .nothing, Nat.le_refl _, .nothing⟩
    · rintro place (none | none | none) <;> cases none
    · intro token member
      cases member
  refine rounds_keep dialect (fun scan => scan.Lies source.toList ∧ Reports source.toList scan.reports) ?_ count
    _ last ⟨begun, fun report member => nomatch member⟩ ran
  rintro scan next ⟨lies, reports⟩ _ one
  exact ⟨round_lies dialect one lies, lies.accounts reports (round_accounts one)⟩

theorem reportUnclosed_marked (name : String) (places : List Location) (scan : Scan)
    (marked : ∀ place ∈ places, place.Marks source) (earlier : Reports source scan.reports) :
    Reports source (scan.reportUnclosed name places).reports := by
  rw [reportUnclosed_reports]
  intro report member
  rcases List.mem_append.mp member with new | before
  · obtain ⟨place, found, rfl⟩ := List.mem_map.mp new
    exact ⟨.point place, rfl, marked place found, marked place found⟩
  · exact earlier report before

theorem finish_marked (scan : Scan) (lies : scan.Lies source) (earlier : Reports source scan.reports) :
    Reports source scan.finish.reports := by
  rw [finish_reports]
  refine reportUnclosed_marked _ _ _ (fun place member => lies.groups place (.inr (.inr member))) ?_
  refine reportUnclosed_marked _ _ _ (fun place member => lies.groups place (.inr (.inl member))) ?_
  exact reportUnclosed_marked _ _ _ (fun place member => lies.groups place (.inl member)) earlier

end Steps

end Scan

-- What a stream says about its source: every token and every report stands where its places say, the tokens
-- that were read have the text that stands there, and together with the spacing they make up all of it.
structure Lossless (source : String) (stream : Stream) : Prop where
  tokens : ∀ token ∈ stream.tokens, Sited source.toList token
  reports : ∀ report ∈ stream.reports, ∃ span, report.span = some span ∧ span.Marks source.toList
  tiles : Tiles source.toList 0 (stream.tokens.filter (·.kind.isRead))

theorem ending_point (scan : Scan) (token : Token) (member : token ∈ scan.closing ++ [scan.ending]) :
    token.kind.isRead = false ∧ token.span = .point scan.place := by
  unfold Scan.closing at member
  simp only [List.mem_append, List.mem_singleton, List.mem_replicate] at member
  rcases member with (line | ⟨_, rfl⟩) | rfl
  · split at line
    · cases List.mem_singleton.mp line
      exact ⟨rfl, rfl⟩
    · cases line
  · exact ⟨rfl, rfl⟩
  · exact ⟨rfl, rfl⟩

-- No character of a text is lost between its tokens and none is misplaced.
theorem stream_lossless (tabWidth : Nat) (currencies : List String) (file : Option String) (source : String)
    (stream : Stream) (scanned : scan tabWidth currencies file source = .ok stream) :
    Lossless source stream := by
  obtain ⟨ended, goes, empty, tokens, reports⟩ := scan_ended.mp scanned
  have ran := goes.rounds empty (Nat.le_refl _)
  obtain ⟨lies, earlier⟩ := Scan.rounds_lies _ file source _ ended ran
  rw [List.append_assoc] at tokens
  refine ⟨fun token member => ?_, fun report member => ?_, ?_⟩
  · rw [tokens, List.mem_append, List.mem_reverse] at member
    rcases member with before | last
    · exact lies.tokens token before
    · obtain ⟨layout, point⟩ := ending_point ended token last
      refine ⟨point ▸ ⟨lies.place, lies.place⟩, fun read => ?_⟩
      rw [layout] at read
      cases read
  · rw [reports, List.mem_reverse] at member
    exact Scan.finish_marked ended lies earlier report member
  · obtain ⟨position, tiled, behind, spaced⟩ := lies.tiled
    have last : (ended.closing ++ [ended.ending]).filter (·.kind.isRead) = [] := by
      refine List.filter_eq_nil_iff.mpr fun token member => ?_
      simp [(ending_point ended token member).1]
    have reached : source.toList.length ≤ ended.place.offset :=
      List.drop_eq_nil_iff.mp (lies.ahead.symm.trans empty)
    have whole : source.toList.extract position ended.place.offset = source.toList.drop position := by
      rw [List.extract_eq_take_drop, List.take_of_length_le (by rw [List.length_drop]; omega)]
    rw [tokens, List.filter_append, last, List.filter_reverse]
    refine tiled.tiles ?_
    change Spacing [] (source.toList.drop position)
    rwa [← whole, ← empty]

theorem commented_text_lossless :
    let source := "### a\n## b ###x = 'p\\q' # c\r\n\t1,000.5 EUR\n  2024-02-29 \"z"
    let kinds : List TokenKind := [.identifier, .equal, .string, .newline, .indent, .money, .newline, .dedent,
      .date, .invalid, .newline, .endOfFile]
    ∃ stream, scan 4 [] none source = .ok stream ∧ stream.tokens.map (·.kind) = kinds ∧
      Lossless source stream := by
  intro source kinds
  obtain ⟨stream, scanned, same⟩ := scanned_kinds (scan 4 [] none source) kinds (by decide +kernel)
  exact ⟨stream, scanned, same, stream_lossless 4 [] none source stream scanned⟩

end Fiscal.Token
