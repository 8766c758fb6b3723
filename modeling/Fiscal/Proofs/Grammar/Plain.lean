import Fiscal.Proofs.Grammar.Yields
import Fiscal.Proofs.Machine.Plain
import Fiscal.Proofs.Scope.Binding
import Fiscal.Proofs.Value.Spelled

set_option autoImplicit false

namespace Fiscal.Grammar

open Token (mark numeral)
open Token.Scan (wordToken)

def closing : List TokenKind := [.comma, .rightBracket, .rightBrace, .newline]

def opening : List TokenKind :=
  [.nullKeyword, .trueKeyword, .falseKeyword, .number, .minus, .leftBracket, .leftBrace]

section Operands

variable {inner : Rules} {holds : Expr → Prop} {cursor : Cursor} {token stop : Token} {rest : List Token}

theorem closing_cases {kind : TokenKind} (closes : kind ∈ closing) :
    kind = .comma ∨ kind = .rightBracket ∨ kind = .rightBrace ∨ kind = .newline := by
  simpa [closing] using closes

theorem opening_cases {kind : TokenKind} (opens : kind ∈ opening) :
    kind = .nullKeyword ∨ kind = .trueKeyword ∨ kind = .falseKeyword ∨ kind = .number ∨ kind = .minus ∨
      kind = .leftBracket ∨ kind = .leftBrace := by
  simpa [opening] using opens

theorem postfixes_plain (closes : stop.kind ∈ closing) (first : Yields holds (stop :: rest) (primary inner) cursor) :
    Yields holds (stop :: rest) (postfixes inner) cursor := by
  refine first.bind fun target next proper here => .repeating here (.round_last (.kindHere ?_))
  rw [here.kind]
  rcases closing_cases closes with kind | kind | kind | kind <;> rw [kind] <;> exact .give ⟨rfl, proper⟩ here

theorem binary_plain {least : Nat} (closes : stop.kind ∈ closing)
    (first : Yields holds (stop :: rest) (unary inner) cursor) :
    Yields holds (stop :: rest) (binary inner least) cursor := by
  refine first.bind fun left next proper here => .repeating here (.round_last (.kindHere ?_))
  rw [here.kind]
  rcases closing_cases closes with kind | kind | kind | kind <;> rw [kind] <;> exact .give ⟨rfl, proper⟩ here

theorem expression_plain (closes : stop.kind ∈ closing) (first : Yields holds (stop :: rest) (unary inner) cursor) :
    Yields holds (stop :: rest) (expression inner) cursor := by
  refine (binary_plain closes first).bind fun target next proper here => .get (.accept_other here ?_ ?_)
  · rcases closing_cases closes with kind | kind | kind | kind <;> rw [kind] <;> decide
  · rw [if_neg (by decide)]
    exact .give proper here

theorem unary_plain {tokens : List Token} (here : cursor.At (token :: tokens))
    (plain : UnaryOperator.ofKind? token.kind = none) (closes : stop.kind ∈ closing)
    (first : Yields holds (stop :: rest) (primary inner) cursor) :
    Yields holds (stop :: rest) (unary inner) cursor := by
  refine .get ?_
  dsimp only
  rw [show cursor.current.kind = token.kind from here.kind, plain]
  exact postfixes_plain closes first

theorem literalOf?_here {tokens : List Token} (here : cursor.At (token :: tokens)) :
    literalOf? cursor.current = literalOf? token := by
  rw [← here.current]
  rfl

theorem primary_literal {given : Literal} (here : cursor.At (token :: stop :: rest))
    (kind : token.kind = .nullKeyword ∨ token.kind = .trueKeyword ∨ token.kind = .falseKeyword ∨ token.kind = .number)
    (literal : literalOf? token = some given) :
    Yields (fun expr => ∃ span, expr = Expr.literal span given) (stop :: rest) (primary inner) cursor := by
  have going : token.kind ≠ .endOfFile := by rcases kind with kind | kind | kind | kind <;> rw [kind] <;> decide
  refine .get ?_
  dsimp only
  rw [literalOf?_here here, literal, show cursor.current.kind = token.kind from here.kind]
  have advanced : Yields (fun expr => ∃ span, expr = Expr.literal span given) (stop :: rest)
      (do let _ ← advance; return Expr.literal cursor.current.span given) cursor :=
    (Yields.advance here going).bind fun _ _ _ there => .give ⟨_, rfl⟩ there
  rcases kind with kind | kind | kind | kind <;> rw [kind] <;> exact advanced

theorem primary_list {tokens : List Token} (here : cursor.At (token :: tokens)) (kind : token.kind = .leftBracket)
    (list : Yields holds (stop :: rest) (listLiteral inner) cursor) :
    Yields holds (stop :: rest) (primary inner) cursor := by
  have none : literalOf? token = none := by rw [literalOf?, kind]
  refine .get ?_
  dsimp only
  rw [literalOf?_here here, none, show cursor.current.kind = token.kind from here.kind, kind]
  exact list

theorem primary_object {tokens : List Token} (here : cursor.At (token :: tokens)) (kind : token.kind = .leftBrace)
    (object : Yields holds (stop :: rest) (objectLiteral inner) cursor) :
    Yields holds (stop :: rest) (primary inner) cursor := by
  have none : literalOf? token = none := by rw [literalOf?, kind]
  refine .get ?_
  dsimp only
  rw [literalOf?_here here, none, show cursor.current.kind = token.kind from here.kind, kind]
  exact object

end Operands

namespace Rules

-- The tokens are read as an expression for a value wherever a value may end behind them.
def Gives (rules : Rules) (tokens : List Token) (value : Value) : Prop :=
  ∀ (cursor : Cursor) (stop : Token) (rest : List Token), stop.kind ∈ closing → cursor.At (tokens ++ stop :: rest) →
    Yields (·.Means value) (stop :: rest) rules.expression cursor

def Opens (tokens : List Token) : Prop := ∃ token others, tokens = token :: others ∧ token.kind ∈ opening

end Rules

section Lists

variable {inner : Rules} {cursor : Cursor} {stop : Token} {rest : List Token}

theorem intercalate_cons (sep : Token) (piece : List Token) (pieces : List (List Token)) :
    [sep].intercalate (piece :: pieces) = piece ++ pieces.flatMap fun piece => sep :: piece := by
  induction pieces generalizing piece with
  | nil => simp
  | cons next pieces ih => simp [ih]

theorem opens_inside {kind : TokenKind} (opens : kind ∈ opening) : kind ≠ .newline ∧ kind ≠ .rightBracket := by
  rcases opening_cases opens with rfl | rfl | rfl | rfl | rfl | rfl | rfl <;> decide

theorem items_behind (pieces : List (List Token)) (kind : stop.kind = .rightBracket) :
    ∃ next more, ((pieces.flatMap fun piece => mark .comma "," :: piece) ++ stop :: rest) = next :: more ∧
      (next.kind = .comma ∨ next.kind = .rightBracket) := by
  cases pieces with
  | nil => exact ⟨stop, rest, rfl, .inr kind⟩
  | cons piece pieces => exact ⟨_, _, rfl, .inl rfl⟩

theorem item_yields {piece behind : List Token} {item : Value} {cursor : Cursor} (gives : inner.Gives piece item)
    (next : ∃ next more, behind = next :: more ∧ (next.kind = .comma ∨ next.kind = .rightBracket))
    (here : cursor.At (piece ++ behind)) {α : Type} {good : α → Prop} {tokens : List Token} {later : Expr → Reading α}
    (rest : ∀ expr last, expr.Means item → last.At behind → Yields good tokens (later expr) last) :
    Yields good tokens (do let expr ← inner.expression; skipNewlines; later expr) cursor := by
  obtain ⟨next, more, rfl, kind⟩ := next
  have closes : next.kind ∈ closing := by rcases kind with kind | kind <;> rw [kind] <;> decide
  have line : next.kind ≠ .newline := by rcases kind with kind | kind <;> rw [kind] <;> decide
  exact (gives cursor next more closes here).bind fun expr last means there =>
    .skipNewlines there line (rest expr last means there)

theorem items_yield {pieces : List (List Token)} {items : List Value}
    (each : List.Forall₂ (fun piece item => inner.Gives piece item ∧ Rules.Opens piece) pieces items)
    {exprs : List Expr} {done : List Value} {count : Nat} (kind : stop.kind = .rightBracket)
    (read : List.Forall₂ Expr.Means exprs.reverse done)
    (enough : (pieces.flatMap fun piece => mark .comma "," :: piece).length < count)
    (here : cursor.At ((pieces.flatMap fun piece => mark .comma "," :: piece) ++ stop :: rest)) :
    Yields (fun all => List.Forall₂ Expr.Means all.reverse (done ++ items)) (stop :: rest)
      (repeatStep (nextItem inner) count exprs) cursor := by
  induction each generalizing exprs done count cursor with
  | nil =>
      obtain ⟨count, rfl⟩ := Nat.exists_eq_add_of_lt enough
      refine .round_last (.accept_other here (by rw [kind]; decide) ?_)
      rw [if_neg (by decide)]
      exact .give ⟨rfl, by rwa [List.append_nil]⟩ here
  | @cons piece item pieces items first later ih =>
      obtain ⟨gives, token, others, rfl, opens⟩ := first
      obtain ⟨line, bracket⟩ := opens_inside opens
      rw [List.flatMap_cons, List.cons_append, List.length_cons, List.length_append] at enough
      rw [List.flatMap_cons, List.append_assoc, List.cons_append] at here
      obtain ⟨count, rfl⟩ := Nat.exists_eq_succ_of_ne_zero (show count ≠ 0 by omega)
      have step : Yields (fun result => result.2 = true ∧ List.Forall₂ Expr.Means result.1.reverse (done ++ [item]))
          ((pieces.flatMap fun piece => mark .comma "," :: piece) ++ stop :: rest) (nextItem inner exprs) cursor := by
        refine .accept_here here rfl (by decide) fun after there => ?_
        rw [if_pos rfl]
        refine .skipNewlines there line (.at?_other there bracket ?_)
        rw [if_neg (by decide)]
        refine item_yields gives (items_behind pieces kind) there fun expr last means beyond => ?_
        refine .give ⟨rfl, ?_⟩ beyond
        rw [List.reverse_cons]
        exact List.rel_append read (.cons means .nil)
      refine .round_more (fun all => List.Forall₂ Expr.Means all.reverse (done ++ [item])) step
        fun exprs next collected there => ?_
      have remaining := ih collected (show _ < count by omega) there
      rwa [List.append_assoc] at remaining

theorem list_yields {pieces : List (List Token)} {items : List Value} {cursor : Cursor}
    (each : List.Forall₂ (fun piece item => inner.Gives piece item ∧ Rules.Opens piece) pieces items)
    (closes : stop.kind ∈ closing)
    (here : cursor.At (mark .leftBracket "[" :: ([mark .comma ","].intercalate pieces ++
      mark .rightBracket "]" :: stop :: rest))) :
    Yields (·.Means (.list items)) (stop :: rest) (expression inner) cursor := by
  refine expression_plain closes (unary_plain here rfl closes (primary_list here rfl ?_))
  have begins : ∃ next more, [mark .comma ","].intercalate pieces ++ mark .rightBracket "]" :: stop :: rest =
      next :: more ∧ next.kind ≠ .newline := by
    cases each with
    | nil => exact ⟨_, _, rfl, by decide⟩
    | cons first later =>
        obtain ⟨gives, token, others, rfl, opens⟩ := first
        rw [intercalate_cons]
        exact ⟨token, _, rfl, (opens_inside opens).1⟩
  obtain ⟨next, more, same, line⟩ := begins
  rw [same] at here
  refine (Yields.advance here (by decide)).bind fun first inside _ there => .skipNewlines there line ?_
  rw [← same] at there
  have read : Yields (fun all => List.Forall₂ Expr.Means all.reverse items) (mark .rightBracket "]" :: stop :: rest)
      (itemList inner) inside := by
    cases each with
    | nil =>
        refine .at?_here there rfl ?_
        rw [if_pos rfl]
        exact .give .nil there
    | @cons piece item pieces items first later =>
        obtain ⟨gives, token, others, rfl, opens⟩ := first
        rw [intercalate_cons, List.append_assoc] at there
        refine .at?_other there (opens_inside opens).2 ?_
        rw [if_neg (by decide)]
        refine item_yields gives (items_behind pieces rfl) there fun expr last means beyond => ?_
        have one : List.Forall₂ Expr.Means [expr].reverse [item] := .cons means .nil
        refine .repeating beyond (items_yield later rfl one ?_ beyond)
        simp only [List.length_append, List.length_cons]
        omega
  refine read.bind fun all last means beyond => (Yields.expect beyond rfl (by decide)).bind fun _ after _ final => ?_
  exact .spanFrom fun span => .give (Expr.list_means span means) final

end Lists

section Objects

variable {inner : Rules} {cursor : Cursor} {token next stop : Token} {others rest : List Token}

def SpellsField (inner : Rules) (piece : List Token) (entry : String × Value) : Prop :=
  ∃ tokens, piece = wordToken entry.1 :: mark .colon ":" :: tokens ∧ (wordToken entry.1).kind.isName = true ∧
    inner.Gives tokens entry.2

theorem name_inside {kind : TokenKind} (name : kind.isName = true) : kind ≠ .newline ∧ kind ≠ .rightBrace := by
  constructor <;> rintro rfl <;> cases name

theorem keyName_yields {expected : String} (here : cursor.At (token :: next :: others))
    (name : token.kind.isName = true) :
    Yields (·.1 = token.lexeme) (next :: others) (keyName expected) cursor := by
  have kind : cursor.current.kind = token.kind := here.kind
  have going : token.kind ≠ .endOfFile := by
    intro ended
    rw [ended] at name
    cases name
  refine .get ?_
  dsimp only
  split
  · rename_i string _
    rw [← kind, string] at name
    cases name
  · rename_i string _
    rw [← kind, string] at name
    cases name
  · exact (Yields.expectName here name going).bind fun _ _ same there => .give same there

theorem wordToken_lexeme (word : String) : (wordToken word).lexeme = word := by
  unfold Token.Scan.wordToken
  split <;> rfl

theorem put_new {fields : Named Expr} {name : String} (fresh : name ∉ Named.names fields) (expr : Expr) :
    Named.put fields name expr = fields ++ [(name, expr)] := by
  induction fields with
  | nil => rfl
  | cons field fields ih =>
      have apart : field.1 ≠ name := fun same => fresh (same ▸ List.mem_cons_self)
      rw [Named.put, if_neg apart, ih fun member => fresh (List.mem_cons_of_mem _ member)]
      rfl

theorem means_names {fields : Named Expr} {done : Named Value} (read : List.Forall₂ Expr.MeansField fields done) :
    Named.names fields = Named.names done := by
  induction read with
  | nil => rfl
  | cons first later ih => exact congrArg₂ List.cons first.1 ih

def afterField (fields : Named Expr) : Reading (Named Expr × Bool) := do
  if ← accept .comma then
    skipNewlines
    return (fields, !(← at? .rightBrace))
  else return (fields, false)

theorem field_yields {piece : List Token} {entry : String × Value} {fields : Named Expr} {done : Named Value}
    (spells : SpellsField inner piece entry) (read : List.Forall₂ Expr.MeansField fields done)
    (fresh : entry.1 ∉ Named.names done) (kind : next.kind = .comma ∨ next.kind = .rightBrace)
    (here : cursor.At (piece ++ next :: others)) {good : Named Expr × Bool → Prop} {tokens : List Token}
    (rest : ∀ all last, List.Forall₂ Expr.MeansField all (done ++ [entry]) → last.At (next :: others) →
      Yields good tokens (afterField all) last) :
    Yields good tokens (nextField inner fields) cursor := by
  obtain ⟨value, rfl, name, gives⟩ := spells
  have closes : next.kind ∈ closing := by rcases kind with kind | kind <;> rw [kind] <;> decide
  have line : next.kind ≠ .newline := by rcases kind with kind | kind <;> rw [kind] <;> decide
  have value : ∃ first more, value ++ next :: others = first :: more := by
    cases value with
    | nil => exact ⟨_, _, rfl⟩
    | cons => exact ⟨_, _, rfl⟩
  obtain ⟨first, more, starts⟩ := value
  rw [List.cons_append, List.cons_append, starts] at here
  refine .skipNewlines here (name_inside name).1 ((keyName_yields here name).bind fun key behind same colon => ?_)
  obtain ⟨key, token⟩ := key
  obtain rfl : key = entry.1 := same.trans (wordToken_lexeme _)
  refine (Yields.expect colon rfl (by decide)).bind fun _ after _ there => ?_
  rw [← starts] at there
  refine (gives after next others closes there).bind fun expr last means beyond => .skipNewlines beyond line ?_
  refine rest _ last ?_ beyond
  rw [put_new (means_names read ▸ fresh)]
  exact List.rel_append read (.cons ⟨rfl, means⟩ .nil)

theorem fields_yield {pieces : List (List Token)} {entries : Named Value}
    (each : List.Forall₂ (SpellsField inner) pieces entries) (some : pieces ≠ []) {fields : Named Expr}
    {done : Named Value} {count : Nat} (kind : stop.kind = .rightBrace)
    (read : List.Forall₂ Expr.MeansField fields done) (distinct : (Named.names (done ++ entries)).Nodup)
    (enough : ([mark .comma ","].intercalate pieces).length < count)
    (here : cursor.At ([mark .comma ","].intercalate pieces ++ stop :: rest)) :
    Yields (fun all => List.Forall₂ Expr.MeansField all (done ++ entries)) (stop :: rest)
      (repeatStep (nextField inner) count fields) cursor := by
  induction each generalizing fields done count cursor with
  | nil => exact absurd rfl some
  | @cons piece entry pieces entries first later ih =>
      have fresh : entry.1 ∉ Named.names done := by
        rw [Named.names, List.map_append] at distinct
        exact fun member => (List.nodup_append.mp distinct).2.2 entry.1 member entry.1 List.mem_cons_self rfl
      obtain ⟨count, rfl⟩ := Nat.exists_eq_succ_of_ne_zero (show count ≠ 0 by omega)
      cases later with
      | nil =>
          refine .round_last (field_yields first read fresh (.inr kind) (by simpa using here)
            fun all last means there => ?_)
          refine .accept_other there (by rw [kind]; decide) ?_
          rw [if_neg (by decide)]
          exact .give ⟨rfl, means⟩ there
      | @cons second other pieces entries one more =>
          have onward : ∃ next more, [mark .comma ","].intercalate (second :: pieces) ++ stop :: rest = next :: more ∧
              next.kind ≠ .newline ∧ next.kind ≠ .rightBrace := by
            obtain ⟨value, rfl, name, gives⟩ := one
            rw [intercalate_cons]
            exact ⟨_, _, rfl, name_inside name⟩
          obtain ⟨next, beyond, same, line, brace⟩ := onward
          rw [List.intercalate_cons_cons] at here enough
          simp only [List.length_append, List.length_cons] at enough
          have step : Yields (fun result => result.2 = true ∧ List.Forall₂ Expr.MeansField result.1 (done ++ [entry]))
              ([mark .comma ","].intercalate (second :: pieces) ++ stop :: rest) (nextField inner fields) cursor := by
            refine field_yields first read fresh (.inl rfl) (by simpa using here) fun all last means there => ?_
            rw [same] at there ⊢
            refine .accept_here there rfl (by decide) fun after inside => ?_
            rw [if_pos rfl]
            refine .skipNewlines inside line (.at?_other inside brace ?_)
            exact .give ⟨rfl, means⟩ inside
          refine .round_more (fun all => List.Forall₂ Expr.MeansField all (done ++ [entry])) step
            fun all after means there => ?_
          have remaining := ih (List.cons_ne_nil _ _) means (by simpa using distinct) (show _ < count by omega) there
          rwa [List.append_assoc] at remaining

theorem object_yields {pieces : List (List Token)} {entries : Named Value}
    (each : List.Forall₂ (SpellsField inner) pieces entries) (distinct : (Named.names entries).Nodup)
    (closes : stop.kind ∈ closing)
    (here : cursor.At (mark .leftBrace "\x7b" :: ([mark .comma ","].intercalate pieces ++
      mark .rightBrace "\x7d" :: stop :: rest))) :
    Yields (·.Means (.object entries)) (stop :: rest) (expression inner) cursor := by
  refine expression_plain closes (unary_plain here rfl closes (primary_object here rfl ?_))
  have begins : ∃ next more, [mark .comma ","].intercalate pieces ++ mark .rightBrace "\x7d" :: stop :: rest =
      next :: more ∧ next.kind ≠ .newline ∧ (pieces ≠ [] → next.kind ≠ .rightBrace) := by
    cases each with
    | nil => exact ⟨_, _, rfl, by decide, fun some => absurd rfl some⟩
    | cons first later =>
        obtain ⟨value, rfl, name, gives⟩ := first
        rw [intercalate_cons]
        exact ⟨_, _, rfl, (name_inside name).1, fun _ => (name_inside name).2⟩
  obtain ⟨next, more, same, line, brace⟩ := begins
  rw [same] at here
  refine (Yields.advance here (by decide)).bind fun first inside _ there => .skipNewlines there line ?_
  have read : Yields (fun all => List.Forall₂ Expr.MeansField all entries) (mark .rightBrace "\x7d" :: stop :: rest)
      (fieldList inner) inside := by
    by_cases empty : pieces = []
    · subst empty
      cases each
      rw [← same] at there
      refine .at?_here there rfl ?_
      rw [if_pos rfl]
      exact .give .nil there
    · refine .at?_other there (brace empty) ?_
      rw [if_neg (by decide)]
      rw [← same] at there
      refine .repeating there (fields_yield each empty rfl .nil distinct ?_ there)
      simp only [List.length_append, List.length_cons]
      omega
  refine read.bind fun all last means beyond => (Yields.expect beyond rfl (by decide)).bind fun _ after _ final => ?_
  exact .spanFrom fun span => .give (Expr.object_means span means distinct) final

end Objects

section Values

variable {inner : Rules} {depth : Nat}

theorem literal_gives {token : Token} {given : Literal} {value : Value}
    (kind : token.kind = .nullKeyword ∨ token.kind = .trueKeyword ∨ token.kind = .falseKeyword ∨ token.kind = .number)
    (literal : literalOf? token = some given)
    (same : ∀ ledgers, value.same ledgers (Machine.literal given) = true) : inner.deepen.Gives [token] value := by
  intro cursor stop rest closes here
  have plain : UnaryOperator.ofKind? token.kind = none := by
    rcases kind with kind | kind | kind | kind <;> rw [kind] <;> rfl
  refine (expression_plain closes (unary_plain here plain closes (primary_literal here kind literal))).imp ?_
  rintro expr ⟨span, rfl⟩
  exact Expr.literal_means span same

theorem minus_gives {x y : Float} (lexeme : String) (equal : (x == -y) = true) :
    inner.deepen.deepen.Gives [mark .minus "-", numeral y lexeme] (.number x) := by
  intro cursor stop rest closes here
  refine expression_plain closes (.get ?_)
  dsimp only
  rw [show cursor.current.kind = .minus from here.kind]
  refine (Yields.advance here (by decide)).bind fun _ next _ there => ?_
  have operand : Yields (fun expr => ∃ span, expr = Expr.literal span (.number y)) (stop :: rest) (unary inner) next :=
    unary_plain there rfl closes (primary_literal there (.inr (.inr (.inr rfl))) rfl)
  refine operand.bind fun expr last literal beyond => ?_
  obtain ⟨span, rfl⟩ := literal
  exact .give (Expr.negate_means _ span fun _ => equal) beyond

theorem number_gives {x : Float} (finite : Number.isFinite x = true)
    (enough : (Token.numberTokens x).length < depth) :
    (Rules.ofDepth depth).Gives (Token.numberTokens x) (.number x) := by
  have spelled := Token.number_spelled finite
  generalize (Number.display x).toList = text, Token.numberTokens x = tokens at spelled enough ⊢
  cases spelled with
  | plain text d written equal =>
      obtain ⟨depth, rfl⟩ := Nat.exists_eq_succ_of_ne_zero (show depth ≠ 0 by omega)
      exact literal_gives (.inr (.inr (.inr rfl))) rfl fun _ => equal
  | minus text d written equal =>
      obtain ⟨depth, rfl⟩ := Nat.exists_eq_add_of_le' (show 2 ≤ depth from Nat.le_of_lt enough)
      exact minus_gives _ equal

theorem piece_length (sep : Token) {piece : List Token} {pieces : List (List Token)} (member : piece ∈ pieces) :
    piece.length ≤ ([sep].intercalate pieces).length := by
  obtain ⟨first, others, rfl⟩ := List.exists_cons_of_ne_nil (List.ne_nil_of_mem member)
  rw [intercalate_cons, List.length_append]
  rcases List.mem_cons.mp member with rfl | later
  · exact Nat.le_add_right _ _
  · have among : sep :: piece ∈ others.map fun piece => sep :: piece := List.mem_map_of_mem later
    have within := (List.sublist_flatten_of_mem among).length_le
    rw [← List.flatMap_def, List.length_cons] at within
    omega

theorem number_opens {x : Float} (finite : Number.isFinite x = true) : Rules.Opens (Token.numberTokens x) := by
  have spelled := Token.number_spelled finite
  generalize (Number.display x).toList = text, Token.numberTokens x = tokens at spelled ⊢
  cases spelled with
  | plain => exact ⟨_, _, rfl, show TokenKind.number ∈ opening by decide⟩
  | minus => exact ⟨_, _, rfl, by decide⟩

theorem wordToken_keyword {word : String} {kind : TokenKind} (found : TokenKind.ofWord? word = some kind) :
    wordToken word = Token.keyword kind word := by
  rw [Token.Scan.wordToken, found]

theorem null_token : wordToken "null" = Token.keyword .nullKeyword "null" := wordToken_keyword (by decide)

theorem bool_token (value : Bool) : wordToken (if value then "true" else "false") =
    Token.keyword (if value then .trueKeyword else .falseKeyword) (if value then "true" else "false") := by
  cases value with
  | false => exact wordToken_keyword (by decide)
  | true => exact wordToken_keyword (by decide)

end Values

end Fiscal.Grammar

namespace Fiscal.Value

open Grammar (Rules)

variable {value : Value}

theorem Plain.opens (plain : value.Plain) : Rules.Opens value.spelled := by
  cases plain with
  | null =>
      rw [spelled, Grammar.null_token]
      exact ⟨_, _, rfl, by decide⟩
  | bool value =>
      rw [spelled, Grammar.bool_token]
      exact ⟨_, _, rfl, by cases value <;> decide⟩
  | number value finite =>
      rw [spelled]
      exact Grammar.number_opens finite
  | list items each =>
      rw [spelled]
      exact ⟨_, _, rfl, by decide⟩
  | object fields distinct named each =>
      rw [spelled]
      exact ⟨_, _, rfl, by decide⟩

theorem items_spelled {depth : Nat} {items : List Value} (each : ∀ item ∈ items, Plain item)
    (gives : ∀ item ∈ items, item.spelled.length < depth → (Rules.ofDepth depth).Gives item.spelled item)
    (enough : ∀ piece ∈ spelledAll items, piece.length < depth) :
    List.Forall₂ (fun piece item => (Rules.ofDepth depth).Gives piece item ∧ Rules.Opens piece) (spelledAll items)
      items := by
  induction items with
  | nil => exact .nil
  | cons item items ih =>
      obtain ⟨plain, others⟩ := List.forall_mem_cons.mp each
      obtain ⟨first, later⟩ := List.forall_mem_cons.mp gives
      rw [spelledAll] at enough ⊢
      obtain ⟨short, rest⟩ := List.forall_mem_cons.mp enough
      exact .cons ⟨first short, plain.opens⟩ (ih others later rest)

theorem fields_spelled {depth : Nat} {fields : Named Value} (named : ∀ field ∈ fields, LexesAsName field.1)
    (gives : ∀ field ∈ fields, field.2.spelled.length < depth → (Rules.ofDepth depth).Gives field.2.spelled field.2)
    (enough : ∀ piece ∈ spelledFields fields, piece.length < depth) :
    List.Forall₂ (Grammar.SpellsField (Rules.ofDepth depth)) (spelledFields fields) fields := by
  induction fields with
  | nil => exact .nil
  | cons field fields ih =>
      obtain ⟨key, value⟩ := field
      obtain ⟨name, names⟩ := List.forall_mem_cons.mp named
      obtain ⟨first, later⟩ := List.forall_mem_cons.mp gives
      rw [spelledFields] at enough ⊢
      obtain ⟨short, rest⟩ := List.forall_mem_cons.mp enough
      have within : value.spelled.length < depth := by
        rw [List.length_cons, List.length_cons] at short
        omega
      exact .cons ⟨_, rfl, name.word.2, first within⟩ (ih names later rest)

theorem Plain.gives (plain : value.Plain) (depth : Nat) (enough : value.spelled.length < depth) :
    (Rules.ofDepth depth).Gives value.spelled value := by
  induction plain generalizing depth with
  | null =>
      obtain ⟨depth, rfl⟩ := Nat.exists_eq_add_of_lt enough
      rw [spelled, Grammar.null_token]
      exact Grammar.literal_gives (.inl rfl) rfl fun _ => rfl
  | bool value =>
      obtain ⟨depth, rfl⟩ := Nat.exists_eq_add_of_lt enough
      rw [spelled, Grammar.bool_token]
      cases value with
      | false => exact Grammar.literal_gives (.inr (.inr (.inl rfl))) rfl fun _ => rfl
      | true => exact Grammar.literal_gives (.inr (.inl rfl)) rfl fun _ => rfl
  | number value finite =>
      rw [spelled] at enough ⊢
      exact Grammar.number_gives finite enough
  | list items each ih =>
      rw [spelled] at enough ⊢
      simp only [List.length_cons, List.length_append, List.length_nil] at enough
      obtain ⟨depth, rfl⟩ := Nat.exists_eq_succ_of_ne_zero (show depth ≠ 0 by omega)
      intro cursor stop rest closes here
      refine Grammar.list_yields
        (items_spelled each (fun item member => ih item member depth) fun piece member => ?_) closes
        (by simpa using here)
      have within := Grammar.piece_length (Token.mark .comma ",") member
      omega
  | object fields distinct named each ih =>
      rw [spelled] at enough ⊢
      simp only [List.length_cons, List.length_append, List.length_nil] at enough
      obtain ⟨depth, rfl⟩ := Nat.exists_eq_succ_of_ne_zero (show depth ≠ 0 by omega)
      intro cursor stop rest closes here
      refine Grammar.object_yields
        (fields_spelled named (fun field member => ih field member depth) fun piece member => ?_) distinct closes
        (by simpa using here)
      have within := Grammar.piece_length (Token.mark .comma ",") member
      omega

end Fiscal.Value
