import Fiscal.Proofs.Token.Stream

set_option autoImplicit false

namespace Fiscal.Token

open Source

inductive Bracket where
  | parenthesis
  | square
  | brace
  deriving DecidableEq

namespace Bracket

def opening : Bracket → TokenKind
  | parenthesis => .leftParen
  | square => .leftBracket
  | brace => .leftBrace

def closing : Bracket → TokenKind
  | parenthesis => .rightParen
  | square => .rightBracket
  | brace => .rightBrace

end Bracket

-- Every bracket is closed by one of its own sort, and those inside it before it is.
inductive Nested : List TokenKind → Prop where
  | nil : Nested []
  | plain (kind : TokenKind) (rest : List TokenKind) (plain : kind.isBracket = false) (later : Nested rest) :
      Nested (kind :: rest)
  | group (bracket : Bracket) (inside rest : List TokenKind) (within : Nested inside) (later : Nested rest) :
      Nested (bracket.opening :: inside ++ bracket.closing :: rest)

def entering (bracket : Bracket) : Option (List Bracket) → Option (List Bracket)
  | some (first :: others) => if first = bracket then some others else none
  | _ => none

def leaving (bracket : Bracket) (unopened : Option (List Bracket)) : Option (List Bracket) :=
  unopened.map (bracket :: ·)

def bracketChange : TokenKind → Option (List Bracket) → Option (List Bracket)
  | .leftParen => entering .parenthesis
  | .rightParen => leaving .parenthesis
  | .leftBracket => entering .square
  | .rightBracket => leaving .square
  | .leftBrace => entering .brace
  | .rightBrace => leaving .brace
  | _ => id

def unopened (kinds : List TokenKind) : Option (List Bracket) := kinds.foldr bracketChange (some [])

theorem entering_leaving (bracket : Bracket) (unopened : Option (List Bracket)) :
    entering bracket (leaving bracket unopened) = unopened := by
  cases unopened with
  | none => rfl
  | some brackets => exact if_pos rfl

theorem bracketChange_plain {kind : TokenKind} (plain : kind.isBracket = false) : bracketChange kind = id := by
  cases kind <;> first | rfl | cases plain

theorem bracket_cases (kind : TokenKind) :
    kind.isBracket = false ∨ ∃ bracket : Bracket, kind = bracket.opening ∨ kind = bracket.closing := by
  cases kind with
  | leftParen => exact .inr ⟨.parenthesis, .inl rfl⟩
  | rightParen => exact .inr ⟨.parenthesis, .inr rfl⟩
  | leftBracket => exact .inr ⟨.square, .inl rfl⟩
  | rightBracket => exact .inr ⟨.square, .inr rfl⟩
  | leftBrace => exact .inr ⟨.brace, .inl rfl⟩
  | rightBrace => exact .inr ⟨.brace, .inr rfl⟩
  | _ => exact .inl rfl

inductive Closes : List Bracket → List TokenKind → Prop where
  | nested (kinds : List TokenKind) (nested : Nested kinds) : Closes [] kinds
  | closing (bracket : Bracket) (brackets : List Bracket) (inside rest : List TokenKind)
      (within : Nested inside) (later : Closes brackets rest) :
      Closes (bracket :: brackets) (inside ++ bracket.closing :: rest)

namespace Closes

variable {brackets : List Bracket} {kinds : List TokenKind}

theorem plain (kind : TokenKind) (plain : kind.isBracket = false) (closes : Closes brackets kinds) :
    Closes brackets (kind :: kinds) := by
  cases closes with
  | nested _ nested => exact .nested _ (.plain kind kinds plain nested)
  | closing bracket brackets inside rest within later =>
      exact .closing bracket brackets (kind :: inside) rest (.plain kind inside plain within) later

theorem opening (bracket : Bracket) (closes : Closes (bracket :: brackets) kinds) :
    Closes brackets (bracket.opening :: kinds) := by
  cases closes with
  | closing _ _ inside rest within later =>
      cases later with
      | nested _ nested => exact .nested _ (.group bracket inside rest within nested)
      | closing next brackets between others amid later =>
          have group : Nested (bracket.opening :: inside ++ bracket.closing :: between) :=
            .group bracket inside between within amid
          have all := Closes.closing next brackets _ others group later
          simpa using all

end Closes

theorem closes_of_unopened {kinds : List TokenKind} {brackets : List Bracket}
    (found : unopened kinds = some brackets) : Closes brackets kinds := by
  induction kinds generalizing brackets with
  | nil =>
      cases found
      exact .nested [] .nil
  | cons kind rest ih =>
      change bracketChange kind (unopened rest) = some brackets at found
      rcases bracket_cases kind with plain | ⟨bracket, rfl | rfl⟩
      · rw [bracketChange_plain plain] at found
        exact (ih found).plain kind plain
      · have entered : entering bracket (unopened rest) = some brackets := by
          cases bracket <;> exact found
        cases behind : unopened rest with
        | none =>
            rw [behind] at entered
            cases entered
        | some stack =>
            rw [behind] at entered
            cases stack with
            | nil => cases entered
            | cons first others =>
                change (if first = bracket then some others else none) = some brackets at entered
                split at entered
                · rename_i same
                  cases entered
                  exact (ih (same ▸ behind)).opening bracket
                · cases entered
      · have left : leaving bracket (unopened rest) = some brackets := by
          cases bracket <;> exact found
        obtain ⟨others, behind, rfl⟩ := Option.map_eq_some_iff.mp left
        exact .closing bracket others [] rest .nil (ih behind)

theorem nested_of_unopened {kinds : List TokenKind} (none : unopened kinds = some []) : Nested kinds := by
  cases closes_of_unopened none with
  | nested _ nested => exact nested

namespace Groups

def stack (groups : Groups) : Bracket → List Location
  | .parenthesis => groups.parens
  | .square => groups.brackets
  | .brace => groups.braces

theorem after_opening (groups : Groups) (place : Location) (bracket : Bracket) :
    (groups.after place bracket.opening).stack bracket = place :: groups.stack bracket := by
  cases bracket <;> rfl

theorem after_closing (groups : Groups) (first last : Location) (bracket : Bracket) :
    (groups.after first bracket.opening).after last bracket.closing = groups := by
  cases bracket <;> rfl

end Groups

def groupsAfter (groups : Groups) (tokens : List Token) : Groups :=
  tokens.foldl (fun groups token => groups.after token.span.start token.kind) groups

theorem groupsAfter_append (groups : Groups) (before after : List Token) :
    groupsAfter groups (before ++ after) = groupsAfter (groupsAfter groups before) after :=
  List.foldl_append

def Opened (groups : Groups) : List Token → Prop
  | [] => True
  | token :: rest =>
      (∀ bracket : Bracket, token.kind = bracket.closing → groups.stack bracket ≠ []) ∧
        Opened (groups.after token.span.start token.kind) rest

theorem opened_append (groups : Groups) (before after : List Token) :
    Opened groups (before ++ after) ↔ Opened groups before ∧ Opened (groupsAfter groups before) after := by
  induction before generalizing groups with
  | nil => exact ⟨fun opened => ⟨trivial, opened⟩, fun opened => opened.2⟩
  | cons token rest ih =>
      rw [List.cons_append, Opened, Opened, ih, and_assoc]
      rfl

-- Over nested tokens the counts of open brackets stay in step with the nesting.
theorem nested_opened {kinds : List TokenKind} (nested : Nested kinds) (groups : Groups) (tokens : List Token)
    (same : tokens.map (·.kind) = kinds) : Opened groups tokens ∧ groupsAfter groups tokens = groups := by
  induction nested generalizing groups tokens with
  | nil =>
      cases List.map_eq_nil_iff.mp same
      exact ⟨trivial, rfl⟩
  | plain kind rest plain _ ih =>
      obtain ⟨token, others, rfl, rfl, behind⟩ := List.map_eq_cons_iff.mp same
      have still := Groups.after_other groups token.span.start token.kind plain
      obtain ⟨opened, back⟩ := ih groups others behind
      refine ⟨⟨fun bracket closes => ?_, by rwa [still]⟩, ?_⟩
      · rw [closes] at plain
        cases bracket <;> cases plain
      · rw [groupsAfter, List.foldl_cons, still]
        exact back
  | group bracket inside rest _ _ within later =>
      obtain ⟨first, others, rfl, opens, behind⟩ := List.map_eq_cons_iff.mp same
      obtain ⟨amid, left, rfl, inner, behind⟩ := List.map_eq_append_iff.mp behind
      obtain ⟨last, more, rfl, closes, outer⟩ := List.map_eq_cons_iff.mp behind
      obtain ⟨opened, back⟩ := within (groups.after first.span.start first.kind) amid inner
      obtain ⟨openedLater, backLater⟩ := later groups more outer
      have shut : (groups.after first.span.start first.kind).after last.span.start last.kind = groups := by
        rw [opens, closes, Groups.after_closing]
      constructor
      · refine ⟨fun other found => ?_, (opened_append _ _ _).mpr ⟨opened, fun other found => ?_, ?_⟩⟩
        · rw [opens] at found
          cases bracket <;> cases other <;> cases found
        · have one : other = bracket := by
            rw [closes] at found
            cases bracket <;> cases other <;> first | rfl | cases found
          rw [back, one, opens, Groups.after_opening]
          exact List.cons_ne_nil _ _
        · rwa [back, shut]
      · change groupsAfter (groups.after first.span.start first.kind) (amid ++ last :: more) = groups
        rw [groupsAfter_append, back]
        change groupsAfter ((groups.after first.span.start first.kind).after last.span.start last.kind) more = groups
        rwa [shut]

theorem nested_leaves_none {tokens : List Token} (nested : Nested (tokens.map (·.kind))) :
    openGroups tokens = Groups.none :=
  (nested_opened nested Groups.none tokens rfl).2

theorem nested_finds_open {tokens before after : List Token} {token : Token}
    (nested : Nested (tokens.map (·.kind))) (split : tokens = before ++ token :: after) (bracket : Bracket)
    (closes : token.kind = bracket.closing) : (openGroups before).stack bracket ≠ [] := by
  have opened := (nested_opened nested Groups.none tokens rfl).1
  rw [split, opened_append] at opened
  exact opened.2.1 bracket closes

end Fiscal.Token
