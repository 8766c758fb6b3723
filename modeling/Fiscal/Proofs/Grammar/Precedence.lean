import Fiscal.Proofs.Grammar.Depth
import Fiscal.Proofs.Grammar.ParallelExpression

set_option autoImplicit false

namespace Fiscal

namespace BinaryOperator

def leftPrecedence : BinaryOperator → Nat
  | power => 8
  | op => op.precedence

theorem precedence_pos (op : BinaryOperator) : 0 < op.precedence := by cases op <;> decide

theorem precedence_le_left (op : BinaryOperator) : op.precedence ≤ op.leftPrecedence := by
  cases op <;> decide

theorem precedence_le_right (op : BinaryOperator) : op.precedence ≤ op.rightPrecedence := by
  cases op <;> decide

theorem left_iff (op earlier : BinaryOperator) :
    op.leftPrecedence ≤ earlier.precedence ↔ op.precedence < earlier.rightPrecedence := by
  cases op <;> cases earlier <;> decide

end BinaryOperator

namespace Grammar

-- Operands joined by operators. An operand in parentheses is an operand, whatever is inside.
inductive Operation where
  | operand (expr : Expr)
  | join (left : Operation) (op : BinaryOperator) (right : Operation)

namespace Operation

def expr : Operation → Expr
  | operand expr => expr
  | join left op right => .binary ⟨left.expr.span.start, right.expr.span.stop⟩ left.expr op right.expr

def root? : Operation → Option BinaryOperator
  | operand _ => none
  | join _ op _ => some op

def first : Operation → Expr
  | operand expr => expr
  | join left _ _ => left.first

def rest : Operation → List (BinaryOperator × Expr)
  | operand _ => []
  | join left op right => left.rest ++ (op, right.first) :: right.rest

-- An operator binds at least as tightly as the one above it, and tighter on the right; with a power above,
-- tighter on the left.
def Ranked : Operation → Prop
  | operand _ => True
  | join left op right =>
      left.Ranked ∧ right.Ranked ∧
        (∀ child ∈ left.root?,
          if op = .power then op.precedence < child.precedence else op.precedence ≤ child.precedence) ∧
        ∀ child ∈ right.root?,
          if op = .power then op.precedence ≤ child.precedence else op.precedence < child.precedence

instance decidableRanked : (operation : Operation) → Decidable operation.Ranked
  | operand _ => isTrue trivial
  | join left _ right =>
      have := decidableRanked left
      have := decidableRanked right
      inferInstanceAs (Decidable (_ ∧ _ ∧ _ ∧ _))

def Least (least : Nat) (operation : Operation) : Prop :=
  ∀ part ∈ operation.rest, least ≤ part.1.precedence

theorem fits_left (op child : BinaryOperator) :
    (if op = .power then op.precedence < child.precedence else op.precedence ≤ child.precedence) ↔
      op.leftPrecedence ≤ child.precedence := by
  cases op <;> exact Iff.rfl

theorem fits_right (op child : BinaryOperator) :
    (if op = .power then op.precedence ≤ child.precedence else op.precedence < child.precedence) ↔
      op.rightPrecedence ≤ child.precedence := by
  cases op <;> exact Iff.rfl

variable {operation left right : Operation} {op : BinaryOperator} {bound : Nat}

theorem join_ranked : (join left op right).Ranked ↔
    left.Ranked ∧ right.Ranked ∧ (∀ child ∈ left.root?, op.leftPrecedence ≤ child.precedence) ∧
      ∀ child ∈ right.root?, op.rightPrecedence ≤ child.precedence := by
  simp only [Ranked, fits_left, fits_right]

theorem root_in_rest (found : op ∈ operation.root?) : ∃ operand, (op, operand) ∈ operation.rest := by
  cases operation with
  | operand => cases found
  | join left root right =>
      cases found
      exact ⟨right.first, by simp [rest]⟩

theorem Least.root (all : operation.Least bound) : ∀ child ∈ operation.root?, bound ≤ child.precedence := by
  intro child found
  obtain ⟨operand, member⟩ := root_in_rest found
  exact all _ member

theorem Least.join (before : left.Least bound) (here : bound ≤ op.precedence) (after : right.Least bound) :
    (Operation.join left op right).Least bound := by
  intro part member
  rcases List.mem_append.mp member with earlier | later
  · exact before part earlier
  · rcases List.mem_cons.mp later with rfl | later
    · exact here
    · exact after part later

theorem Least.mono {most : Nat} (all : operation.Least most) (le : bound ≤ most) : operation.Least bound :=
  fun part member => Nat.le_trans le (all part member)

theorem Ranked.least (ranked : operation.Ranked) (root : ∀ child ∈ operation.root?, bound ≤ child.precedence) :
    operation.Least bound := by
  induction operation generalizing bound with
  | operand => exact nofun
  | join left op right leftLeast rightLeast =>
      obtain ⟨leftRanked, rightRanked, fitsLeft, fitsRight⟩ := join_ranked.mp ranked
      have here : bound ≤ op.precedence := root op rfl
      have before := leftLeast leftRanked fitsLeft
      have after := rightLeast rightRanked fitsRight
      exact (before.mono (Nat.le_trans here op.precedence_le_left)).join here
        (after.mono (Nat.le_trans here op.precedence_le_right))

theorem split_cases {α : Type} {before later : List α} {item : α} {beforeOther laterOther : List α} {other : α}
    (same : before ++ item :: later = beforeOther ++ other :: laterOther) :
    before = beforeOther ∧ item = other ∧ later = laterOther ∨
      item ∈ beforeOther ∧ other ∈ later ∨ other ∈ before ∧ item ∈ laterOther := by
  rcases List.append_eq_append_iff.mp same with ⟨between, front, back⟩ | ⟨between, front, back⟩
  · rcases List.cons_eq_append_iff.mp back with ⟨rfl, both⟩ | ⟨others, rfl, tail⟩
    · obtain ⟨rfl, rfl⟩ := List.cons.inj both
      exact .inl ⟨by simpa using front.symm, rfl, rfl⟩
    · exact .inr (.inl ⟨by simp [front], by simp [tail]⟩)
  · rcases List.cons_eq_append_iff.mp back with ⟨rfl, both⟩ | ⟨others, rfl, tail⟩
    · obtain ⟨rfl, rfl⟩ := List.cons.inj both
      exact .inl ⟨by simpa using front, rfl, rfl⟩
    · exact .inr (.inr ⟨by simp [front], by simp [tail]⟩)

-- An operator in the left operand of another and the other in its right operand would each stand below.
theorem Least.apart {one two : BinaryOperator} {operand operandOther : Expr}
    (before : left.Least one.leftPrecedence) (after : right.Least two.rightPrecedence)
    (inLeft : (two, operand) ∈ left.rest) (inRight : (one, operandOther) ∈ right.rest) : False := by
  have below : one.leftPrecedence ≤ two.precedence := before _ inLeft
  have above : two.rightPrecedence ≤ one.precedence := after _ inRight
  exact Nat.not_le_of_lt ((one.left_iff two).mp below) above

theorem Ranked.unique {other : Operation} (ranked : operation.Ranked) (rankedOther : other.Ranked)
    (first : operation.first = other.first) (rest : operation.rest = other.rest) : operation = other := by
  induction operation generalizing other with
  | operand expr =>
      cases other with
      | operand => exact congrArg operand first
      | join left op right => simp [Operation.rest] at rest
  | join left op right leftUnique rightUnique =>
      cases other with
      | operand => simp [Operation.rest] at rest
      | join leftOther opOther rightOther =>
          obtain ⟨one, two, fitsLeft, fitsRight⟩ := join_ranked.mp ranked
          obtain ⟨oneOther, twoOther, fitsLeftOther, fitsRightOther⟩ := join_ranked.mp rankedOther
          rcases split_cases rest with ⟨before, here, after⟩ | ⟨inLeft, inRight⟩ | ⟨inLeft, inRight⟩
          · obtain ⟨rfl, operand⟩ := Prod.mk.inj here
            rw [leftUnique one oneOther first before, rightUnique two twoOther operand after]
          · exact ((oneOther.least fitsLeftOther).apart (two.least fitsRight) inLeft inRight).elim
          · exact ((one.least fitsLeft).apart (twoOther.least fitsRightOther) inLeft inRight).elim

end Operation

def Operand (cursor : Cursor) (operand : Expr) (after : Cursor) : Prop :=
  ∃ depth, Room depth cursor ∧ (Rules.ofDepth depth).unary cursor = .ok operand after

inductive Follows : Cursor → List (BinaryOperator × Expr) → Cursor → Prop where
  | stop (cursor : Cursor) (other : BinaryOperator.ofKind? cursor.kind = none) : Follows cursor [] cursor
  | more (cursor middle after : Cursor) (op : BinaryOperator) (operand : Expr)
      (rest : List (BinaryOperator × Expr)) (found : BinaryOperator.ofKind? cursor.kind = some op)
      (reads : Operand cursor.advance operand middle) (later : Follows middle rest after) :
      Follows cursor ((op, operand) :: rest) after

def Sequence (cursor : Cursor) (first : Expr) (rest : List (BinaryOperator × Expr)) (after : Cursor) : Prop :=
  ∃ middle, Operand cursor first middle ∧ Follows middle rest after

theorem Operand.read {depth : Nat} {cursor after : Cursor} {operand : Expr} (reads : Operand cursor operand after)
    (room : Room depth cursor) : (Rules.ofDepth depth).unary cursor = .ok operand after := by
  obtain ⟨other, roomOther, ran⟩ := reads
  rw [Rules.unary_eq room roomOther]
  exact ran

theorem bind_run {α β : Type} {reading : Reading α} {next : α → Reading β} {value : α} {cursor middle : Cursor}
    (ran : reading cursor = .ok value middle) : (reading >>= next) cursor = next value middle := by
  change EStateM.bind reading next cursor = _
  unfold EStateM.bind
  rw [ran]

theorem Room.passed {bound : Nat} {cursor after : Cursor} {takes good : Expr → Prop} {reading twin : Reading Expr}
    {value : Expr} (room : Room bound cursor) (reads : Reads bound takes good cursor reading twin)
    (ran : reading cursor = .ok value after) : Passes cursor after := by
  have leads := reads room
  rw [ran] at leads
  exact leads.1

theorem Room.below {depth : Nat} {cursor : Cursor} (room : Room (depth + 1) cursor)
    (shorter : Shorter cursor cursor.advance) : Room depth cursor.advance :=
  ⟨(Passes.advance cursor).ended room.ended, Nat.lt_of_lt_of_le shorter (Nat.le_of_lt_succ room.within)⟩

section Rounds

variable {inner : Rules} {least : Nat} {left right : Expr} {cursor middle : Cursor} {op : BinaryOperator}

theorem nextOperand_idle {rest : List (BinaryOperator × Expr)} {after : Cursor} (follows : Follows cursor rest after)
    (loose : ∀ next ∈ rest.head?, next.1.precedence < least) :
    nextOperand inner least left cursor = .ok (left, false) cursor := by
  unfold nextOperand
  rw [kindHere_run]
  cases follows with
  | stop _ other => rw [other]; rfl
  | more _ _ _ op _ _ found =>
      rw [found]
      dsimp only
      rw [if_pos (loose _ rfl)]
      rfl

theorem nextOperand_more (found : BinaryOperator.ofKind? cursor.kind = some op) (tight : least ≤ op.precedence)
    (ran : inner.binary op.rightPrecedence cursor.advance = .ok right middle) :
    nextOperand inner least left cursor =
      .ok (.binary ⟨left.span.start, right.span.stop⟩ left op right, true) middle := by
  unfold nextOperand
  rw [kindHere_run, found]
  dsimp only
  rw [if_neg (Nat.not_lt.mpr tight)]
  exact bind_run ran

end Rounds

structure Climbed (least : Nat) (first : Expr) (rest : List (BinaryOperator × Expr)) (after : Cursor)
    (operation : Operation) (middle : Cursor) : Prop where
  first : operation.first = first
  ranked : operation.Ranked
  tight : operation.Least least
  stops : ∃ remaining, operation.rest ++ remaining = rest ∧ Follows middle remaining after ∧
    ∀ next ∈ remaining.head?, next.1.precedence < least

def Climbing (depth : Nat) (after : Cursor) : Prop :=
  ∀ (least : Nat) (cursor : Cursor) (first : Expr) (rest : List (BinaryOperator × Expr)),
    Room depth cursor → Sequence cursor first rest after →
    ∃ operation middle, Climbed least first rest after operation middle ∧
      (Rules.ofDepth depth).binary least cursor = .ok operation.expr middle

theorem Climbed.join {least : Nat} {op : BinaryOperator} {left right : Operation} {operand : Expr}
    {rest : List (BinaryOperator × Expr)} {after middle : Cursor}
    (climbed : Climbed op.rightPrecedence operand rest after right middle) (ranked : left.Ranked)
    (tight : left.Least least) (here : least ≤ op.precedence)
    (fits : ∀ child ∈ left.root?, op.leftPrecedence ≤ child.precedence) :
    (left.join op right).Ranked ∧ (left.join op right).Least least :=
  ⟨Operation.join_ranked.mpr ⟨ranked, climbed.ranked, fits, climbed.tight.root⟩,
    tight.join here (climbed.tight.mono (Nat.le_trans here op.precedence_le_right))⟩

-- Round by round the operation on the left grows. What comes next fits above its root, as the right operand
-- has left off there for an operator that binds no tighter.
theorem nextOperands_climb {depth least : Nat} {after : Cursor} (climbing : Climbing depth after)
    (count : Nat) (left : Operation) (cursor : Cursor) (rest : List (BinaryOperator × Expr))
    (ranked : left.Ranked) (tight : left.Least least) (room : Room (depth + 1) cursor)
    (follows : Follows cursor rest after) (enough : cursor.ahead.length < count)
    (fits : ∀ next ∈ rest.head?, ∀ child ∈ left.root?, next.1.leftPrecedence ≤ child.precedence) :
    ∃ operation middle, Climbed least left.first (left.rest ++ rest) after operation middle ∧
      repeatStep (nextOperand (Rules.ofDepth depth) least) count left.expr cursor = .ok operation.expr middle := by
  induction count generalizing left cursor rest with
  | zero => exact absurd enough (Nat.not_lt_zero _)
  | succ count ih =>
      by_cases loose : ∀ next ∈ rest.head?, next.1.precedence < least
      · exact ⟨left, cursor, ⟨rfl, ranked, tight, rest, rfl, follows, loose⟩,
          repeatStep_done (nextOperand_idle follows loose)⟩
      · cases follows with
        | stop => exact absurd nofun loose
        | more _ next _ op operand rest found reads later =>
            have here : least ≤ op.precedence := by simpa using loose
            have shorter := advance_shorter room.ended (plain_kinds (Parallel.binary_plain found)).1
            obtain ⟨right, middle, climbed, ran⟩ :=
              climbing op.rightPrecedence cursor.advance operand rest (room.below shorter) ⟨next, reads, later⟩
            obtain ⟨remaining, split, follows, stops⟩ := climbed.stops
            have onward := (room.below shorter).passed ((Rules.sound depth).binary op.rightPrecedence _) ran
            have fewer : middle.ahead.length < count :=
              Nat.lt_of_le_of_lt onward.length_le (Nat.lt_of_lt_of_le shorter (Nat.le_of_lt_succ enough))
            obtain ⟨joined, joinedTight⟩ := climbed.join ranked tight here (fits _ rfl)
            have whole : (left.join op right).rest ++ remaining = left.rest ++ (op, operand) :: rest := by
              rw [← split, Operation.rest, climbed.first, List.append_assoc, List.cons_append]
            rw [repeatStep_more (nextOperand_more found here ran), ← whole]
            refine ih (left.join op right) middle remaining joined joinedTight
              (((Passes.advance cursor).trans onward).room room) follows fewer fun next found child root => ?_
            cases root
            exact (next.1.left_iff op).mpr (stops next found)

theorem binary_climbs (depth : Nat) (after : Cursor) : Climbing depth after := by
  intro least cursor first rest room sequence
  induction depth generalizing least cursor first rest with
  | zero => exact absurd room.within (Nat.not_lt_zero _)
  | succ depth ih =>
      obtain ⟨middle, reads, follows⟩ := sequence
      have ran : unary (Rules.ofDepth depth) cursor = .ok first middle := reads.read room
      have onward := room.passed ((Rules.sound (depth + 1)).unary cursor) ran
      change ∃ operation last, _ ∧ (unary (Rules.ofDepth depth) >>= _) cursor = _
      rw [bind_run ran]
      exact nextOperands_climb ih _ (.operand first) middle rest trivial nofun (onward.room room) follows
        (Nat.lt_succ_self _) fun _ _ => nofun

-- Operands with operators between them, up to a token that is no operator, are read to the end, as the one
-- ranked operation over them.
theorem sequence_ranked (depth : Nat) (cursor after : Cursor) (first : Expr) (rest : List (BinaryOperator × Expr))
    (room : Room depth cursor) (sequence : Sequence cursor first rest after) :
    ∃ operation : Operation, operation.first = first ∧ operation.rest = rest ∧ operation.Ranked ∧
      (∀ other : Operation, other.first = first → other.rest = rest → other.Ranked → other = operation) ∧
      (Rules.ofDepth depth).binary 1 cursor = .ok operation.expr after := by
  obtain ⟨operation, middle, climbed, ran⟩ := binary_climbs depth after 1 cursor first rest room sequence
  obtain ⟨remaining, rfl, follows, stops⟩ := climbed.stops
  cases follows with
  | more _ _ _ op => exact absurd (stops _ rfl) (Nat.not_lt.mpr op.precedence_pos)
  | stop =>
      rw [List.append_nil]
      refine ⟨operation, climbed.first, rfl, climbed.ranked, fun other start same ranked => ?_, ran⟩
      exact ranked.unique climbed.ranked (start.trans climbed.first.symm) same

def mixed (index : Nat) : Cursor :=
  let word (kind : TokenKind) (lexeme : String) : Token := ⟨kind, .none, lexeme, default⟩
  let final := word .endOfFile ""
  let tokens := [word .minus "-", word .identifier "a", word .dot ".", word .identifier "b", word .caret "^",
    word .leftParen "(", word .identifier "c", word .orOr "||", word .identifier "d", word .rightParen ")",
    word .caret "^", word .leftBracket "[", word .identifier "e", word .rightBracket "]", word .andAnd "&&",
    word .bang "!", word .trueKeyword "true", word .orOr "||", word .identifier "f", final]
  ⟨tokens.getD (index - 1) final, tokens.getD index final, tokens.drop (index + 1), none, []⟩

theorem mixed_ranked :
    let negated := Expr.unary default .negate (.member default (.name default "a") "b")
    let group := Expr.binary default (.name default "c") .or (.name default "d")
    let list := Expr.list default [.name default "e"]
    let inverted := Expr.unary default .not (.literal default (.bool true))
    let last := Expr.name default "f"
    let rest := [(.power, group), (.power, list), (.and, inverted), (.or, last)]
    let powers := Operation.join (.operand negated) .power (.join (.operand group) .power (.operand list))
    let operation := Operation.join (.join powers .and (.operand inverted)) .or (.operand last)
    Room 20 (mixed 0) ∧ Sequence (mixed 0) negated rest (mixed 19) ∧ operation.rest = rest ∧ operation.Ranked ∧
      (Rules.ofDepth 20).binary 1 (mixed 0) = .ok operation.expr (mixed 19) := by
  intro negated group list inverted last rest powers operation
  have room : Room 20 (mixed 0) := ⟨rfl, by decide⟩
  have sequence : Sequence (mixed 0) negated rest (mixed 19) := by
    refine ⟨mixed 4, ⟨20, room, rfl⟩, ?_⟩
    refine .more _ (mixed 10) _ .power group _ rfl ⟨20, ⟨rfl, by decide⟩, rfl⟩ ?_
    refine .more _ (mixed 14) _ .power list _ rfl ⟨20, ⟨rfl, by decide⟩, rfl⟩ ?_
    refine .more _ (mixed 17) _ .and inverted _ rfl ⟨20, ⟨rfl, by decide⟩, rfl⟩ ?_
    exact .more _ (mixed 19) _ .or last _ rfl ⟨20, ⟨rfl, by decide⟩, rfl⟩ (.stop _ rfl)
  have ranked : operation.Ranked := by decide
  obtain ⟨found, _, _, _, only, ran⟩ := sequence_ranked 20 (mixed 0) (mixed 19) negated rest room sequence
  rw [← only operation rfl rfl ranked] at ran
  exact ⟨room, sequence, rfl, ranked, ran⟩

end Grammar

end Fiscal
