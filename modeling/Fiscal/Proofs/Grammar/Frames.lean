import Fiscal.Proofs.Grammar.Depth
import Fiscal.Proofs.Grammar.Program

set_option autoImplicit false

namespace Fiscal.Grammar

namespace Rules

theorem withFrames_drop (frames calls : Nat) : (withFrames frames).drop calls = withFrames (frames - calls) := by
  induction calls generalizing frames with
  | zero => rfl
  | succ calls ih =>
      cases frames with
      | zero => simp [withFrames]
      | succ frames =>
          rw [Nat.succ_sub_succ, ← ih frames]
          rfl

theorem withFrames_after (frames calls : Nat) :
    (withFrames frames)[calls]?.getD exhausted = within (frames - calls) := by
  rw [within, ← withFrames_drop, List.head?_drop]

theorem within_succ (frames : Nat) :
    within (frames + 1) =
      { expression := Grammar.expression (within (frames - 6))
        binary := Grammar.binary (within frames)
        unary := Grammar.unary (within frames)
        statement := Grammar.statement (within (frames - 3)) } := by
  simp only [within, withFrames, List.head?_cons, Option.getD_some, Nat.reduceSub, withFrames_after, Nat.sub_zero]

theorem within_refines (frames depth : Nat) (most : frames ≤ depth) : (within frames).Refines (ofDepth depth) := by
  induction frames using Nat.strongRecOn generalizing depth with
  | ind frames ih =>
      cases frames with
      | zero => exact exhausted_refines _
      | succ frames =>
          cases depth with
          | zero => omega
          | succ depth =>
              have inside (calls : Nat) : (within (frames - calls)).Refines (ofDepth depth) :=
                ih (frames - calls) (by omega) depth (by omega)
              rw [within_succ]
              exact ⟨.expression (inside 6), .binary (inside 0), .unary (inside 0), .statement (inside 3)⟩

theorem refines_within (depth frames : Nat) (enough : 7 * depth ≤ frames) : (ofDepth depth).Refines (within frames) := by
  induction depth generalizing frames with
  | zero => exact exhausted_refines _
  | succ depth ih =>
      obtain ⟨frames, rfl⟩ : ∃ fewer, frames = fewer + 1 := ⟨frames - 1, by omega⟩
      have inside (calls : Nat) (most : calls ≤ 6) : (ofDepth depth).Refines (within (frames - calls)) :=
        ih (frames - calls) (by omega)
      rw [within_succ]
      exact ⟨.expression (inside 6 (by decide)), .binary (inside 0 (by decide)), .unary (inside 0 (by decide)),
        .statement (inside 3 (by decide))⟩

end Rules

section Parses

variable {frames : Nat} {maxErrors : Int} {lines : Option (List String)}

theorem parseWithin_ok {first : Token} {rest : List Token} {statements : List Stmt} {cursor : Cursor}
    (whole : readProgram maxErrors lines first rest = .ok statements cursor)
    (ran : Grammar.statements (Rules.within frames) maxErrors (Cursor.start first rest lines) = .ok statements cursor) :
    parseWithin frames maxErrors lines (first :: rest) = .ok (parse maxErrors lines (first :: rest)) := by
  rw [parseWithin, ran, parse_ok whole]

theorem parseWithin_cases (frames : Nat) (maxErrors : Int) (lines : Option (List String)) {tokens : List Token}
    (ends : EndsOnce tokens) :
    parseWithin frames maxErrors lines tokens = .error .stackOverflow ∨
      parseWithin frames maxErrors lines tokens = .ok (parse maxErrors lines tokens) := by
  obtain ⟨first, rest, rfl⟩ := ends.cons
  obtain ⟨statements, cursor, ran, _⟩ := statements_end maxErrors (ends.room lines)
  -- Both the host and the parse read less deep than rules with room for the two of them.
  have host := Rules.within_refines frames (rest.length + 2 + frames) (Nat.le_add_left _ _)
  have deeper := Rules.ofDepth_refines (rest.length + 2) frames
  rcases Refines.statements host maxErrors (Cursor.start first rest lines) with ⟨after, full⟩ | same
  · rw [parseWithin, full]
    exact .inl rfl
  · rcases Refines.statements deeper maxErrors (Cursor.start first rest lines) with ⟨after, full⟩ | alike
    · cases ran.symm.trans full
    · exact .inr (parseWithin_ok ran (same.trans (alike.symm.trans ran)))

-- Room for seven frames a token is enough for any nesting.
theorem parseWithin_enough {tokens : List Token} (ends : EndsOnce tokens)
    (enough : 7 * (tokens.length + 1) ≤ frames) :
    parseWithin frames maxErrors lines tokens = .ok (parse maxErrors lines tokens) := by
  obtain ⟨first, rest, rfl⟩ := ends.cons
  obtain ⟨statements, cursor, ran, _⟩ := statements_end maxErrors (ends.room lines)
  have host := Rules.refines_within (rest.length + 2) frames (by simpa using enough)
  rcases Refines.statements host maxErrors (Cursor.start first rest lines) with ⟨after, full⟩ | same
  · cases ran.symm.trans full
  · exact parseWithin_ok ran (same.symm.trans ran)

end Parses

end Fiscal.Grammar
