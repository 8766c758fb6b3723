import Fiscal.Proofs.Grammar.Parallel
import Fiscal.Proofs.Program.Bare

set_option autoImplicit false

namespace Fiscal.Grammar

def Cursor.At (cursor : Cursor) (tokens : List Token) : Prop := cursor.rest.map Token.bare = tokens

def Yields {α : Type} (holds : α → Prop) (tokens : List Token) (reading : Reading α) (cursor : Cursor) : Prop :=
  ∃ value next, reading cursor = .ok value next ∧ holds value ∧ next.At tokens ∧ next.reports = cursor.reports

section Here

variable {cursor : Cursor} {token next : Token} {tokens : List Token}

theorem Cursor.At.current (here : cursor.At (token :: tokens)) : cursor.current.bare = token := by
  unfold Cursor.At Cursor.rest at here
  exact (List.cons.inj here).1

theorem Cursor.At.kind (here : cursor.At (token :: tokens)) : cursor.kind = token.kind := by
  rw [← here.current]
  rfl

theorem Cursor.At.advance (here : cursor.At (token :: next :: tokens)) (going : token.kind ≠ .endOfFile) :
    cursor.advance.At (next :: tokens) ∧ cursor.advance.reports = cursor.reports := by
  have behind : cursor.ahead.map Token.bare = next :: tokens := (List.cons.inj here).2
  obtain ⟨first, others, same, rfl, rfl⟩ := List.map_eq_cons_iff.mp behind
  have on : cursor.atEnd = false := by
    rw [Cursor.atEnd, here.kind]
    simpa using going
  unfold Cursor.advance
  rw [on, same]
  exact ⟨rfl, rfl⟩

end Here

namespace Yields

variable {α β : Type} {holds : α → Prop} {good : β → Prop} {middle tokens others : List Token}
  {reading : Reading α} {later : α → Reading β} {cursor : Cursor} {token next : Token}

theorem give {value : α} (proper : holds value) (here : cursor.At tokens) : Yields holds tokens (pure value) cursor :=
  ⟨value, cursor, rfl, proper, here, rfl⟩

theorem imp {wanted : α → Prop} (yields : Yields holds tokens reading cursor)
    (implied : ∀ value, holds value → wanted value) : Yields wanted tokens reading cursor := by
  obtain ⟨value, next, ran, proper, rest⟩ := yields
  exact ⟨value, next, ran, implied value proper, rest⟩

theorem bind (first : Yields holds middle reading cursor)
    (rest : ∀ value next, holds value → next.At middle → Yields good tokens (later value) next) :
    Yields good tokens (reading >>= later) cursor := by
  obtain ⟨value, next, ran, proper, here, same⟩ := first
  obtain ⟨last, after, goes, fine, there, still⟩ := rest value next proper here
  refine ⟨last, after, ?_, fine, there, still.trans same⟩
  change EStateM.bind reading later cursor = _
  rw [EStateM.bind, ran]
  exact goes

theorem seeing {value : α} (ran : reading cursor = .ok value cursor)
    (rest : Yields good tokens (later value) cursor) : Yields good tokens (reading >>= later) cursor := by
  unfold Yields at rest ⊢
  change ∃ value next, EStateM.bind reading later cursor = _ ∧ _
  rw [EStateM.bind, ran]
  exact rest

theorem get {later : Cursor → Reading β} (rest : Yields good tokens (later cursor) cursor) :
    Yields good tokens (get >>= later) cursor := rest

theorem kindHere {later : TokenKind → Reading β} (rest : Yields good tokens (later cursor.kind) cursor) :
    Yields good tokens (kindHere >>= later) cursor := rest

theorem spanFrom {first : Source.Location} {later : Source.Span → Reading β}
    (rest : ∀ span, Yields good tokens (later span) cursor) :
    Yields good tokens (spanFrom first >>= later) cursor := rest _

theorem advance (here : cursor.At (token :: next :: others)) (going : token.kind ≠ .endOfFile) :
    Yields (·.bare = token) (next :: others) advance cursor := by
  obtain ⟨there, still⟩ := here.advance going
  exact ⟨cursor.current, cursor.advance, rfl, here.current, there, still⟩

section Kinds

variable {kind : TokenKind} {kinds : List TokenKind} {later : Bool → Reading β} {expected : String}

theorem here_at? (here : cursor.At (token :: others)) : Grammar.at? kind cursor = .ok (token.kind == kind) cursor := by
  rw [← here.kind]
  rfl

theorem atAny (here : cursor.At (token :: others))
    (rest : Yields good tokens (later (kinds.contains token.kind)) cursor) :
    Yields good tokens (atAny kinds >>= later) cursor := by
  refine seeing ?_ rest
  rw [← here.kind]
  rfl

theorem at?_other (here : cursor.At (token :: others)) (other : token.kind ≠ kind)
    (rest : Yields good tokens (later false) cursor) : Yields good tokens (Grammar.at? kind >>= later) cursor := by
  refine seeing (here_at? here) ?_
  rwa [beq_eq_false_iff_ne.mpr other]

theorem at?_here (here : cursor.At (token :: others)) (same : token.kind = kind)
    (rest : Yields good tokens (later true) cursor) : Yields good tokens (Grammar.at? kind >>= later) cursor := by
  refine seeing (here_at? here) ?_
  rwa [same, beq_self_eq_true]

theorem accept_other (here : cursor.At (token :: others)) (other : token.kind ≠ kind)
    (rest : Yields good tokens (later false) cursor) : Yields good tokens (accept kind >>= later) cursor := by
  refine seeing ?_ rest
  unfold Grammar.accept
  change EStateM.bind (Grammar.at? kind) _ cursor = _
  rw [EStateM.bind, here_at? here, beq_eq_false_iff_ne.mpr other]
  rfl

theorem accept_here (here : cursor.At (token :: next :: others)) (same : token.kind = kind) (going : kind ≠ .endOfFile)
    (rest : ∀ after : Cursor, after.At (next :: others) → Yields good tokens (later true) after) :
    Yields good tokens (accept kind >>= later) cursor := by
  refine bind ?_ fun value after (taken : value = true) there => by rw [taken]; exact rest after there
  refine at?_here here same ?_
  rw [if_pos rfl]
  exact (advance here (same ▸ going)).bind fun _ _ _ there => give rfl there

theorem expect (here : cursor.At (token :: next :: others)) (same : token.kind = kind) (going : kind ≠ .endOfFile) :
    Yields (·.bare = token) (next :: others) (expect kind expected) cursor := by
  refine at?_here here same ?_
  rw [if_pos rfl]
  exact advance here (same ▸ going)

theorem expectName (here : cursor.At (token :: next :: others)) (name : token.kind.isName = true)
    (going : token.kind ≠ .endOfFile) : Yields (· = token.lexeme) (next :: others) (expectName expected) cursor := by
  refine kindHere ?_
  rw [here.kind, if_pos name]
  exact (advance here going).bind fun value after same there => give (by rw [← same]; rfl) there

theorem skipNewlines {later : Unit → Reading β} (here : cursor.At (token :: others)) (line : token.kind ≠ .newline)
    (rest : Yields good tokens (later ()) cursor) : Yields good tokens (skipNewlines >>= later) cursor := by
  refine seeing ?_ rest
  have still : (cursor.kind == .newline) = false := by rw [here.kind, beq_eq_false_iff_ne.mpr line]
  obtain ⟨previous, current, ahead, lines, reports⟩ := cursor
  change EStateM.Result.ok () (Cursor.skip _ _) = _
  cases ahead with
  | nil => rfl
  | cons first behind =>
      have stays : (current.kind != .endOfFile && current.kind == .newline) = false := by
        rw [show (current.kind == .newline) = false from still, Bool.and_false]
      rw [Cursor.skip, Cursor.advanceWhile, stays, if_neg (by decide)]

end Kinds

section Rounds

variable {σ : Type} {round : σ → Reading (σ × Bool)} {state : σ} {holds : σ → Prop} {count : Nat}

theorem round_last (first : Yields (fun result => result.2 = false ∧ holds result.1) tokens (round state) cursor) :
    Yields holds tokens (repeatStep round (count + 1) state) cursor := by
  obtain ⟨⟨last, more⟩, next, ran, ⟨rfl, proper⟩, there, still⟩ := first
  exact ⟨last, next, repeatStep_done ran, proper, there, still⟩

theorem round_more (held : σ → Prop)
    (first : Yields (fun result => result.2 = true ∧ held result.1) middle (round state) cursor)
    (rest : ∀ after next, held after → next.At middle → Yields holds tokens (repeatStep round count after) next) :
    Yields holds tokens (repeatStep round (count + 1) state) cursor := by
  obtain ⟨⟨after, more⟩, next, ran, ⟨rfl, proper⟩, there, still⟩ := first
  obtain ⟨last, final, goes, fine, beyond, same⟩ := rest after next proper there
  exact ⟨last, final, (repeatStep_more ran).trans goes, fine, beyond, same.trans still⟩

theorem repeating (here : cursor.At middle)
    (rest : Yields holds tokens (repeatStep round middle.length state) cursor) :
    Yields holds tokens (repeating state round) cursor := by
  have rounds : cursor.ahead.length + 1 = middle.length := by
    rw [← here, List.length_map]
    rfl
  rw [← rounds] at rest
  exact rest

end Rounds

end Yields

end Fiscal.Grammar
