import Fiscal.Proofs.Grammar.Statement
import Fiscal.Proofs.Translation.Basic

set_option autoImplicit false

namespace Fiscal.Stmt

mutual

def cleared : Stmt → Stmt
  | block body => block (clearedBody body)
  | choose span condition body branches otherwise =>
      choose span condition (clearedBody body) (clearedBranches branches) (clearedOption otherwise)
  | repeatWhile span condition body => repeatWhile span condition (clearedBody body)
  | forRange span counter first last step body => forRange span counter first last step (clearedBody body)
  | forEach span item items body => forEach span item items (clearedBody body)
  | function span name parameters body => function span name parameters (clearedBody body)
  | scenario span name body => scenario span name (clearedBody body)
  | other => other

def clearedBody : Body Stmt → Body Stmt
  | ⟨span, statements⟩ => ⟨span, clearedAll statements⟩

def clearedAll : List Stmt → List Stmt
  | [] => []
  | stmt :: rest => if stmt.isInvalid then clearedAll rest else stmt.cleared :: clearedAll rest

def clearedBranches : List (Branch Stmt) → List (Branch Stmt)
  | [] => []
  | ⟨span, condition, body⟩ :: rest => ⟨span, condition, clearedBody body⟩ :: clearedBranches rest

def clearedOption : Option (Body Stmt) → Option (Body Stmt)
  | none => none
  | some body => some (clearedBody body)

end

mutual

def blocks : Stmt → List Block
  | block body => bodyBlocks body
  | choose _ _ body branches otherwise =>
      bodyBlocks body ++ branchBlocks branches ++ optionBlocks otherwise
  | repeatWhile _ _ body => bodyBlocks body
  | forRange _ _ _ _ _ body => bodyBlocks body
  | forEach _ _ _ body => bodyBlocks body
  | function _ _ _ body => bodyBlocks body
  | scenario _ _ body => bodyBlocks body
  | _ => []

def bodyBlocks : Body Stmt → List Block
  | ⟨span, statements⟩ => ⟨span, statements⟩ :: blocksAll statements

def blocksAll : List Stmt → List Block
  | [] => []
  | stmt :: rest => stmt.blocks ++ blocksAll rest

def branchBlocks : List (Branch Stmt) → List Block
  | [] => []
  | ⟨_, _, body⟩ :: rest => bodyBlocks body ++ branchBlocks rest

def optionBlocks : Option (Body Stmt) → List Block
  | none => []
  | some body => bodyBlocks body

end

theorem clearedBody_span (body : Block) : (clearedBody body).span = body.span := by
  cases body
  rfl

theorem clearedBranches_eq (branches : List (Branch Stmt)) : clearedBranches branches =
    branches.map fun branch => ⟨branch.span, branch.condition, clearedBody branch.body⟩ := by
  induction branches with
  | nil => rfl
  | cons branch rest ih => rw [clearedBranches, ih, List.map_cons]

theorem clearedOption_eq (otherwise : Option Block) : clearedOption otherwise = otherwise.map clearedBody := by
  cases otherwise <;> rfl

theorem cleared_eq (stmt : Stmt) : stmt.cleared = stmt.onBodies clearedBody := by
  cases stmt with
  | choose => rw [cleared, onBodies, clearedBranches_eq, clearedOption_eq]
  | _ => rfl

theorem clearedAll_rewritten (stmts : List Stmt) : Rewritten True clearedBody stmts (clearedAll stmts) := by
  induction stmts with
  | nil => exact .nil
  | cons stmt rest ih =>
      rw [clearedAll]
      by_cases placeholder : stmt.isInvalid = true
      · rw [if_pos placeholder]
        cases stmt with
        | invalid span message => exact .leave span message rest _ trivial ih
        | _ => cases placeholder
      · rw [if_neg placeholder, cleared_eq]
        exact .keep stmt rest _ ih

theorem clearedBody_rewritten (body : Block) :
    Rewritten True clearedBody body.statements (clearedBody body).statements := by
  cases body
  exact clearedAll_rewritten _

theorem blocksAll_eq (stmts : List Stmt) : blocksAll stmts = stmts.flatMap blocks := by
  induction stmts with
  | nil => rfl
  | cons stmt rest ih => rw [blocksAll, ih, List.flatMap_cons]

theorem branchBlocks_eq (branches : List (Branch Stmt)) :
    branchBlocks branches = branches.flatMap fun branch => bodyBlocks branch.body := by
  induction branches with
  | nil => rfl
  | cons branch rest ih => rw [branchBlocks, ih, List.flatMap_cons]

theorem bodyBlocks_self (body : Block) : body ∈ bodyBlocks body := by
  cases body
  exact List.mem_cons_self

theorem bodyBlocks_inner {body inner : Block} {stmt : Stmt} (member : stmt ∈ body.statements)
    (within : inner ∈ stmt.blocks) : inner ∈ bodyBlocks body := by
  cases body
  rw [bodyBlocks, blocksAll_eq]
  exact List.mem_cons_of_mem _ (List.mem_flatMap.mpr ⟨stmt, member, within⟩)

theorem blocks_inner {whole stmt : Stmt} {inner : Block} (member : stmt ∈ whole.statements)
    (within : inner ∈ stmt.blocks) : inner ∈ whole.blocks := by
  cases whole with
  | block | repeatWhile | forRange | forEach | function | scenario => exact bodyBlocks_inner member within
  | choose span condition body branches otherwise =>
      rw [blocks, branchBlocks_eq]
      rcases List.mem_append.mp member with front | last
      · rcases List.mem_append.mp front with own | among
        · exact List.mem_append_left _ (List.mem_append_left _ (bodyBlocks_inner own within))
        · obtain ⟨branch, chosen, inside⟩ := List.mem_flatMap.mp among
          refine List.mem_append_left _ (List.mem_append_right _ ?_)
          exact List.mem_flatMap.mpr ⟨branch, chosen, bodyBlocks_inner inside within⟩
      · obtain ⟨body, chosen, inside⟩ := List.mem_flatMap.mp last
        refine List.mem_append_right _ ?_
        cases Option.mem_toList.mp chosen
        exact bodyBlocks_inner inside within
  | _ => cases member

theorem statements_blocks {whole stmt : Stmt} (member : stmt ∈ whole.statements) :
    ∃ body ∈ whole.blocks, stmt ∈ body.statements := by
  cases whole with
  | block | repeatWhile | forRange | forEach | function | scenario => exact ⟨_, bodyBlocks_self _, member⟩
  | choose span condition body branches otherwise =>
      rw [blocks, branchBlocks_eq]
      rcases List.mem_append.mp member with front | last
      · rcases List.mem_append.mp front with own | among
        · exact ⟨body, List.mem_append_left _ (List.mem_append_left _ (bodyBlocks_self body)), own⟩
        · obtain ⟨branch, chosen, inside⟩ := List.mem_flatMap.mp among
          refine ⟨branch.body, List.mem_append_left _ (List.mem_append_right _ ?_), inside⟩
          exact List.mem_flatMap.mpr ⟨branch, chosen, bodyBlocks_self branch.body⟩
      · obtain ⟨body, chosen, inside⟩ := List.mem_flatMap.mp last
        refine ⟨body, List.mem_append_right _ ?_, inside⟩
        cases Option.mem_toList.mp chosen
        exact bodyBlocks_self body
  | _ => cases member

theorem cleared_isInvalid (stmt : Stmt) : stmt.cleared.isInvalid = stmt.isInvalid := by
  cases stmt <;> rfl

theorem clearedAll_isInvalid (stmts : List Stmt) : ∀ stmt ∈ clearedAll stmts, stmt.isInvalid = false := by
  induction stmts with
  | nil => exact List.forall_mem_nil _
  | cons stmt rest ih =>
      rw [clearedAll]
      by_cases placeholder : stmt.isInvalid = true
      · rwa [if_pos placeholder]
      · rw [if_neg placeholder]
        refine List.forall_mem_cons.mpr ⟨?_, ih⟩
        rw [cleared_isInvalid]
        exact Bool.eq_false_iff.mpr placeholder

mutual

theorem cleared_blocks (stmt : Stmt) :
    ∀ inner ∈ stmt.cleared.blocks, ∀ member ∈ inner.statements, member.isInvalid = false := by
  cases stmt with
  | block body => exact clearedBody_blocks body
  | choose span condition body branches otherwise =>
      refine List.forall_mem_append.mpr ⟨List.forall_mem_append.mpr ⟨clearedBody_blocks body, ?_⟩, ?_⟩
      · exact clearedBranches_blocks branches
      · cases otherwise with
        | none => exact List.forall_mem_nil _
        | some last => exact clearedBody_blocks last
  | repeatWhile span condition body => exact clearedBody_blocks body
  | forRange span counter first last step body => exact clearedBody_blocks body
  | forEach span item items body => exact clearedBody_blocks body
  | function span name parameters body => exact clearedBody_blocks body
  | scenario span name body => exact clearedBody_blocks body
  | _ => exact List.forall_mem_nil _

theorem clearedBody_blocks (body : Body Stmt) :
    ∀ inner ∈ bodyBlocks (clearedBody body), ∀ member ∈ inner.statements, member.isInvalid = false := by
  obtain ⟨span, statements⟩ := body
  exact List.forall_mem_cons.mpr ⟨clearedAll_isInvalid statements, clearedAll_blocks statements⟩

theorem clearedAll_blocks (stmts : List Stmt) :
    ∀ inner ∈ blocksAll (clearedAll stmts), ∀ member ∈ inner.statements, member.isInvalid = false := by
  cases stmts with
  | nil => exact List.forall_mem_nil _
  | cons stmt rest =>
      have later := clearedAll_blocks rest
      rw [clearedAll]
      by_cases placeholder : stmt.isInvalid = true
      · rwa [if_pos placeholder]
      · rw [if_neg placeholder]
        exact List.forall_mem_append.mpr ⟨cleared_blocks stmt, later⟩

theorem clearedBranches_blocks (branches : List (Branch Stmt)) :
    ∀ inner ∈ branchBlocks (clearedBranches branches), ∀ member ∈ inner.statements, member.isInvalid = false := by
  cases branches with
  | nil => exact List.forall_mem_nil _
  | cons branch rest =>
      obtain ⟨span, condition, body⟩ := branch
      exact List.forall_mem_append.mpr ⟨clearedBody_blocks body, clearedBranches_blocks rest⟩

end

theorem clearedAll_unbroken (stmts : List Stmt) : ∀ stmt ∈ clearedAll stmts, stmt.isInvalid = false ∧
    ∀ inner ∈ stmt.blocks, ∀ member ∈ inner.statements, member.isInvalid = false := by
  intro stmt member
  refine ⟨clearedAll_isInvalid stmts stmt member, fun inner within => clearedAll_blocks stmts inner ?_⟩
  rw [blocksAll_eq]
  exact List.mem_flatMap.mpr ⟨stmt, member, within⟩

mutual

theorem same_cleared (stmt : Stmt) :
    stmt.cleared.outline.same stmt.cleared.outline = stmt.outline.same stmt.outline := by
  cases stmt with
  | block body => exact same_clearedBody body
  | choose span condition body branches otherwise =>
      have first := same_clearedBody body
      have others := same_clearedBranches branches
      cases otherwise with
      | none => simp [cleared, clearedOption, outline, optionalBody, Outline.same, Outline.sameFields, first, others]
      | some last =>
          have final := same_clearedBody last
          simp [cleared, clearedOption, outline, optionalBody, Outline.same, Outline.sameFields, first, others, final]
  | repeatWhile span condition body =>
      simp [cleared, outline, Outline.same, Outline.sameFields, same_clearedBody body]
  | forRange span counter first last step body =>
      cases step with
      | none => simp [cleared, outline, Expr.optional, Outline.same, Outline.sameFields, same_clearedBody body]
      | some step => simp [cleared, outline, Expr.optional, Outline.same, Outline.sameFields, same_clearedBody body]
  | forEach span item items body =>
      simp [cleared, outline, Outline.same, Outline.sameFields, same_clearedBody body]
  | function span name parameters body =>
      simp [cleared, outline, Outline.same, Outline.sameFields, same_clearedBody body]
  | scenario span name body =>
      simp [cleared, outline, Outline.same, Outline.sameFields, same_clearedBody body]
  | _ => rfl

theorem same_clearedBody (body : Body Stmt) :
    (bodyOutline (clearedBody body)).same (bodyOutline (clearedBody body)) =
      (bodyOutline body).same (bodyOutline body) := by
  obtain ⟨span, statements⟩ := body
  simp [clearedBody, bodyOutline, Outline.same, Outline.sameFields, same_clearedAll statements]

theorem same_clearedAll (stmts : List Stmt) :
    Outline.sameChildren (outlines (clearedAll stmts)) (outlines (clearedAll stmts)) =
      Outline.sameChildren (outlines stmts) (outlines stmts) := by
  cases stmts with
  | nil => rfl
  | cons stmt rest =>
      have later := same_clearedAll rest
      rw [clearedAll]
      by_cases placeholder : stmt.isInvalid = true
      · rw [if_pos placeholder, later]
        cases stmt with
        | invalid => simp [outlines, outline, Outline.sameChildren, Outline.same, Outline.sameFields]
        | _ => cases placeholder
      · rw [if_neg placeholder]
        simp [outlines, Outline.sameChildren, same_cleared stmt, later]

theorem same_clearedBranches (branches : List (Branch Stmt)) :
    Outline.sameChildren (branchOutlines (clearedBranches branches)) (branchOutlines (clearedBranches branches)) =
      Outline.sameChildren (branchOutlines branches) (branchOutlines branches) := by
  cases branches with
  | nil => rfl
  | cons branch rest =>
      obtain ⟨span, condition, body⟩ := branch
      simp [clearedBranches, branchOutlines, Outline.sameChildren, Outline.same, Outline.sameFields,
        same_clearedBody body, same_clearedBranches rest]

end

theorem same_outline_span {first second : Block} (differ : first.span ≠ second.span) :
    (bodyOutline first).same (bodyOutline second) = false := by
  cases first
  cases second
  simp [bodyOutline, Outline.same, differ]

end Fiscal.Stmt

namespace Fiscal

namespace Value

mutual

def cleared : Value → Value
  | list items => list (clearedAll items)
  | object fields => object (clearedNamed fields)
  | function declared => function { declared with body := Stmt.clearedBody declared.body }
  | block body => block (Stmt.clearedBody body)
  | other => other

def clearedAll : List Value → List Value
  | [] => []
  | item :: rest => item.cleared :: clearedAll rest

def clearedNamed : List (String × Value) → List (String × Value)
  | [] => []
  | (name, item) :: rest => (name, item.cleared) :: clearedNamed rest

end

theorem clearedAll_eq (items : List Value) : clearedAll items = items.map cleared := by
  induction items with
  | nil => rfl
  | cons item rest ih => rw [clearedAll, ih, List.map_cons]

theorem clearedNamed_eq (fields : Named Value) :
    clearedNamed fields = fields.map fun field => (field.1, field.2.cleared) := by
  induction fields with
  | nil => rfl
  | cons field rest ih => rw [clearedNamed, ih, List.map_cons]

end Value

def Machine.cleared (machine : Machine) : Machine :=
  { machine with
    scopes := machine.scopes.map fun scope =>
      { scope with bindings := scope.bindings.map fun binding => (binding.1, binding.2.cleared) } }

end Fiscal
