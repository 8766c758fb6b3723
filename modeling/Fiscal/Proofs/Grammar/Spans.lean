import Fiscal.Program.Outline
import Fiscal.Proofs.Token.Order
import Fiscal.Proofs.Grammar.Origin

set_option autoImplicit false

namespace Fiscal

open Source (Span)

def Source.Span.Within (inner outer : Span) : Prop :=
  outer.start.offset ≤ inner.start.offset ∧ inner.stop.offset ≤ outer.stop.offset

namespace OutlineField

def outlines : OutlineField → List Outline
  | scalar _ | scalars _ => []
  | child outline => [outline]
  | children outlines => outlines
  | entries outlines => outlines.map Prod.snd

@[simp] theorem scalar_outlines (text : String) : (scalar text).outlines = [] := rfl

@[simp] theorem scalars_outlines (texts : List String) : (scalars texts).outlines = [] := rfl

@[simp] theorem child_outlines (outline : Outline) : (child outline).outlines = [outline] := rfl

@[simp] theorem children_outlines (outlines : List Outline) : (children outlines).outlines = outlines := rfl

@[simp] theorem entries_outlines (outlines : List (String × Outline)) :
    (entries outlines).outlines = outlines.map Prod.snd := rfl

end OutlineField

namespace Outline

def children : Outline → List Outline
  | node _ _ fields => fields.flatMap fun field => field.2.outlines

@[simp] theorem node_span (title : String) (span : Span) (fields : List (String × OutlineField)) :
    (node title span fields).span = span := rfl

@[simp] theorem node_children (title : String) (span : Span) (fields : List (String × OutlineField)) :
    (node title span fields).children = fields.flatMap fun field => field.2.outlines := rfl

-- An outline whose spans nest, down to the nodes without parts.
inductive Nested : Outline → Prop where
  | intro (whole : Outline) (forward : whole.span.Forward)
      (inside : ∀ part ∈ whole.children, part.span.Within whole.span)
      (parts : ∀ part ∈ whole.children, Nested part) : Nested whole

theorem Nested.forward {outline : Outline} (nested : outline.Nested) : outline.span.Forward := by
  cases nested
  assumption

end Outline

def Flow.outline (flow : Flow Expr) : Outline :=
  .node "CashflowEntry" flow.span
    [("entry_type", .scalar flow.side.kind.name), ("amount", .child flow.amount.outline)]

def Branch.outline (branch : Branch Stmt) : Outline :=
  .node "ElifBranch" branch.span
    [("condition", .child branch.condition.outline), ("body", .child (Stmt.bodyOutline branch.body))]

namespace Expr

def fieldOutline (field : String × Expr) : Outline := field.2.outline

theorem outlines_eq (exprs : List Expr) : outlines exprs = exprs.map outline := by
  induction exprs with
  | nil => rfl
  | cons expr rest ih => rw [outlines, ih, List.map_cons]

theorem namedOutlines_snd (fields : List (String × Expr)) :
    (namedOutlines fields).map Prod.snd = fields.map fieldOutline := by
  induction fields with
  | nil => rfl
  | cons field rest ih => rw [namedOutlines, List.map_cons, ih, List.map_cons, fieldOutline]

theorem flowOutlines_eq (flows : List (Flow Expr)) : flowOutlines flows = flows.map Flow.outline := by
  induction flows with
  | nil => rfl
  | cons flow rest ih => rw [flowOutlines, ih, List.map_cons, Flow.outline]

@[simp] theorem optional_outlines (expr : Option Expr) : (optional expr).outlines = expr.toList.map outline := by
  cases expr <;> rfl

end Expr

namespace Stmt

theorem outlines_eq (stmts : List Stmt) : outlines stmts = stmts.map outline := by
  induction stmts with
  | nil => rfl
  | cons stmt rest ih => rw [outlines, ih, List.map_cons]

theorem branchOutlines_eq (branches : List (Branch Stmt)) :
    branchOutlines branches = branches.map Branch.outline := by
  induction branches with
  | nil => rfl
  | cons branch rest ih => rw [branchOutlines, ih, List.map_cons, Branch.outline]

@[simp] theorem optionalBody_outlines (body : Option (Body Stmt)) :
    (optionalBody body).outlines = body.toList.map bodyOutline := by
  cases body <;> rfl

end Stmt

end Fiscal

namespace Fiscal.Token

open Source

theorem Ordered.sublist {tokens fewer : List Token} (ordered : Ordered tokens) (sub : fewer.Sublist tokens) :
    Ordered fewer :=
  ⟨ordered.sorted.sublist sub, fun token member => ordered.forward token (sub.subset member)⟩

end Fiscal.Token

namespace Fiscal.Grammar

open Source

namespace Cursor

def stand (cursor : Cursor) : Span := ⟨cursor.current.span.start, cursor.previous.span.stop⟩

structure Paced (cursor : Cursor) : Prop where
  ended : cursor.Ended
  ordered : Token.Ordered (cursor.previous :: cursor.rest)

end Cursor

theorem Passes.here_or_behind {first last : Cursor} (passes : Passes first last) :
    (last.rest = first.rest ∧ last.previous = first.previous) ∨
      ∃ early, first.rest = early ++ last.previous :: last.rest := by
  obtain ⟨passed, split, _, previous⟩ := passes.tokens
  rcases List.eq_nil_or_concat passed with rfl | ⟨early, token, rfl⟩
  · exact .inl ⟨split.symm, previous⟩
  · rw [List.concat_eq_append, List.getLast?_concat, Option.getD_some] at previous
    rw [List.concat_eq_append, List.append_assoc] at split
    exact .inr ⟨early, previous ▸ split⟩

theorem Cursor.Paced.first_le {cursor : Cursor} (paced : cursor.Paced) {token : Token}
    (member : token ∈ cursor.rest) : cursor.current.span ≤ token.span := by
  have sorted := (List.pairwise_cons.mp (List.pairwise_cons.mp paced.ordered.sorted).2).1
  rcases List.mem_cons.mp member with rfl | later
  · exact le_rfl
  · exact sorted token later

theorem Passes.paced {first last : Cursor} (passes : Passes first last) (paced : first.Paced) :
    last.Paced ∧ first.stand ≤ last.stand := by
  have ended := passes.ended paced.ended
  have ordered := paced.ordered
  rcases passes.here_or_behind with ⟨same, previous⟩ | ⟨early, split⟩
  · refine ⟨⟨ended, by rwa [same, previous]⟩, ?_⟩
    rw [Cursor.stand, Cursor.stand, previous, (List.cons.inj same).1]
  · have member (token : Token) (among : token ∈ last.previous :: last.rest) : token ∈ first.rest :=
      split ▸ List.mem_append_right early among
    have behind := (List.pairwise_cons.mp ordered.sorted).1 last.previous (member _ List.mem_cons_self)
    have ahead := paced.first_le (member last.current (by simp [Cursor.rest]))
    refine ⟨⟨ended, ordered.sublist ?_⟩, Span.le_iff.mpr ⟨(Span.le_iff.mp ahead).1, (Span.le_iff.mp behind).2⟩⟩
    rw [split]
    exact (List.sublist_append_right early _).cons _

structure Held (first last : Cursor) (outline : Outline) : Prop where
  nested : outline.Nested
  behind : first.stand ≤ outline.span
  ahead : outline.span ≤ last.stand

structure Gathered (first : Cursor) (start : Location) (cursor : Cursor) (parts : List Outline) : Prop where
  onward : first.stand ≤ cursor.stand
  behind : first.current.span.start.offset ≤ start.offset
  ahead : Span.point start ≤ cursor.stand
  parts : ∀ part ∈ parts, part.Nested ∧ part.span.Within ⟨start, cursor.previous.span.stop⟩

section Parts

variable {first cursor after : Cursor} {start : Location} {parts : List Outline} {outline : Outline}

theorem Held.onward (held : Held first cursor outline) : first.stand ≤ cursor.stand :=
  held.behind.trans held.ahead

theorem Held.further (held : Held first cursor outline) (onward : cursor.stand ≤ after.stand) :
    Held first after outline :=
  { held with ahead := held.ahead.trans onward }

theorem Held.earlier {before : Cursor} (held : Held first cursor outline) (onward : before.stand ≤ first.stand) :
    Held before cursor outline :=
  { held with behind := onward.trans held.behind }

namespace Gathered

theorem further (gathered : Gathered first start cursor parts) (onward : cursor.stand ≤ after.stand) :
    Gathered first start after parts where
  onward := gathered.onward.trans onward
  behind := gathered.behind
  ahead := gathered.ahead.trans onward
  parts part member :=
    have ⟨nested, begins, ends⟩ := gathered.parts part member
    ⟨nested, begins, ends.trans (Span.le_iff.mp onward).2⟩

theorem add (gathered : Gathered first start cursor parts) (held : Held cursor after outline) :
    Gathered first start after (outline :: parts) :=
  have further := gathered.further held.onward
  { further with
    parts := List.forall_mem_cons.mpr ⟨⟨held.nested,
      (Span.le_iff.mp gathered.ahead).1.trans (Span.le_iff.mp held.behind).1, (Span.le_iff.mp held.ahead).2⟩,
      further.parts⟩ }

theorem fewer {fewer : List Outline} (gathered : Gathered first start cursor parts) (subset : fewer ⊆ parts) :
    Gathered first start cursor fewer :=
  { gathered with parts := fun part member => gathered.parts part (subset member) }

theorem close (gathered : Gathered first start cursor parts)
    (place : outline.span = ⟨start, cursor.previous.span.stop⟩) (inside : outline.children ⊆ parts) :
    Held first cursor outline where
  nested := .intro outline (by
      rw [place]
      exact (Span.le_iff.mp gathered.ahead).2)
    (fun part member => place ▸ (gathered.parts part (inside member)).2)
    fun part member => (gathered.parts part (inside member)).1
  behind := place ▸ Span.le_iff.mpr ⟨gathered.behind, (Span.le_iff.mp gathered.onward).2⟩
  ahead := place ▸ Span.le_iff.mpr ⟨(Span.le_iff.mp gathered.ahead).1, le_rfl⟩

theorem reach {last : Cursor} {whole : Outline} (gathered : Gathered first start cursor parts)
    (held : Held cursor last outline) (place : whole.span = ⟨start, outline.span.stop⟩)
    (inside : whole.children ⊆ outline :: parts) : Held first last whole := by
  obtain ⟨behindStart, behindStop⟩ := Span.le_iff.mp held.behind
  obtain ⟨aheadStart, aheadStop⟩ := Span.le_iff.mp held.ahead
  obtain ⟨passedStart, passedStop⟩ := Span.le_iff.mp gathered.ahead
  have all : ∀ part ∈ outline :: parts, part.Nested ∧ part.span.Within ⟨start, outline.span.stop⟩ :=
    List.forall_mem_cons.mpr ⟨⟨held.nested, passedStart.trans behindStart, le_rfl⟩, fun part member =>
      have ⟨nested, begins, ends⟩ := gathered.parts part member
      ⟨nested, begins, ends.trans behindStop⟩⟩
  refine ⟨.intro whole ?_ (fun part member => place ▸ (all part (inside member)).2) fun part member =>
    (all part (inside member)).1, ?_, ?_⟩
  · rw [place]
    exact passedStop.trans behindStop
  · rw [place]
    exact Span.le_iff.mpr ⟨gathered.behind, (Span.le_iff.mp gathered.onward).2.trans behindStop⟩
  · rw [place]
    exact Span.le_iff.mpr ⟨passedStart.trans (behindStart.trans aheadStart), aheadStop⟩

end Gathered

theorem Passes.gathered (passes : Passes first cursor) (paced : first.Paced) (shorter : Shorter first cursor) :
    Gathered first first.current.span.start cursor [] := by
  obtain ⟨_, onward⟩ := passes.paced paced
  refine ⟨onward, le_rfl, Span.le_iff.mpr ⟨(Span.le_iff.mp onward).1, ?_⟩, List.forall_mem_nil _⟩
  rcases passes.here_or_behind with ⟨same, _⟩ | ⟨early, split⟩
  · exact absurd (congrArg List.length (List.cons.inj same).2) (Nat.ne_of_lt shorter)
  · have member : cursor.previous ∈ first.rest := split ▸ List.mem_append_right early List.mem_cons_self
    have forward := paced.ordered.forward cursor.previous (List.mem_cons_of_mem _ member)
    exact (Span.le_iff.mp (paced.first_le member)).1.trans forward

theorem Held.gathered (held : Held first cursor outline) :
    Gathered first outline.span.start cursor [outline] where
  onward := held.onward
  behind := (Span.le_iff.mp held.behind).1
  ahead := Span.le_iff.mpr ⟨(Span.le_iff.mp held.ahead).1,
    held.nested.forward.trans (Span.le_iff.mp held.ahead).2⟩
  parts := List.forall_mem_singleton.mpr ⟨held.nested, le_rfl, (Span.le_iff.mp held.ahead).2⟩

end Parts

-- How a reading ends that started at a cursor: further on, with a value of which something is so.
def Comes {α : Type} (good : α → Cursor → Prop) (cursor : Cursor) : EStateM.Result Halt Cursor α → Prop
  | .ok value after => Passes cursor after ∧ good value after
  | .error (.refused _) after => Passes cursor after
  | .error .unfinished _ => True

def Spans {α : Type} (good : α → Cursor → Prop) (cursor : Cursor) (reading : Reading α) : Prop :=
  cursor.Paced → Comes good cursor (reading cursor)

def Read {α : Type} (outline : α → Outline) (first : Cursor) (value : α) (after : Cursor) : Prop :=
  Held first after (outline value)

abbrev Listed {α : Type} (outline : α → Outline) (first : Cursor) (start : Location) (parts : List Outline)
    (values : List α) (after : Cursor) : Prop :=
  Gathered first start after (values.map outline ++ parts)

namespace Spans

section Law

variable {α β : Type} {good : α → Cursor → Prop} {result : β → Cursor → Prop} {cursor : Cursor}
  {reading : Reading α} {next : α → Reading β}

theorem bind (first : Spans good cursor reading)
    (rest : ∀ value after, cursor.stand ≤ after.stand → good value after → Spans result after (next value)) :
    Spans result cursor (reading >>= next) := by
  intro paced
  have comes := first paced
  change Comes result cursor (EStateM.bind reading next cursor)
  unfold EStateM.bind
  cases ran : reading cursor with
  | ok value after =>
      rw [ran] at comes
      obtain ⟨passes, held⟩ := comes
      obtain ⟨still, onward⟩ := passes.paced paced
      have later := rest value after onward held still
      dsimp only
      cases ended : next value after with
      | ok last final =>
          rw [ended] at later
          exact ⟨passes.trans later.1, later.2⟩
      | error halt final =>
          rw [ended] at later
          cases halt with
          | refused => exact passes.trans later
          | unfinished => trivial
  | error halt after =>
      rw [ran] at comes
      cases halt with
      | refused => exact comes
      | unfinished => trivial

theorem imply {better : α → Cursor → Prop} (spans : Spans good cursor reading)
    (more : ∀ value after, good value after → better value after) : Spans better cursor reading := by
  intro paced
  have comes := spans paced
  cases ran : reading cursor with
  | ok value after =>
      rw [ran] at comes
      exact ⟨comes.1, more value after comes.2⟩
  | error halt after =>
      rw [ran] at comes
      cases halt with
      | refused => exact comes
      | unfinished => trivial

theorem pure (value : α) (holds : good value cursor) : Spans good cursor (Pure.pure value : Reading α) :=
  fun _ => ⟨.refl cursor, holds⟩

theorem refuse (report : Diagnostic) : Spans good cursor (throw (.refused report) : Reading α) :=
  fun _ => .refl cursor

theorem unfinished : Spans good cursor (throw .unfinished : Reading α) := fun _ => trivial

theorem get {next : Cursor → Reading α} (rest : Spans good cursor (next cursor)) :
    Spans good cursor (get >>= next) :=
  rest

theorem unexpected (expected : String) : Spans good cursor (unexpected expected : Reading α) := .get (.refuse _)

theorem failAt (issue : Issue) (span : Span) (token : Token) :
    Spans good cursor (failAt issue span token : Reading α) :=
  .get (.refuse _)

theorem kindHere {next : TokenKind → Reading α} (rest : Spans good cursor (next cursor.kind)) :
    Spans good cursor (kindHere >>= next) :=
  rest

theorem at? (kind : TokenKind) {next : Bool → Reading α} (rest : Spans good cursor (next (cursor.kind == kind))) :
    Spans good cursor (at? kind >>= next) :=
  rest

theorem atAny (kinds : List TokenKind) {next : Bool → Reading α}
    (rest : Spans good cursor (next (kinds.contains cursor.kind))) :
    Spans good cursor (atAny kinds >>= next) :=
  rest

theorem spanFrom (first : Location) {next : Span → Reading α}
    (rest : Spans good cursor (next ⟨first, cursor.previous.span.stop⟩)) :
    Spans good cursor (spanFrom first >>= next) :=
  rest

theorem both {test : Prop} [Decidable test] {first second : Reading α}
    (yes : test → Spans good cursor first) (no : ¬ test → Spans good cursor second) :
    Spans good cursor (if test then first else second) := by
  split
  · exact yes ‹_›
  · exact no ‹_›

theorem taken {takes fine : α → Prop} {twin : Reading α}
    (reads : Reads (cursor.ahead.length + 1) takes fine cursor reading twin) :
    Spans (fun value after => takes value → Gathered cursor cursor.current.span.start after []) cursor reading := by
  intro paced
  have leads := reads ⟨paced.ended, Nat.lt_succ_self _⟩
  cases ran : reading cursor with
  | ok value after =>
      rw [ran] at leads
      exact ⟨leads.1, fun took => leads.1.gathered paced (leads.2.1 took)⟩
  | error halt after =>
      rw [ran] at leads
      cases halt with
      | refused => exact leads
      | unfinished => trivial

theorem course {takes fine : α → Prop} {twin : Reading α}
    (reads : Reads (cursor.ahead.length + 1) takes fine cursor reading twin) : Spans Free cursor reading :=
  (taken reads).imply fun _ _ _ => trivial

section Loops

variable {σ : Type} {kept : σ → Cursor → Prop} {step : σ → Reading (σ × Bool)}

theorem repeatStep (steps : ∀ state after, kept state after → Spans (fun last => kept last.1) after (step state))
    (count : Nat) (state : σ) (begun : kept state cursor) : Spans kept cursor (repeatStep step count state) := by
  induction count generalizing state cursor with
  | zero => exact .unfinished
  | succ count ih =>
      refine (steps state cursor begun).bind fun last after _ held => .both (fun _ => ?_) fun _ => ?_
      · exact ih last.1 held
      · exact .pure _ held

theorem repeating (steps : ∀ state after, kept state after → Spans (fun last => kept last.1) after (step state))
    (state : σ) (begun : kept state cursor) : Spans kept cursor (repeating state step) :=
  .get (repeatStep steps _ state begun)

end Loops

theorem opening (going : cursor.kind ≠ .endOfFile) :
    Spans (fun token after => Gathered cursor token.span.start after [] ∧ token = cursor.current ∧
      after.previous = cursor.current) cursor advance := by
  intro paced
  obtain ⟨next, others, ahead⟩ := paced.ended.ahead going
  have passes := Passes.advance cursor
  have gathered := passes.gathered paced (advance_shorter paced.ended going)
  refine ⟨passes, gathered, rfl, ?_⟩
  rw [Cursor.advance_eq going ahead]

end Law

section Gathering

variable {α β : Type} {result : β → Cursor → Prop} {first cursor : Cursor} {start : Location}
  {parts : List Outline} {outline : α → Outline} {reading : Reading α} {next : α → Reading β}

theorem keeping {good : α → Cursor → Prop} (gathered : Gathered first start cursor parts)
    (read : Spans good cursor reading)
    (rest : ∀ value after, Gathered first start after parts → good value after → Spans result after (next value)) :
    Spans result cursor (reading >>= next) :=
  read.bind fun value after onward held => rest value after (gathered.further onward) held

theorem adding (gathered : Gathered first start cursor parts) (read : Spans (Read outline cursor) cursor reading)
    (rest : ∀ value after, Gathered first start after (outline value :: parts) → Spans result after (next value)) :
    Spans result cursor (reading >>= next) :=
  read.bind fun value after _ held => rest value after (gathered.add held)

theorem before {first cursor : Cursor} (onward : first.stand ≤ cursor.stand)
    (read : Spans (Read outline cursor) cursor reading) : Spans (Read outline first) cursor reading :=
  read.imply fun _ _ held => Held.earlier held onward

theorem closing (gathered : Gathered first start cursor parts) (value : Span → α)
    (place : ∀ span, (outline (value span)).span = span)
    (inside : ∀ span, (outline (value span)).children ⊆ parts) :
    Spans (Read outline first) cursor (Grammar.spanFrom start >>= fun span => Pure.pure (value span)) :=
  .spanFrom _ (.pure _ (gathered.close (place _) (inside _)))

theorem optionalAfter (gathered : Gathered first start cursor parts) (kind : TokenKind) (going : kind ≠ .endOfFile)
    (read : ∀ after, Spans (Read outline after) after reading) :
    Spans (fun found => Listed outline first start parts found.toList) cursor (optionalAfter kind reading) := by
  refine keeping gathered (.course (.accept kind going)) fun _ after gathered _ => .both (fun _ => ?_) fun _ => ?_
  · exact adding gathered (read after) fun _ _ gathered => .pure _ gathered
  · exact .pure _ gathered

theorem unlessAny (gathered : Gathered first start cursor parts) (kinds : List TokenKind)
    (read : Spans (Read outline cursor) cursor reading) :
    Spans (fun found => Listed outline first start parts found.toList) cursor (unlessAny kinds reading) := by
  refine .atAny _ (.both (fun _ => .pure _ gathered) fun _ => ?_)
  exact adding gathered read fun _ _ gathered => .pure _ gathered

theorem joined (gathered : Gathered first start cursor parts)
    (read : ∀ after, Spans (Read outline after) after reading) :
    Spans (Listed outline first start parts) cursor (joined reading) := by
  refine adding gathered (read cursor) fun value after gathered => ?_
  have loop : Spans (Listed outline first start parts) after
      (Grammar.repeating [value] (nextJoined reading)) := by
    refine repeating (fun values after gathered => ?_) [value] gathered
    refine keeping gathered (.course (.accept .comma (by decide))) fun _ after gathered _ => ?_
    refine .both (fun _ => ?_) fun _ => .pure _ gathered
    exact adding gathered (read after) fun _ _ gathered => .pure _ gathered
  exact loop.bind fun _ _ _ gathered => .pure _ (gathered.fewer (by simp))

end Gathering

end Spans

end Fiscal.Grammar
