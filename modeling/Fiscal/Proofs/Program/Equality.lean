import Fiscal.Program.Outline
import Fiscal.Proofs.Scope.Binding
import Mathlib.Data.List.Basic
import Mathlib.Data.List.Perm.Basic
import Mathlib.Data.List.Perm.Subperm

set_option autoImplicit false

namespace Fiscal

structure LawfulAt {α : Type} (good : α → Prop) (related : α → α → Prop) (x : α) : Prop where
  refl : related x x
  symm : ∀ y, good y → related x y → related y x
  trans : ∀ y z, related x y → related y z → related x z

section Lawful

variable {α β : Type} {good : α → Prop} {related : α → α → Prop}

theorem lawful_eq (x : α) : LawfulAt (fun _ => True) (fun x y => x = y) x where
  refl := rfl
  symm _ _ same := same.symm
  trans _ _ first second := first.trans second

theorem LawfulAt.on (part : β → α) (x : β) (lawful : LawfulAt good related (part x)) :
    LawfulAt (fun y => good (part y)) (fun x y => related (part x) (part y)) x where
  refl := lawful.refl
  symm y := lawful.symm (part y)
  trans y z := lawful.trans (part y) (part z)

theorem LawfulAt.and {known : α → Prop} {relation : α → α → Prop} {x : α} (first : LawfulAt good related x)
    (second : LawfulAt known relation x) :
    LawfulAt (fun y => good y ∧ known y) (fun x y => related x y ∧ relation x y) x where
  refl := ⟨first.refl, second.refl⟩
  symm y both same := ⟨first.symm y both.1 same.1, second.symm y both.2 same.2⟩
  trans y z before behind := ⟨first.trans y z before.1 behind.1, second.trans y z before.2 behind.2⟩

theorem LawfulAt.through {whole : β → Prop} {same : β → β → Prop} {x : α} (form : α → β)
    (opens : ∀ x w, same (form x) w ↔ ∃ y, w = form y ∧ related x y) (parts : ∀ y, whole (form y) → good y)
    (lawful : LawfulAt good related x) : LawfulAt whole same (form x) where
  refl := (opens x _).mpr ⟨x, rfl, lawful.refl⟩
  symm w known same := by
    obtain ⟨y, rfl, parted⟩ := (opens x w).mp same
    exact (opens y _).mpr ⟨x, rfl, lawful.symm y (parts y known) parted⟩
  trans v w first second := by
    obtain ⟨y, rfl, before⟩ := (opens x v).mp first
    obtain ⟨z, rfl, behind⟩ := (opens y w).mp second
    exact (opens x _).mpr ⟨z, rfl, lawful.trans y z before behind⟩

theorem lawful_places (xs : List α) (each : ∀ x ∈ xs, LawfulAt good related x) :
    LawfulAt (fun ys => ∀ y ∈ ys, good y) (List.Forall₂ related) xs where
  refl := by
    induction xs with
    | nil => exact .nil
    | cons x xs ih =>
        obtain ⟨first, others⟩ := List.forall_mem_cons.mp each
        exact .cons first.refl (ih others)
  symm ys known same := by
    induction same with
    | nil => exact .nil
    | cons one rest ih =>
        obtain ⟨first, others⟩ := List.forall_mem_cons.mp each
        obtain ⟨here, later⟩ := List.forall_mem_cons.mp known
        exact .cons (first.symm _ here one) (ih others later)
  trans ys zs first second := by
    induction first generalizing zs with
    | nil => exact second
    | cons one rest ih =>
        cases second with
        | cons other others =>
            obtain ⟨here, later⟩ := List.forall_mem_cons.mp each
            exact .cons (here.trans _ _ one other) (ih later _ others)

end Lawful

namespace Named

variable {α : Type} {related : α → α → Prop} {entries others : Named α}

theorem get?_of_mem (distinct : (names entries).Nodup) {name : String} {value : α}
    (member : (name, value) ∈ entries) : get? entries name = some value := by
  induction entries with
  | nil => cases member
  | cons entry rest ih =>
      obtain ⟨known, old⟩ := entry
      obtain ⟨fresh, later⟩ := List.nodup_cons.mp distinct
      rcases List.mem_cons.mp member with here | behind
      · cases here
        rw [get?, if_pos rfl]
      · have apart : known ≠ name := fun same =>
          fresh (List.mem_map.mpr ⟨_, behind, same.symm⟩)
        rw [get?, if_neg apart]
        exact ih later behind

theorem exists_of_perm (perm : (names entries).Perm (names others)) {entry : String × α} (member : entry ∈ entries) :
    ∃ other, (entry.1, other) ∈ others := by
  have named := perm.mem_iff.mp (List.mem_map_of_mem member)
  obtain ⟨⟨_, other⟩, inside, same⟩ := List.mem_map.mp named
  exact ⟨other, same ▸ inside⟩

def Matched (related : α → α → Prop) (entries others : Named α) : Prop :=
  ∀ name value, (name, value) ∈ entries → ∃ other, get? others name = some other ∧ related value other

theorem matched_cons (name : String) (value : α) :
    Matched related ((name, value) :: entries) others ↔
      (∃ other, get? others name = some other ∧ related value other) ∧ Matched related entries others := by
  refine ⟨fun matched => ⟨matched name value List.mem_cons_self,
    fun key item member => matched key item (List.mem_cons_of_mem _ member)⟩, ?_⟩
  rintro ⟨first, rest⟩ key item member
  rcases List.mem_cons.mp member with here | later
  · cases here
    exact first
  · exact rest key item later

theorem Matched.perm (matched : Matched related entries others) (distinct : (names entries).Nodup)
    (count : entries.length = others.length) : (names entries).Perm (names others) := by
  have within : names entries ⊆ names others := by
    intro name member
    obtain ⟨⟨_, value⟩, inside, rfl⟩ := List.mem_map.mp member
    obtain ⟨other, found, _⟩ := matched _ _ inside
    exact (get?_isSome_iff others _).mp (by rw [found]; rfl)
  refine (List.Nodup.subperm distinct within).perm_of_length_le (Nat.le_of_eq ?_)
  rw [names, names, List.length_map, List.length_map, count]

theorem lawful_matched {good : α → Prop} (distinct : (names entries).Nodup)
    (each : ∀ entry ∈ entries, LawfulAt good related entry.2) :
    LawfulAt (fun others => (names others).Nodup ∧ ∀ entry ∈ others, good entry.2)
      (fun entries others => entries.length = others.length ∧ Matched related entries others) entries where
  refl := ⟨rfl, fun name value member => ⟨value, get?_of_mem distinct member, (each _ member).refl⟩⟩
  symm others known same := by
    obtain ⟨count, matched⟩ := same
    refine ⟨count.symm, fun name value member => ?_⟩
    have named : name ∈ names entries :=
      (matched.perm distinct count).mem_iff.mpr (List.mem_map_of_mem member)
    obtain ⟨first, found⟩ := Option.isSome_iff_exists.mp ((get?_isSome_iff entries name).mpr named)
    have inside := mem_of_get? entries name first found
    obtain ⟨other, reached, alike⟩ := matched name first inside
    cases reached.symm.trans (get?_of_mem known.1 member)
    exact ⟨first, found, (each _ inside).symm _ (known.2 _ member) alike⟩
  trans others last first second := by
    obtain ⟨count, matched⟩ := first
    obtain ⟨total, continued⟩ := second
    refine ⟨count.trans total, fun name value member => ?_⟩
    obtain ⟨other, found, before⟩ := matched name value member
    obtain ⟨final, reached, behind⟩ := continued name other (mem_of_get? others name other found)
    exact ⟨final, reached, (each _ member).trans _ _ before behind⟩

theorem lookup_eq_get? (entries : Named α) (name : String) : entries.lookup name = get? entries name := by
  induction entries with
  | nil => rfl
  | cons entry rest ih =>
      obtain ⟨known, value⟩ := entry
      rw [List.lookup_cons, get?]
      by_cases same : known = name
      · rw [same, beq_self_eq_true, if_pos rfl]
      · rw [beq_eq_false_iff_ne.mpr (Ne.symm same), if_neg same]
        exact ih

end Named

namespace Outline

inductive Distinct : Outline → Prop where
  | node (title : String) (span : Source.Span) (fields : List (String × OutlineField))
      (child : ∀ name part, (name, .child part) ∈ fields → Distinct part)
      (children : ∀ name parts, (name, .children parts) ∈ fields → ∀ part ∈ parts, Distinct part)
      (names : ∀ name parts, (name, .entries parts) ∈ fields → (Named.names parts).Nodup)
      (entries : ∀ name parts, (name, .entries parts) ∈ fields → ∀ part ∈ parts, Distinct part.2) :
      Distinct (.node title span fields)

def Equal (first second : Outline) : Prop := first.same second = true

def EqualField : OutlineField → OutlineField → Prop
  | .scalar text, .scalar other => text = other
  | .scalars texts, .scalars others => texts = others
  | .child part, .child other => Equal part other
  | .children parts, .children others => List.Forall₂ Equal parts others
  | .entries parts, .entries others => parts.length = others.length ∧ Named.Matched Equal parts others
  | _, _ => False

theorem sameChildren_iff (parts others : List Outline) :
    sameChildren parts others = true ↔ List.Forall₂ Equal parts others := by
  induction parts generalizing others with
  | nil => cases others <;> simp [sameChildren]
  | cons part rest ih => cases others <;> simp [sameChildren, ih, Equal]

theorem sameEntries_iff (parts others : List (String × Outline)) :
    sameEntries parts others = true ↔ Named.Matched Equal parts others := by
  induction parts with
  | nil => exact iff_of_true (by rw [sameEntries]) (by rintro _ _ ⟨⟩)
  | cons part rest ih =>
      obtain ⟨name, tree⟩ := part
      rw [sameEntries, Bool.and_eq_true, ih, Named.matched_cons, Named.lookup_eq_get?]
      cases Named.get? others name with
      | none => simp
      | some other => simp [Equal]

theorem sameFields_iff (fields others : List (String × OutlineField)) :
    sameFields fields others = true ↔
      List.Forall₂ (fun field other => field.1 = other.1 ∧ EqualField field.2 other.2) fields others := by
  induction fields generalizing others with
  | nil => cases others <;> simp [sameFields]
  | cons field rest ih =>
      obtain ⟨name, held⟩ := field
      cases others with
      | nil => simp [sameFields]
      | cons other others =>
          obtain ⟨key, kept⟩ := other
          cases held <;> cases kept <;>
            simp [sameFields, EqualField, ih, Equal, sameChildren_iff, sameEntries_iff, and_assoc]

def DistinctField : OutlineField → Prop
  | .scalar _ | .scalars _ => True
  | .child part => Distinct part
  | .children parts => ∀ part ∈ parts, Distinct part
  | .entries parts => (Named.names parts).Nodup ∧ ∀ part ∈ parts, Distinct part.2

theorem Distinct.fields {title : String} {span : Source.Span} {fields : List (String × OutlineField)}
    (distinct : Distinct (.node title span fields)) (field : String × OutlineField) (member : field ∈ fields) :
    DistinctField field.2 := by
  obtain ⟨name, held⟩ := field
  cases distinct with
  | node _ _ _ child children names entries =>
      cases held with
      | scalar | scalars => trivial
      | child part => exact child name part member
      | children parts => exact children name parts member
      | entries parts => exact ⟨names name parts member, entries name parts member⟩

-- The laws at what a field holds, from the laws at the trees in it.
theorem lawful_field (field : OutlineField)
    (child : ∀ part, field = .child part → LawfulAt Distinct Equal part)
    (children : ∀ parts, field = .children parts → ∀ part ∈ parts, LawfulAt Distinct Equal part)
    (names : ∀ parts, field = .entries parts → (Named.names parts).Nodup)
    (entries : ∀ parts, field = .entries parts → ∀ part ∈ parts, LawfulAt Distinct Equal part.2) :
    LawfulAt DistinctField EqualField field := by
  cases field with
  | scalar text =>
      refine (lawful_eq text).through OutlineField.scalar (fun x w => ?_) fun _ _ => trivial
      cases w <;> simp [EqualField, @eq_comm _ x]
  | scalars texts =>
      refine (lawful_eq texts).through OutlineField.scalars (fun x w => ?_) fun _ _ => trivial
      cases w <;> simp [EqualField, @eq_comm _ x]
  | child part =>
      refine (child part rfl).through OutlineField.child (fun x w => ?_) fun _ distinct => distinct
      cases w <;> simp [EqualField]
  | children parts =>
      refine (lawful_places parts (children parts rfl)).through OutlineField.children (fun x w => ?_)
        fun _ distinct => distinct
      cases w <;> simp [EqualField]
  | entries parts =>
      refine (Named.lawful_matched (names parts rfl) (entries parts rfl)).through OutlineField.entries (fun x w => ?_)
        fun _ distinct => distinct
      cases w <;> simp [EqualField]

theorem equal_node (title : String) (span : Source.Span) (fields : List (String × OutlineField)) (tree : Outline) :
    Equal (.node title span fields) tree ↔ ∃ parts : (String × Source.Span) × List (String × OutlineField),
      tree = .node parts.1.1 parts.1.2 parts.2 ∧ (title, span) = parts.1 ∧
        List.Forall₂ (fun field other => field.1 = other.1 ∧ EqualField field.2 other.2) fields parts.2 := by
  cases tree with
  | node name place others => simp [Equal, same, sameFields_iff, and_assoc]

theorem lawful_outline {tree : Outline} (distinct : tree.Distinct) : LawfulAt Distinct Equal tree := by
  induction distinct with
  | node title span fields child children names entries each eachOf eachEntry =>
      have held (field : String × OutlineField) (member : field ∈ fields) :
          LawfulAt (fun field => True ∧ DistinctField field.2)
            (fun field other : String × OutlineField => field.1 = other.1 ∧ EqualField field.2 other.2) field := by
        obtain ⟨name, field⟩ := field
        have named := LawfulAt.on Prod.fst (name, field) (lawful_eq name)
        refine named.and (LawfulAt.on Prod.snd (name, field) (lawful_field field ?_ ?_ ?_ ?_))
        · rintro part rfl
          exact each name part member
        · rintro parts rfl
          exact eachOf name parts member
        · rintro parts rfl
          exact names name parts member
        · rintro parts rfl
          exact eachEntry name parts member
      have named := LawfulAt.on Prod.fst ((title, span), fields) (lawful_eq (title, span))
      refine (named.and (LawfulAt.on Prod.snd ((title, span), fields) (lawful_places fields held))).through
        (fun parts => Outline.node parts.1.1 parts.1.2 parts.2) (fun parts w => ?_) fun parts known => ?_
      · exact equal_node parts.1.1 parts.1.2 parts.2 w
      · exact ⟨trivial, fun field member => ⟨trivial, known.fields field member⟩⟩

end Outline

end Fiscal
