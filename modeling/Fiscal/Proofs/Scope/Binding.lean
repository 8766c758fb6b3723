import Fiscal.Scope

set_option autoImplicit false

namespace Fiscal

namespace Named

variable {α : Type}

theorem mem_of_get? (entries : Named α) (name : String) (value : α)
    (found : get? entries name = some value) : (name, value) ∈ entries := by
  induction entries with
  | nil => simp [get?] at found
  | cons entry rest ih =>
      obtain ⟨known, old⟩ := entry
      by_cases same : known = name
      · have eq : old = value := by simpa [get?, same] using found
        simp [same, eq]
      · exact List.mem_cons_of_mem _ (ih (by simpa [get?, same] using found))

theorem get?_isSome_iff (entries : Named α) (name : String) :
    (get? entries name).isSome = true ↔ name ∈ names entries := by
  induction entries with
  | nil => simp [get?, names]
  | cons entry rest ih =>
      obtain ⟨known, old⟩ := entry
      simp only [names, List.map_cons, List.mem_cons]
      by_cases same : known = name
      · simp [get?, same]
      · simpa [get?, same, Ne.symm same, names] using ih

theorem mem_put (entries : Named α) (name : String) (value : α) (entry : String × α)
    (member : entry ∈ put entries name value) : entry ∈ entries ∨ entry.2 = value := by
  induction entries with
  | nil =>
      have eq : entry = (name, value) := by simpa [put] using member
      simp [eq]
  | cons first rest ih =>
      obtain ⟨known, old⟩ := first
      by_cases same : known = name
      · rw [put, if_pos same] at member
        rcases List.mem_cons.mp member with here | later
        · simp [here]
        · exact .inl (List.mem_cons_of_mem _ later)
      · rw [put, if_neg same] at member
        rcases List.mem_cons.mp member with here | later
        · simp [here]
        · rcases ih later with kept | fresh
          · exact .inl (List.mem_cons_of_mem _ kept)
          · exact .inr fresh

theorem names_put_known (entries : Named α) (name : String) (value : α)
    (known : name ∈ names entries) : names (put entries name value) = names entries := by
  induction entries with
  | nil => simp [names] at known
  | cons first rest ih =>
      obtain ⟨other, old⟩ := first
      by_cases same : other = name
      · simp [put, same, names]
      · have later : name ∈ names rest := by
          rcases List.mem_cons.mp known with here | later
          · exact absurd here.symm same
          · exact later
        simpa [put, same, names] using ih later

theorem names_put_new (entries : Named α) (name : String) (value : α)
    (unknown : name ∉ names entries) : names (put entries name value) = names entries ++ [name] := by
  induction entries with
  | nil => rfl
  | cons first rest ih =>
      obtain ⟨other, old⟩ := first
      have different : other ≠ name := fun same => unknown (by simp [names, same])
      have later : name ∉ names rest := fun member => unknown (List.mem_cons_of_mem _ member)
      simpa [put, different, names] using ih later

theorem nodup_put (entries : Named α) (name : String) (value : α) (distinct : (names entries).Nodup) :
    (names (put entries name value)).Nodup := by
  by_cases known : name ∈ names entries
  · rwa [names_put_known entries name value known]
  · rw [names_put_new entries name value known]
    refine List.nodup_append.mpr ⟨distinct, by simp, fun other member last among same => ?_⟩
    rw [List.mem_singleton.mp among] at same
    exact known (same ▸ member)

theorem nodup_putAll (entries additions : Named α) (distinct : (names entries).Nodup) :
    (names (putAll entries additions)).Nodup := by
  induction additions generalizing entries with
  | nil => exact distinct
  | cons addition rest ih => exact ih _ (nodup_put entries _ _ distinct)

theorem names_prefix_put (entries : Named α) (name : String) (value : α) :
    names entries <+: names (put entries name value) := by
  by_cases known : name ∈ names entries
  · exact ⟨[], (List.append_nil _).trans (names_put_known entries name value known).symm⟩
  · rw [names_put_new entries name value known]
    exact List.prefix_append _ _

end Named

namespace Scopes

variable {α : Type}

def namesAt (scopes : Scopes α) (scope : Nat) : List String :=
  ((scopes[scope]?).map fun found => found.bindings.names).getD []

def Holds (scopes : Scopes α) (scope : Nat) (value : α) : Prop :=
  ∃ found name, scopes[scope]? = some found ∧ (name, value) ∈ found.bindings

theorem binds_iff (scopes : Scopes α) (name : String) (scope : Nat) :
    scopes.binds name scope = true ↔ name ∈ scopes.namesAt scope := by
  cases access : scopes[scope]? with
  | none => simp [binds, local?, namesAt, access]
  | some found => simp [binds, local?, namesAt, access, Named.get?_isSome_iff]

theorem holds_of_local (scopes : Scopes α) (scope : Nat) (name : String) (value : α)
    (found : scopes.local? scope name = some value) : scopes.Holds scope value := by
  obtain ⟨place, access, bound⟩ := Option.bind_eq_some_iff.mp found
  exact ⟨place, name, access, Named.mem_of_get? place.bindings name value bound⟩

theorem holds_of_get (scopes : Scopes α) (scope : Nat) (name : String) (value : α)
    (found : scopes.get? scope name = some value) :
    ∃ owner, scopes.owner? scope name = some owner ∧ scopes.Holds owner value := by
  obtain ⟨owner, owned, bound⟩ := Option.bind_eq_some_iff.mp found
  exact ⟨owner, owned, holds_of_local scopes owner name value bound⟩

theorem owner_binds (scopes : Scopes α) (scope owner : Nat) (name : String)
    (owned : scopes.owner? scope name = some owner) : name ∈ scopes.namesAt owner :=
  (binds_iff scopes name owner).mp (List.find?_some owned)

@[simp] theorem size_define (scopes : Scopes α) (scope : Nat) (name : String) (value : α) :
    (scopes.define scope name value).size = scopes.size := by
  simp [define]

theorem parent_define (scopes : Scopes α) (scope other : Nat) (name : String) (value : α) :
    ((scopes.define scope name value)[other]?).map Scope.parent =
      (scopes[other]?).map Scope.parent := by
  rw [define, Array.getElem?_modify]
  by_cases same : scope = other
  · cases scopes[other]? <;> simp [same]
  · rw [if_neg same]

theorem access_define (scopes : Scopes α) (place scope : Nat) (name : String) (value : α) (apart : scope ≠ place) :
    (scopes.define place name value)[scope]? = scopes[scope]? := by
  rw [define, Array.getElem?_modify, if_neg apart.symm]

theorem names_define_elsewhere (scopes : Scopes α) (scope other : Nat) (name : String) (value : α)
    (different : other ≠ scope) :
    (scopes.define scope name value).namesAt other = scopes.namesAt other := by
  rw [namesAt, access_define scopes scope other name value different, ← namesAt]

theorem names_define_known (scopes : Scopes α) (scope other : Nat) (name : String) (value : α)
    (known : name ∈ scopes.namesAt scope) :
    (scopes.define scope name value).namesAt other = scopes.namesAt other := by
  by_cases same : other = scope
  · subst other
    cases access : scopes[scope]? with
    | none => simp [namesAt, define, Array.getElem?_modify, access]
    | some found =>
        have bound : name ∈ found.bindings.names := by simpa [namesAt, access] using known
        simp [namesAt, define, Array.getElem?_modify, access,
          Named.names_put_known found.bindings name value bound]
  · exact names_define_elsewhere scopes scope other name value same

theorem names_prefix_define (scopes : Scopes α) (scope other : Nat) (name : String) (value : α) :
    scopes.namesAt other <+: (scopes.define scope name value).namesAt other := by
  by_cases same : other = scope
  · subst other
    cases access : scopes[scope]? with
    | none => simp [namesAt, define, Array.getElem?_modify, access]
    | some found =>
        simpa [namesAt, define, Array.getElem?_modify, access] using
          Named.names_prefix_put found.bindings name value
  · have kept := names_define_elsewhere scopes scope other name value same
    exact ⟨[], (List.append_nil _).trans kept.symm⟩

theorem holds_define (scopes : Scopes α) (scope other : Nat) (name : String) (value held : α)
    (holds : (scopes.define scope name value).Holds other held) :
    scopes.Holds other held ∨ held = value := by
  obtain ⟨found, known, access, member⟩ := holds
  rw [define, Array.getElem?_modify] at access
  by_cases same : scope = other
  · rw [if_pos same] at access
    obtain ⟨former, before, rfl⟩ := Option.map_eq_some_iff.mp access
    rcases Named.mem_put former.bindings name value (known, held) member with kept | fresh
    · exact .inl ⟨former, known, before, kept⟩
    · exact .inr fresh
  · rw [if_neg same] at access
    exact .inl ⟨found, known, access, member⟩

@[simp] theorem size_enter (scopes : Scopes α) (outer : Nat) :
    (scopes.enter outer).size = scopes.size + 1 := by
  simp [enter]

theorem access_enter (scopes : Scopes α) (outer scope : Nat) (old : scope < scopes.size) :
    (scopes.enter outer)[scope]? = scopes[scope]? := by
  rw [enter, Array.getElem?_push, if_neg (Nat.ne_of_lt old)]

theorem access_entered (scopes : Scopes α) (outer : Nat) :
    (scopes.enter outer)[scopes.size]? = some ⟨[], some outer⟩ := by
  simp [enter]

theorem names_enter (scopes : Scopes α) (outer scope : Nat) (old : scope < scopes.size) :
    (scopes.enter outer).namesAt scope = scopes.namesAt scope := by
  rw [namesAt, access_enter scopes outer scope old, ← namesAt]

theorem holds_enter (scopes : Scopes α) (outer scope : Nat) (held : α)
    (holds : (scopes.enter outer).Holds scope held) : scopes.Holds scope held := by
  obtain ⟨found, name, access, member⟩ := holds
  rw [enter, Array.getElem?_push] at access
  by_cases fresh : scope = scopes.size
  · rw [if_pos fresh] at access
    cases access
    simp at member
  · rw [if_neg fresh] at access
    exact ⟨found, name, access, member⟩

end Scopes

namespace Named

variable {α : Type}

theorem get?_put (entries : Named α) (name other : String) (value : α) :
    get? (put entries name value) other = if name = other then some value else get? entries other := by
  induction entries with
  | nil => rfl
  | cons entry rest ih =>
      obtain ⟨known, old⟩ := entry
      by_cases same : known = name
      · subst same
        by_cases sought : known = other
        · simp [put, get?, sought]
        · simp [put, get?, sought]
      · rw [put, if_neg same, get?, get?, ih]
        by_cases first : known = other
        · rw [if_pos first, if_pos first, if_neg fun here => same (first.trans here.symm)]
        · rw [if_neg first, if_neg first]

theorem get?_map {β : Type} (change : α → β) (entries : Named α) (name : String) :
    get? (entries.map fun entry => (entry.1, change entry.2)) name = (get? entries name).map change := by
  induction entries with
  | nil => rfl
  | cons entry rest ih =>
      rw [List.map_cons, get?, get?]
      by_cases same : entry.1 = name
      · rw [if_pos same, if_pos same]
        rfl
      · rw [if_neg same, if_neg same, ih]

theorem put_map {β : Type} (change : α → β) (entries : Named α) (name : String) (value : α) :
    put (entries.map fun entry => (entry.1, change entry.2)) name (change value) =
      (put entries name value).map fun entry => (entry.1, change entry.2) := by
  induction entries with
  | nil => rfl
  | cons entry rest ih =>
      rw [put, List.map_cons, put]
      by_cases same : entry.1 = name
      · rw [if_pos same, if_pos same, List.map_cons]
      · rw [if_neg same, if_neg same, List.map_cons, ih]

theorem put_same (entries : Named α) (name : String) (value : α)
    (found : get? entries name = some value) : put entries name value = entries := by
  induction entries with
  | nil => cases found
  | cons entry rest ih =>
      obtain ⟨known, old⟩ := entry
      by_cases same : known = name
      · rw [get?, if_pos same] at found
        cases found
        rw [put, if_pos same]
      · rw [get?, if_neg same] at found
        rw [put, if_neg same, ih found]

end Named

namespace Scopes

variable {α : Type}

theorem local?_define (scopes : Scopes α) (place scope : Nat) (name other : String) (value : α)
    (known : place < scopes.size) :
    (scopes.define place name value).local? scope other =
      if place = scope ∧ name = other then some value else scopes.local? scope other := by
  rw [local?, define, Array.getElem?_modify]
  by_cases here : place = scope
  · subst here
    rw [if_pos rfl, Array.getElem?_eq_getElem known]
    simp [local?, Array.getElem?_eq_getElem known, Named.get?_put]
  · rw [if_neg here, if_neg fun both => here both.1, local?]

theorem define_same (scopes : Scopes α) (place : Nat) (name : String) (value : α)
    (found : scopes.local? place name = some value) : scopes.define place name value = scopes := by
  obtain ⟨scope, access, bound⟩ := Option.bind_eq_some_iff.mp found
  refine Array.ext_getElem? fun other => ?_
  rw [define, Array.getElem?_modify]
  by_cases here : place = other
  · subst here
    rw [if_pos rfl, access, Option.map_some, Named.put_same scope.bindings name value bound]
  · rw [if_neg here]

theorem chainFrom_define (scopes : Scopes α) (place : Nat) (name : String) (value : α)
    (steps scope : Nat) :
    (scopes.define place name value).chainFrom steps scope = scopes.chainFrom steps scope := by
  induction steps generalizing scope with
  | zero => rfl
  | succ steps ih =>
      have parent := parent_define scopes place scope name value
      unfold chainFrom
      cases before : scopes[scope]? with
      | none =>
          rw [before] at parent
          rw [Option.map_eq_none_iff.mp parent]
      | some found =>
          rw [before] at parent
          obtain ⟨changed, after, same⟩ := Option.map_eq_some_iff.mp parent
          rw [after]
          dsimp only
          rw [same]
          cases found.parent with
          | none => rfl
          | some outer => exact congrArg (List.cons scope) (ih outer)

@[simp] theorem chain_define (scopes : Scopes α) (place scope : Nat) (name : String) (value : α) :
    (scopes.define place name value).chain scope = scopes.chain scope :=
  chainFrom_define scopes place name value (scope + 1) scope

theorem binds_define (scopes : Scopes α) (place scope : Nat) (name other : String) (value : α)
    (known : place < scopes.size) :
    (scopes.define place name value).binds other scope =
      (decide (place = scope ∧ name = other) || scopes.binds other scope) := by
  rw [binds, local?_define scopes place scope name other value known]
  by_cases here : place = scope ∧ name = other
  · simp [here]
  · rw [if_neg here, decide_eq_false here, Bool.false_or, binds]

theorem owner?_define (scopes : Scopes α) (place scope : Nat) (name other : String) (value : α)
    (known : place < scopes.size) :
    (scopes.define place name value).owner? scope other = some place ∧ name = other ∨
      (scopes.define place name value).owner? scope other = scopes.owner? scope other := by
  unfold owner?
  rw [chain_define]
  generalize scopes.chain scope = chain
  induction chain with
  | nil => exact .inr rfl
  | cons first rest ih =>
      rw [List.find?_cons, List.find?_cons, binds_define scopes place first name other value known]
      by_cases here : place = first ∧ name = other
      · rw [decide_eq_true here, Bool.true_or]
        exact .inl ⟨congrArg some here.1.symm, here.2⟩
      · rw [decide_eq_false here, Bool.false_or]
        cases scopes.binds other first with
        | true => exact .inr rfl
        | false => exact ih

theorem get?_define (scopes : Scopes α) (place scope : Nat) (name other : String) (value : α)
    (known : place < scopes.size) :
    (scopes.define place name value).get? scope other =
      if (scopes.define place name value).owner? scope other = some place ∧ name = other then some value
      else scopes.get? scope other := by
  rw [get?]
  rcases owner?_define scopes place scope name other value known with ⟨owned, same⟩ | owned
  · rw [owned, if_pos ⟨rfl, same⟩, Option.bind_some, local?_define _ _ _ _ _ _ known, if_pos ⟨rfl, same⟩]
  · rw [owned]
    cases found : scopes.owner? scope other with
    | none => simp [get?, found]
    | some owner =>
        rw [Option.bind_some, local?_define _ _ _ _ _ _ known, get?, found, Option.bind_some]
        by_cases here : place = owner ∧ name = other
        · rw [if_pos here, if_pos ⟨congrArg some here.1.symm, here.2⟩]
        · rw [if_neg here, if_neg fun both => here ⟨(Option.some.inj both.1).symm, both.2⟩]

theorem get?_define_outside (scopes : Scopes α) (place scope : Nat) (name other : String) (value : α)
    (known : place < scopes.size) (outside : place ∉ scopes.chain scope) :
    (scopes.define place name value).get? scope other = scopes.get? scope other := by
  rw [get?_define scopes place scope name other value known, if_neg]
  rintro ⟨owned, _⟩
  have member := List.mem_of_find?_eq_some owned
  rw [chain_define] at member
  exact outside member

theorem chain_cons (scopes : Scopes α) (scope : Nat) (known : scope < scopes.size) :
    ∃ outer, scopes.chain scope = scope :: outer := by
  unfold chain chainFrom
  rw [Array.getElem?_eq_getElem known]
  dsimp only
  split
  · exact ⟨[], rfl⟩
  · exact ⟨_, rfl⟩

theorem owner?_here (scopes : Scopes α) (scope : Nat) (name : String) (known : scope < scopes.size)
    (bound : scopes.binds name scope = true) : scopes.owner? scope name = some scope := by
  obtain ⟨outer, chain⟩ := chain_cons scopes scope known
  rw [owner?, chain, List.find?_cons, bound]

theorem get?_define_here (scopes : Scopes α) (place : Nat) (name : String) (value : α)
    (known : place < scopes.size) : (scopes.define place name value).get? place name = some value := by
  have owned : (scopes.define place name value).owner? place name = some place := by
    refine owner?_here _ place name (by rwa [size_define]) ?_
    rw [binds_define _ _ _ _ _ _ known]
    simp
  rw [get?_define scopes place place name name value known, if_pos ⟨owned, rfl⟩]

theorem owned_known (scopes : Scopes α) (scope owner : Nat) (name : String)
    (owned : scopes.owner? scope name = some owner) : scope < scopes.size := by
  by_cases known : scope < scopes.size
  · exact known
  · have empty : scopes.chain scope = [] := by
      unfold chain chainFrom
      rw [Array.getElem?_eq_none (Nat.le_of_not_lt known)]
    rw [owner?, empty] at owned
    cases owned

end Scopes

end Fiscal
