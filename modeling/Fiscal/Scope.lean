import Fiscal.Named

set_option autoImplicit false

namespace Fiscal

structure Scope (α : Type) where
  bindings : Named α
  parent : Option Nat

abbrev Scopes (α : Type) := Array (Scope α)

namespace Scopes

variable {α : Type}

def global (bindings : Named α) : Scopes α := #[⟨bindings, none⟩]

def chainFrom (scopes : Scopes α) : Nat → Nat → List Nat
  | 0, _ => []
  | steps + 1, scope =>
      match scopes[scope]? with
      | none => []
      | some found =>
          match found.parent with
          | none => [scope]
          | some outer => scope :: chainFrom scopes steps outer

-- A scope and those around it; numbers fall along the chain, which bounds its length.
def chain (scopes : Scopes α) (scope : Nat) : List Nat := chainFrom scopes (scope + 1) scope

def local? (scopes : Scopes α) (scope : Nat) (name : String) : Option α :=
  scopes[scope]?.bind fun found => found.bindings.get? name

def binds (scopes : Scopes α) (name : String) (scope : Nat) : Bool :=
  (scopes.local? scope name).isSome

def owner? (scopes : Scopes α) (scope : Nat) (name : String) : Option Nat :=
  (scopes.chain scope).find? (scopes.binds name)

def get? (scopes : Scopes α) (scope : Nat) (name : String) : Option α :=
  (scopes.owner? scope name).bind fun owner => scopes.local? owner name

def contains (scopes : Scopes α) (scope : Nat) (name : String) : Bool :=
  (scopes.owner? scope name).isSome

def define (scopes : Scopes α) (scope : Nat) (name : String) (value : α) : Scopes α :=
  scopes.modify scope fun found => { found with bindings := found.bindings.put name value }

def assign? (scopes : Scopes α) (scope : Nat) (name : String) (value : α) : Option (Scopes α) :=
  (scopes.owner? scope name).map fun owner => scopes.define owner name value

def enter (scopes : Scopes α) (outer : Nat) : Scopes α := scopes.push ⟨[], some outer⟩

def root (scopes : Scopes α) (scope : Nat) : Nat := (scopes.chain scope).getLast?.getD scope

def global? (scopes : Scopes α) (scope : Nat) (name : String) : Option α :=
  scopes.local? (scopes.root scope) name

def outer? (scopes : Scopes α) (scope : Nat) (name : String) : Option α :=
  (scopes[scope]?.bind Scope.parent).bind fun outer => scopes.get? outer name

end Scopes

end Fiscal
