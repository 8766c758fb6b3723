import Fiscal.Proofs.Machine.Depth

set_option autoImplicit false

namespace Fiscal

open Machine

deriving instance DecidableEq for Fault

section Kinds

end Kinds

section Raising

variable {α β : Type} {machine after : Machine}

end Raising

section Quiet

variable {α : Type}

end Quiet

def Law.unless (failure : Failure) (settled : ∀ span, failure.located span = failure) : Law :=
  .free (fun _ => True) (fun stop => stop = failure) (fun _ _ => trivial) trivial trivial
    fun span stop same => by
      rw [same]
      exact settled span

theorem unless_parts (failure : Failure) (settled : ∀ span, failure.located span = failure)
    (parts : Evaluator) (keeps : Law.anything.Parts parts parts) :
    (Law.unless failure settled).Parts parts parts where
  evaluate expr machine code := ⟨fun _ => .inl rfl, (keeps.evaluate expr machine code).ends⟩
  execute stmt machine code := ⟨fun _ => .inl rfl, (keeps.execute stmt machine code).ends⟩
  call callee arguments name machine heldCallee held :=
    ⟨fun _ => .inl rfl, (keeps.call callee arguments name machine heldCallee held).ends⟩

def Law.without (fault : Fault) : Law :=
  .free (fun failure => failure ≠ .fault fault) (fun _ => False) (fun _ _ same => by cases same)
    (fun same => by cases same) (fun same => by cases same) fun _ _ stopped => stopped

section Quiet

variable {α : Type} {declares : Bool} {good : Machine → α → Prop}

variable (fault : Fault) (parts : Evaluator) (keeps : Law.anything.Parts parts parts)

include keeps

end Quiet

end Fiscal
