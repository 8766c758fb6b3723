set_option autoImplicit false

namespace Fiscal

abbrev Named (α : Type) := List (String × α)

namespace Named

variable {α : Type}

def names (entries : Named α) : List String := entries.map Prod.fst

def get? : Named α → String → Option α
  | [], _ => none
  | (name, value) :: rest, sought => if name = sought then some value else get? rest sought

def has (entries : Named α) (name : String) : Bool := (get? entries name).isSome

/-- Gives a name a value. A new name goes to the end, a known one keeps its position. -/
def put : Named α → String → α → Named α
  | [], name, value => [(name, value)]
  | (known, old) :: rest, name, value =>
      if known = name then (known, value) :: rest else (known, old) :: put rest name value

def putAll (entries additions : Named α) : Named α :=
  additions.foldl (fun entries addition => put entries addition.1 addition.2) entries

-- The entries with each name once, at its first position and with its last value.
def ofList (entries : List (String × α)) : Named α := putAll [] entries

end Named

end Fiscal
