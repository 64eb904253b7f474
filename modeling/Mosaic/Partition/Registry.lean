import Mosaic.Ordered
import Mosaic.Text.Quoted

/-!
# The registry of algorithms

A registry knows algorithms by name. Registering one under a name in use replaces
the earlier one. The names come in rising order.
-/

set_option autoImplicit false

namespace Mosaic

/-- What every registered algorithm provides. -/
def capability : String := "video splitter"

/-- Entries known by name, the names rising. -/
structure Registry (α : Type) where
  entries : List (String × α)

namespace Registry

variable {α β : Type}

/-- A registry without entries. -/
def empty : Registry α := ⟨[]⟩

/-- Registers an entry under a name. -/
def register (r : Registry α) (name : String) (entry : α) : Registry α :=
  ⟨Ordered.put name entry r.entries⟩

/-- The entry with a name. -/
def resolve? (r : Registry α) (name : String) : Option α := Ordered.find? name r.entries

/-- The same names with other entries. -/
def map (f : α → β) (r : Registry α) : Registry β := ⟨r.entries.map fun e => (e.1, f e.2)⟩

/-- The names in rising order. -/
def names (r : Registry α) : List String := r.entries.map Prod.fst

/-- The form in which a registry is shown: its quoted names. -/
def inspect (r : Registry α) : String :=
  "[" ++ ", ".intercalate (r.names.map Text.quote) ++ "]"

@[simp] theorem resolve?_register_self (r : Registry α) (name : String) (entry : α) :
    (r.register name entry).resolve? name = some entry :=
  Ordered.find?_put_self name entry r.entries

theorem resolve?_register_of_ne {name other : String} (apart : name ≠ other) (r : Registry α)
    (entry : α) : (r.register other entry).resolve? name = r.resolve? name :=
  Ordered.find?_put_of_ne apart entry r.entries

end Registry

end Mosaic
