/-!
# Tables sorted by name

A table is a list of named entries with rising names, so each name has at most one
entry. `put` keeps the order; a later entry takes the place of an earlier one of
the same name.
-/

set_option autoImplicit false

namespace Mosaic.Ordered

variable {α : Type}

/-- Adds an entry, in the place of one with the same name. -/
def put (name : String) (entry : α) : List (String × α) → List (String × α)
  | [] => [(name, entry)]
  | (name', entry') :: rest =>
    if name < name' then (name, entry) :: (name', entry') :: rest
    else if name = name' then (name, entry) :: rest
    else (name', entry') :: put name entry rest

/-- The entry with a name. -/
def find? (name : String) : List (String × α) → Option α
  | [] => none
  | (name', entry) :: rest => if name = name' then some entry else find? name rest

/-- The table of several entries; of those with one name the last remains. -/
def ofList (entries : List (String × α)) : List (String × α) :=
  entries.foldl (fun table e => put e.1 e.2 table) []

/-- An entry is found under its own name right after it was added. -/
@[simp] theorem find?_put_self (name : String) (entry : α) (table : List (String × α)) :
    find? name (put name entry table) = some entry := by
  induction table with
  | nil => simp [put, find?]
  | cons e rest ih =>
    obtain ⟨name', entry'⟩ := e
    unfold put
    split
    · simp [find?]
    · split
      · simp [find?]
      · simp [find?, *]

/-- Under other names all is found as before. -/
theorem find?_put_of_ne {name other : String} (apart : name ≠ other) (entry : α)
    (table : List (String × α)) : find? name (put other entry table) = find? name table := by
  induction table with
  | nil => simp [put, find?, apart]
  | cons e rest ih =>
    obtain ⟨name', entry'⟩ := e
    unfold put
    split
    · rw [find?, if_neg apart]
    · split
      · rename_i same
        rw [find?, find?, if_neg apart, if_neg (same ▸ apart)]
      · rw [find?, find?, ih]

end Mosaic.Ordered
