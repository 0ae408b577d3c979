/-!
# Records

A record holds named values in increasing order of name, by code point. Rows, JSON objects and
tables by name are records.

* `get?_insert_self`, `get?_insert_of_ne`: an insertion is seen under its own name and no other.
-/

namespace Fieldwork

/-- Named values in increasing order of name. -/
abbrev Record (α : Type) := List (String × α)

namespace Record

variable {α : Type}

def get? : Record α → String → Option α
  | [], _ => none
  | (n, v) :: rest, name => if n = name then some v else get? rest name

def names (r : Record α) : List String :=
  r.map Prod.fst

/-- Replaces the value under a name that is there, and puts a new name in its place in the order. -/
def insert (name : String) (value : α) : Record α → Record α
  | [] => [(name, value)]
  | (n, v) :: rest =>
    if name < n then (name, value) :: (n, v) :: rest
    else if n = name then (name, value) :: rest
    else (n, v) :: insert name value rest

/-- Writes the entries over the record, one after another. -/
def overlay (r : Record α) (entries : List (String × α)) : Record α :=
  entries.foldl (fun acc entry => insert entry.1 entry.2 acc) r

/-- The record of a list of pairs; of a repeated name the last value counts. -/
def ofList (entries : List (String × α)) : Record α :=
  overlay [] entries

@[simp] theorem get?_insert_self (name : String) (value : α) (r : Record α) :
    get? (insert name value r) name = some value := by
  induction r with
  | nil => simp [insert, get?]
  | cons entry rest ih => grind [insert, get?]

theorem get?_insert_of_ne {name other : String} (h : other ≠ name) (value : α) (r : Record α) :
    get? (insert name value r) other = get? r other := by
  induction r with
  | nil => simp [insert, get?, h.symm]
  | cons entry rest ih => grind [insert, get?]

end Record

end Fieldwork
