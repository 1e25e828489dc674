/-!
# Tables

A table is a list of entries under text keys, in the order in which the keys came.  A key that is
set again keeps its place.

Main definitions:

* `Table.get?`, `Table.has` — looking up a key;
* `Table.set` — setting the value under a key;
* `Table.overlay` — laying the entries of one table over those of another;
* `Table.erase` — removing a key.
-/

set_option autoImplicit false

namespace Admission

/-- Entries under text keys. -/
abbrev Table (α : Type) := List (String × α)

namespace Table

variable {α : Type}

def get? (t : Table α) (key : String) : Option α := (t.find? (·.1 == key)).map (·.2)

def has (t : Table α) (key : String) : Bool := t.any (·.1 == key)

/-- Sets the value under a key: in place when the key is present, at the end otherwise. -/
def set (t : Table α) (key : String) (value : α) : Table α :=
  if has t key then t.map fun e => if e.1 == key then (e.1, value) else e
  else t ++ [(key, value)]

/-- The entries of the second table laid over those of the first. -/
def overlay (t updates : Table α) : Table α :=
  updates.foldl (fun acc e => set acc e.1 e.2) t

def erase (t : Table α) (key : String) : Table α := t.filter (·.1 != key)

/-- Changes the value under a key, if it is there. -/
def modify (t : Table α) (key : String) (f : α → α) : Table α :=
  t.map fun e => if e.1 == key then (e.1, f e.2) else e

end Table

end Admission
