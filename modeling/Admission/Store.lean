import Admission.Rule.Normal

/-!
# The rule store

The rules in force, in a list.  Ids tell the rules apart, so a rule that comes with an id in use is
given a fresh one.  The place in the list does not matter for evaluation, which goes by priority
and id, but the list is what is saved.

All operations take arguments of any shape; what names no rule changes nothing.

Main definitions:

* `Store` — the rules;
* `Store.replace`, `Store.create`, `Store.update`, `Store.delete`, `Store.reorder`,
  `Store.toggle` — the operations;
* `Store.rank?` — the place that a list of ids gives to an id.
-/

set_option autoImplicit false

namespace Admission

/-- The rules in force. -/
structure Store where
  rules : List Rule

namespace Store

def empty : Store := ⟨[]⟩

instance : Inhabited Store := ⟨empty⟩

def ids (s : Store) : List String := s.rules.map (·.id)

def sorted (s : Store) : List Rule := Rule.sort s.rules

def get? (s : Store) (id : String) : Option Rule := s.rules.find? (·.id == id)

/-- The rule whose id a value names. -/
def find? (s : Store) : Value → Option Rule
  | .str id => s.get? id
  | _ => none

/-! ### Putting rules in -/

/-- A rule that was given a new id because its own was in use. -/
structure Renaming where
  former : String
  current : String
  deriving DecidableEq, Repr

/-- Appends a rule, under a fresh id when its own is in use. -/
def append (s : Store) (r : Rule) (supply : Supply) :
    Option (Rule × Store × Supply) :=
  if s.ids.contains r.id then
    (supply.freshId? s.ids).map fun (id, supply) =>
      let r := { r with id := id }
      (r, ⟨s.rules ++ [r]⟩, supply)
  else some (r, ⟨s.rules ++ [r]⟩, supply)

/-- Appends rules one after the other, and tells which of them had to be renamed. -/
def appendAll : Store → List Rule → Supply → Option (Store × List Renaming × Supply)
  | s, [], supply => some (s, [], supply)
  | s, r :: rest, supply => do
    let (placed, s, supply) ← s.append r supply
    let (s, renamings, supply) ← appendAll s rest supply
    return (s, if placed.id = r.id then renamings else ⟨r.id, placed.id⟩ :: renamings, supply)

def replace (rules : List Rule) (supply : Supply) : Option (Store × List Renaming × Supply) :=
  appendAll empty rules supply

/-- Adds the rule that a value describes.  What counts as false describes an empty rule. -/
def create (s : Store) (data : Value) (supply : Supply) : Option (Rule × Store × Supply) :=
  let (r, supply) := Rule.ofValue (if data.truthy then data else .ofFields []) supply
  -- an id that is in use costs a second draw
  s.append r supply

/-! ### Changing rules -/

/-- The list with a rule in place of the first one with its id. -/
def putFirst (r : Rule) : List Rule → List Rule
  | [] => []
  | q :: rest => if q.id == r.id then r :: rest else q :: putFirst r rest

def put (s : Store) (r : Rule) : Store := ⟨putFirst r s.rules⟩

/-- The rule with the given entries laid over it.  The id stays. -/
def overlay (r : Rule) (entries : Fields) : Rule :=
  Rule.ofFieldsWithId r.id ((r.toFields.overlay entries).set "id" (.str r.id))

/-- Lays the entries of a mapping over the rule that it names by its id. -/
def update (s : Store) (data : Value) : Option (Rule × Store) :=
  match data with
  | .mapping _ entries _ =>
    let id := Fields.getD entries "id"
    if id.truthy then
      (s.find? id).map fun r =>
        let r := overlay r entries
        (r, s.put r)
    else none
  | _ => none

def toggle (s : Store) (id enabled : Value) : Option (Rule × Store) :=
  if id.truthy then
    (s.find? id).map fun r =>
      let r := { r with enabled := enabled.truthy }
      (r, s.put r)
  else none

def delete (s : Store) (id : Value) : Option Store :=
  (s.find? id).map fun r => ⟨s.rules.eraseP (·.id == r.id)⟩

/-! ### Order -/

/-- The texts of a list with their places in it. -/
def places (ids : List Value) : List (String × Nat) :=
  ids.zipIdx.filterMap fun (v, place) => v.str?.map fun id => (id, place)

/-- The place that a list gives to an id: the last one, if it occurs several times. -/
def rank? (ids : List Value) (id : String) : Option Nat :=
  (places ids).reverse.lookup id

/-- The number of different texts in a list, which is the place of every id that is not in it. -/
def unranked (ids : List Value) : Nat := (ids.filterMap Value.str?).eraseDups.length

/-- The place by which a rule is ordered. -/
def rankOf (ids : List Value) (r : Rule) : Nat := (rank? ids r.id).getD (unranked ids)

/-- The rules with their places in the list as priorities. -/
def numbered (rules : List Rule) : List Rule :=
  rules.zipIdx.map fun (r, place) => { r with priority := (place : Int) }

/-- Orders the rules by the places of their ids in a list, those that are not in it keeping their
order of evaluation, and numbers them anew.  What is neither a list nor a tuple orders nothing. -/
def reorder (s : Store) (ids : Value) : Option Store :=
  ids.items?.map fun ids =>
    -- the sort is stable, so rules of equal rank stay in the order of evaluation
    ⟨numbered (s.sorted.mergeSort fun a b => rankOf ids a ≤ rankOf ids b)⟩

end Store

end Admission
