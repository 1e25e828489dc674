import Admission.Host.Walk
import Admission.Log

/-!
# Guards on a host

Rules for plugins are enforced where the host admits sessions to a plugin: at the predicate of the
context that is the parent of the plugin's fork.  Where some enabled rule names a plugin that runs,
a guard is put before the predicate.  A ledger says what was put where, so that everything can be
taken back: a guard is only removed where it still stands outermost, since the host may have
replaced the predicate in the meantime.

Every round first takes back all guards and then puts new ones, so no context has two guards of one
ledger.

Main definitions:

* `Injection`, `Ledger` — what was put where;
* `Ledger.restore` — taking everything back;
* `Ledger.sync` — a new round.
-/

set_option autoImplicit false

namespace Admission

/-- A guard that was put before the predicate of a context. -/
structure Injection where
  context : String
  base : Predicate
  guard : Guard

/-- What was put where. -/
structure Ledger where
  /-- Whose rules the guards read. -/
  owner : Nat
  /-- The serial number of the next guard. -/
  next : Nat
  injections : List Injection

namespace Ledger

def empty (owner : Nat) : Ledger := ⟨owner, 0, []⟩

/-- Puts the guarded predicate of one context back, if the guard still stands outermost. -/
def restoreOne (h : Host) (i : Injection) : Host :=
  if (h.predicate? i.context).bind Predicate.guard? = some i.guard then
    h.setPredicate i.context (some i.base)
  else h

/-- Takes back all guards. -/
def restore (l : Ledger) (h : Host) : Ledger × Host :=
  ({ l with injections := [] }, l.injections.foldl restoreOne h)

def addKey (pending : Table (List String)) (context key : String) : Table (List String) :=
  pending.set context ((Table.get? pending context).getD [] ++ [key])

/-- The contexts that need a guard, each with the keys to be enforced there: the parents of the
forks whose key some rule names, where there is a predicate. -/
def pending (h : Host) (active : List String) (forks : Table (Option String)) :
    Table (List String) :=
  forks.foldl (fun acc e =>
    match h.parentOf? e.2 with
    | none => acc
    | some context =>
      if (h.predicate? context).isSome && active.contains e.1 then addKey acc context e.1
      else acc) []

/-- Puts a guard before the predicate of a context. -/
def install (state : Ledger × Host) (entry : String × List String) : Ledger × Host :=
  let (l, h) := state
  match h.predicate? entry.1 with
  | none => (l, h)
  | some base =>
    let guard : Guard := ⟨l.owner, l.next, entry.2⟩
    ({ l with next := l.next + 1, injections := l.injections ++ [⟨entry.1, base, guard⟩] },
     h.setPredicate entry.1 (some (.guarded guard base)))

/-- The entry that says how many guards there are. -/
def installedEntry (guards keys : Nat) : Report :=
  .entry ⟨.debug, .guards, "Installed " ++ Nat.repr guards ++ " admission wrappers for "
    ++ Nat.repr keys ++ " active plugin keys"⟩

/-- Takes back all guards and puts new ones for the given rules and forks. -/
def sync (l : Ledger) (h : Host) (rules : List Rule) (forks : Table (Option String)) :
    Ledger × Host × List Report :=
  -- old guards go first, so that the new ones stand before the predicates of the host itself
  let (l, h) := l.restore h
  let active := activeKeys rules
  let (l, h) := (pending h active forks).foldl install (l, h)
  (l, h, [.of "native-filter:sync:start" [("activeTargetCount", TraceEvent.count active.length),
      ("discoveredForks", TraceEvent.count forks.length)],
    installedEntry l.injections.length active.length,
    .of "native-filter:sync:done" [("activeTargetCount", TraceEvent.count active.length)]])

end Ledger

end Admission
