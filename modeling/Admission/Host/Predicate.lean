import Admission.Decision
import Admission.Value.Equal

/-!
# Admission predicates

A context of the host has a predicate that says which sessions may reach the plugins below it.
What the host puts there is any function of the session, or a function that is laid over another
predicate: that one is asked first, and the answer may depend on what it replied.

A guard is what is put before a predicate to enforce the rules for plugins.  It asks the guarded
predicate first and lets the rules speak only about sessions that this one lets through.  Every
guard that is ever made has a serial number of its own, and it names the owner whose rules it
reads, at the time of the call.

Main definitions:

* `Predicate` — the predicates;
* `Predicate.answers`, `Predicate.fails`, `Predicate.refuses` — some that hosts use;
* `Guard` — the keys whose rules are enforced, and who owns the rules;
* `Predicate.ask` — the reply to a session, with what was reported on the way.
-/

set_option autoImplicit false

namespace Admission

/-- What stands before a predicate to enforce the rules for some plugins. -/
structure Guard where
  /-- Whose rules are read. -/
  owner : Nat
  /-- Tells the guard from all others. -/
  serial : Nat
  /-- The keys of the plugins whose rules are enforced. -/
  keys : List String
  deriving DecidableEq, Repr

/-- A predicate on sessions. -/
inductive Predicate where
  /-- A function of the host. -/
  | plain (answer : Session → Except Fault Value)
  /-- A function of the host that asks the predicate below first and sees its outcome. -/
  | layered (answer : Session → Except Fault Value → Except Fault Value) (below : Predicate)
  /-- A guarded predicate. -/
  | guarded (guard : Guard) (base : Predicate)

/-- What a call of a predicate gives. -/
structure Reply where
  outcome : Except Fault Value
  /-- What was reported, each time with the owner of the rules that were asked. -/
  events : List (Nat × TraceEvent)
  /-- How many predicates of the host were called. -/
  calls : Nat

/-- The rules of every one of the keys let the session through.  The first refusal settles it. -/
def admitsAll (rules : List Rule) (session : Session) :
    List String → List TraceEvent × Except Fault Bool
  | [] => ([], .ok true)
  | key :: rest =>
    let (events, outcome) := admits key rules session
    match outcome with
    | .ok true =>
      let (more, outcome) := admitsAll rules session rest
      (events ++ more, outcome)
    | outcome => (events, outcome)

namespace Predicate

/-- The session is not of this user. -/
def isOther (user : Value) (session : Session) : Value :=
  .bool (!Value.equal session.userId user)

def answers (v : Value) : Predicate := .plain fun _ => .ok v

def fails (text : String) : Predicate := .plain fun _ => .error (.hostFailure text)

def refuses (user : Value) : Predicate := .plain fun session => .ok (isOther user session)

/-- Asks the predicate below, and refuses one user if that one lets the session through. -/
def refusesOver (user : Value) (below : Predicate) : Predicate :=
  .layered
    (fun session outcome => outcome.map fun v => if v.truthy then isOther user session else v) below

/-- The guard that stands outermost. -/
def guard? : Predicate → Option Guard
  | .guarded guard _ => some guard
  | _ => none

/-- Some guard stands outermost. -/
def isGuarded (p : Predicate) : Bool := p.guard?.isSome

/-- The reply of a guard to a session that the guarded predicate has replied to. -/
def guardReply (rules : List Rule) (session : Session) (guard : Guard) (reply : Reply) : Reply :=
  match reply.outcome with
  | .error _ => reply
  | .ok v =>
    if v.truthy then
      let (events, outcome) := admitsAll rules session guard.keys
      { reply with
        outcome := outcome.map .bool
        events := reply.events ++ events.map fun e => (guard.owner, e) }
    else { reply with outcome := .ok (.bool false) }

/-- The reply of a layer to a session that the predicate below has replied to. -/
def layerReply (answer : Session → Except Fault Value → Except Fault Value) (session : Session)
    (reply : Reply) : Reply :=
  { reply with
    outcome := answer session reply.outcome
    calls := reply.calls + 1 }

/-- The reply of a predicate to a session, given the rules of every owner. -/
def ask (rulesOf : Nat → List Rule) (session : Session) : Predicate → Reply
  | .plain answer => ⟨answer session, [], 1⟩
  | .layered answer below => layerReply answer session (below.ask rulesOf session)
  | .guarded guard base =>
    guardReply (rulesOf guard.owner) session guard (base.ask rulesOf session)

end Predicate

end Admission
