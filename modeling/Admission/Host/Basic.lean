import Admission.Host.Predicate
import Admission.Text.Split

/-!
# Hosts

A host runs plugins in a tree of contexts.  The scope of a context may have records, an ordered
list of registrations; each registers a plugin key for a fork, which runs inside a context of its
own and is let through by the predicate of its parent context.  Scopes, records and forks are known
by name, so the tree may share subtrees and may lead back to itself.

The host also has commands, each belonging to a scope, and it may be able to tell the keys that
lead from a scope upwards.

Main definitions:

* `Host` — a host, by its tables;
* `Registration.plugin` — the key of a registration without the mark of a disabled plugin;
* `PluginName` — the two parts of a key;
* `Host.recordsAt?` — the records of a context;
* `Host.setPredicate`, `Host.putRecord`, … — what a host may change.
-/

set_option autoImplicit false

namespace Admission

/-! ### Keys -/

/-- The text of a key as it was registered.  Keys that are no texts stand for their written
form. -/
def keyText (key : Value) : String :=
  match key.display with
  | .ok text => text
  | .error fault => fault.message

/-- A key without the mark in front that says that the plugin is disabled. -/
def unmarked (key : String) : String :=
  match key.toList with
  | '~' :: rest => String.ofList rest
  | _ => key

/-- The key of a plugin, as rules name it. -/
def pluginKey (key : Value) : String := unmarked (keyText key)

/-- The two parts of a plugin key: the name of the plugin and what tells its instances apart. -/
structure PluginName where
  name : String
  ident : String
  deriving DecidableEq, Repr

/-- The parts of a key before and after its first colon. -/
def PluginName.ofKey (key : String) : PluginName where
  name := String.ofList (key.toList.takeWhile (· != ':'))
  ident := String.ofList ((key.toList.dropWhile (· != ':')).drop 1)

/-! ### The parts of a host -/

/-- A plugin key that is registered for a fork. -/
structure Registration where
  /-- The key as it was registered. -/
  key : Value
  /-- The name of the fork, none when there is no fork. -/
  fork : Option String

def Registration.plugin (r : Registration) : String := pluginKey r.key

/-- A plugin that runs. -/
structure Fork where
  /-- The context in which the plugin runs. -/
  context : Option String
  /-- The context whose predicate admits sessions to the plugin. -/
  parent : Option String
  /-- The plugin asks not to be filtered. -/
  optedOut : Bool
  deriving DecidableEq, Repr, Inhabited

/-- A place in the tree. -/
structure Context where
  scope : Option String
  /-- The predicate, none when the context has nothing that can be called. -/
  predicate : Option Predicate

/-- A command of the host.  Different commands may be equal to each other: this is for the host to
decide. -/
structure Command where
  name : String
  scope : Option String
  /-- What is found out about the command may be kept. -/
  keepable : Bool
  /-- Commands that are equal to each other have the same likeness, and no others have. -/
  likeness : String
  deriving DecidableEq, Repr, Inhabited

/-- The name of a command that gives the value as its name. -/
def Command.nameOf (v : Value) : String := if v.truthy then keyText v else ""

/-- A host. -/
structure Host where
  /-- The context at the root. -/
  root : Option String
  contexts : Table Context
  /-- The name of the records of each scope, none when it has no records. -/
  scopes : Table (Option String)
  records : Table (List Registration)
  forks : Table Fork
  /-- The names of the commands, none when the host knows no commands. -/
  commands : Option (List String)
  /-- All commands there are, in use or not. -/
  commandTable : Table Command
  /-- The keys that lead from each scope upwards, none when the host cannot tell. -/
  paths : Option (Table (List Value))

namespace Host

/-! ### Looking things up -/

def context? (h : Host) (name : Option String) : Option Context :=
  name.bind (Table.get? h.contexts)

def fork? (h : Host) (name : Option String) : Option Fork := name.bind (Table.get? h.forks)

def command? (h : Host) (name : Option String) : Option Command :=
  name.bind (Table.get? h.commandTable)

/-- The likeness under which something may be kept for a command, none when nothing may be kept. -/
def keptUnder? (h : Host) (name : Option String) : Option String :=
  (h.command? name).bind fun c => if c.keepable then some c.likeness else none

def scopeAt? (h : Host) (context : Option String) : Option String :=
  (h.context? context).bind (·.scope)

/-- The name of the records of a context. -/
def recordsNameAt? (h : Host) (context : Option String) : Option String :=
  ((h.scopeAt? context).bind (Table.get? h.scopes)).join

/-- The records of a context, with their name. -/
def recordsAt? (h : Host) (context : Option String) : Option (String × List Registration) :=
  (h.recordsNameAt? context).bind fun name =>
    (Table.get? h.records name).map fun registrations => (name, registrations)

/-- The context in which a fork runs. -/
def contextOf? (h : Host) (fork : Option String) : Option String :=
  (h.fork? fork).bind (·.context)

/-- The context whose predicate admits sessions to a fork. -/
def parentOf? (h : Host) (fork : Option String) : Option String :=
  (h.fork? fork).bind (·.parent)

/-- The fork asks not to be filtered. -/
def optedOut (h : Host) (fork : Option String) : Bool :=
  match h.fork? fork with
  | some f => f.optedOut
  | none => false

def predicate? (h : Host) (context : String) : Option Predicate :=
  (Table.get? h.contexts context).bind (·.predicate)

/-- The host knows commands and can tell which keys lead from a scope upwards. -/
def tellsPaths (h : Host) : Bool := h.commands.isSome && h.paths.isSome

/-- The keys that lead from a scope upwards, nearest first. -/
def pathOf (h : Host) (scope : String) : List Value :=
  ((h.paths.getD []).get? scope).getD []

/-- The contexts whose predicate has a guard outermost, in the order of their names. -/
def guardedContexts (h : Host) : List String :=
  ((h.contexts.filter fun e => (e.2.predicate.map Predicate.isGuarded).getD false).map
    (·.1)).mergeSort (· ≤ ·)

/-! ### Changes -/

def setPredicate (h : Host) (context : String) (p : Option Predicate) : Host :=
  { h with contexts := h.contexts.modify context fun c => { c with predicate := p } }

/-- Lays a predicate that refuses one user over whatever predicate the context has. -/
def layerPredicate (h : Host) (context : String) (user : Value) : Host :=
  h.setPredicate context (some (match h.predicate? context with
    | some below => .refusesOver user below
    | none => .refuses user))

def setRecords (h : Host) (scope : String) (records : Option String) : Host :=
  { h with scopes := h.scopes.set scope records }

/-- Registers a key for a fork.  A key that is registered already keeps its place and its form. -/
def register (key : Value) (fork : Option String) : List Registration → List Registration
  | [] => [⟨key, fork⟩]
  | r :: rest =>
    if Value.equal r.key key then { r with fork := fork } :: rest
    else r :: register key fork rest

def putRecord (h : Host) (records : String) (key : Value) (fork : Option String) : Host :=
  { h with records := h.records.modify records (register key fork) }

def hasRecord (h : Host) (records : String) (key : Value) : Bool :=
  ((Table.get? h.records records).getD []).any fun r => Value.equal r.key key

def dropRecord (h : Host) (records : String) (key : Value) : Host :=
  { h with records := h.records.modify records (·.filter fun r => !Value.equal r.key key) }

def setParent (h : Host) (fork : String) (parent : Option String) : Host :=
  { h with forks := h.forks.modify fork fun f => { f with parent := parent } }

def setOptedOut (h : Host) (fork : String) (optedOut : Bool) : Host :=
  { h with forks := h.forks.modify fork fun f => { f with optedOut := optedOut } }

def setCommandScope (h : Host) (command : String) (scope : Option String) : Host :=
  { h with commandTable := h.commandTable.modify command fun c => { c with scope := scope } }

def setCommands (h : Host) (commands : List String) : Host := { h with commands := some commands }

end Host

/-- Registrations in order, a key that comes again keeping its first place and taking the last
fork. -/
def Registration.ofPairs (pairs : List (Value × Option String)) : List Registration :=
  pairs.foldl (fun acc p => Host.register p.1 p.2 acc) []

/-- A host with an empty root context and no commands. -/
def Host.bare : Host where
  root := some "root"
  contexts := [("root", ⟨some "root", none⟩)]
  scopes := [("root", some "root")]
  records := [("root", [])]
  forks := []
  commands := some []
  commandTable := []
  paths := none

instance : Inhabited Host := ⟨Host.bare⟩

end Admission
