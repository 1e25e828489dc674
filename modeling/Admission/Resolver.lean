import Admission.Host.Walk
import Admission.Log

/-!
# Resolving scopes and commands

To apply the rules for commands it must be known which plugin a command belongs to.  The resolver
keeps a picture of the plugin tree: the plugins that rules can name, and for every scope the plugin
that runs in it.  The picture is made anew when it is asked for after it went stale.

A scope in which no plugin runs is resolved by the keys that lead from it upwards, if the host can
tell them.  What a command resolves to is kept for good, because a command does not change its
owner; a command for which nothing may be kept is resolved every time.  What is kept for a command
serves every command that is equal to it.

Main definitions:

* `Resolver` — the picture and what is kept for commands;
* `Resolver.rebuild`, `Resolver.fresh` — making the picture;
* `Resolver.list`, `Resolver.byKey` — the plugins that rules can name;
* `Resolver.byScope`, `Resolver.byCommand`, `Resolver.bind` — resolving.
-/

set_option autoImplicit false

namespace Admission

/-- What is known about the plugin tree. -/
structure Resolver where
  /-- The plugins that rules can name. -/
  options : List PluginOption
  /-- The plugin that runs in each scope. -/
  scopes : Table PluginOption
  /-- What commands were resolved to, by their likeness. -/
  commands : Table PluginOption
  /-- The tree may have changed since the picture was made. -/
  stale : Bool
  deriving Inhabited

namespace Resolver

def empty : Resolver := ⟨[], [], [], true⟩

def get? (r : Resolver) (key : String) : Option PluginOption := r.options.find? (·.key == key)

/-- Lets the picture go stale. -/
def invalidate (r : Resolver) : Resolver := { r with stale := true }

/-! ### The picture -/

/-- The plugin that runs in each scope, given the plugins that rules can name: the last one that
the walk lists. -/
def scopesOf (h : Host) (options : List PluginOption) : Table PluginOption :=
  h.registrations.foldl (fun scopes r =>
    -- this walk is not pruned: an option may run below a fork that opted out as well
    match options.find? (·.key == r.plugin), h.scopeAt? (h.contextOf? r.fork) with
    | some option, some scope => scopes.set scope option
    | _, _ => scopes) []

/-- How many keys are shown when the picture is made. -/
def sampleSize : Nat := 10

def rebuild (r : Resolver) (h : Host) : Resolver × List Report :=
  let options := h.pluginOptions
  let scopes := scopesOf h options
  ({ r with options := options, scopes := scopes, stale := false },
   [.of "resolver:rebuild:start" [("targetCount", TraceEvent.count options.length),
      ("sample", .ofList ((options.take sampleSize).map fun o => .str o.key))],
    .of "resolver:rebuild:done" [("targetCount", TraceEvent.count options.length),
      ("scopeBindings", TraceEvent.count scopes.length)]])

/-- Makes the picture anew if it went stale. -/
def fresh (r : Resolver) (h : Host) : Resolver × List Report :=
  if r.stale then r.rebuild h else (r, [])

def list (r : Resolver) (h : Host) : List PluginOption × Resolver × List Report :=
  let (r, reports) := r.fresh h
  (r.options, r, reports)

/-- The plugin with a key, if rules can name it. -/
def byKey (r : Resolver) (h : Host) (key : String) :
    Option PluginOption × Resolver × List Report :=
  let (r, reports) := r.fresh h
  (r.get? key, r, reports)

/-! ### Resolving -/

/-- The plugin of the first key on the way upwards that rules can name. -/
def byPath (r : Resolver) (h : Host) (scope : String) : Option PluginOption :=
  if h.tellsPaths then (h.pathOf scope).findSome? fun key => r.get? (pluginKey key) else none

/-- The plugin that a scope belongs to, in the picture as it is. -/
def lookup (r : Resolver) (h : Host) (scope : String) : Option PluginOption :=
  match Table.get? r.scopes scope with
  | some option => some option
  | none => r.byPath h scope

def byScope (r : Resolver) (h : Host) (scope : Option String) :
    Option PluginOption × Resolver × List Report :=
  match scope with
  | none => (none, r, [])
  | some scope =>
    let (r, reports) := r.fresh h
    (r.lookup h scope, r, reports)

def nameOf (h : Host) (command : Option String) : String :=
  match h.command? command with
  | some c => c.name
  | none => ""

def scopeOf (h : Host) (command : Option String) : Option String :=
  (h.command? command).bind (·.scope)

/-- The entry for a command for which nothing may be kept. -/
def notKept : Report :=
  .entry ⟨.debug, .resolver, "Command <command> is not weakly referenceable, not caching"⟩

/-- Keeps what a command was resolved to, if that may be kept, in place of what was kept for an
equal one. -/
def keep (r : Resolver) (h : Host) (command : Option String) (option : PluginOption) :
    Resolver × List Report :=
  match h.keptUnder? command with
  | some likeness => ({ r with commands := r.commands.set likeness option }, [])
  | none => (r, [notKept])

/-- Resolves a command by its scope, and keeps the result.  The two stages are those of a miss and
of a success. -/
def resolve (r : Resolver) (h : Host) (command : Option String) (miss found : String) :
    Option PluginOption × Resolver × List Report :=
  let name := nameOf h command
  let (option, r, reports) := r.byScope h (scopeOf h command)
  match option with
  | none => (none, r, reports ++ [.of miss [("command", .str name)]])
  | some option =>
    let (r, notes) := r.keep h command option
    (some option, r, reports ++ notes ++ [.of found [("command", .str name),
      ("pluginKey", .str option.key), ("pluginName", .str option.name)]])

/-- The plugin that a command belongs to: what was kept for it or for an equal command, or what its
scope resolves to. -/
def byCommand (r : Resolver) (h : Host) (command : Option String) :
    Option PluginOption × Resolver × List Report :=
  match (h.keptUnder? command).bind (Table.get? r.commands) with
  | some option =>
    (some option, r, [.of "resolver:resolve:cache-hit" [("command", .str (nameOf h command)),
      ("pluginKey", .str option.key)]])
  | none => r.resolve h command "resolver:resolve:miss" "resolver:resolve:resolved"

def bind (r : Resolver) (h : Host) (command : Option String) :
    Option PluginOption × Resolver × List Report :=
  r.resolve h command "resolver:bind:miss" "resolver:bind:ok"

end Resolver

end Admission
