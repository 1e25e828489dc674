import Admission.Engine.Basic

/-!
# The life of an engine

An engine reads its rules once, when they are first needed.  A missing rule file is made; what
cannot be read counts as no rules.  Whenever the plugin tree or the rules may have changed, the
engine looks at the tree again and puts new guards.  An engine that was disposed of takes its
guards away and never puts any again.

Main definitions:

* `Site.load` — reading the rules;
* `Site.refresh`, `Site.sync` — looking at the tree, and putting guards;
* `Site.dispose` — taking the guards away;
* `HostEvent`, `Site.handle` — what happens in the host;
* `Site.commit` — what follows a change of the rules;
* `Site.restart` — a new engine on the same host.
-/

set_option autoImplicit false

namespace Admission

namespace Site

/-! ### Reading the rules -/

/-- No rules are in force, because they could not be read. -/
def loadFailed (s : Site) : Site :=
  (s.note .warning .engine ("Failed to initialize persistent rules: " ++ RuleFile.reason)).setRules
    []

/-- The rules that the file at a path holds are in force.  Where there is nothing to read them from,
a file without rules is written. -/
def loadFrom (s : Site) (path : Path) : Site :=
  let content := RuleFile.content s.files path
  let s := s.reportAll ((RuleFile.contentEntry? path content).toList.map .entry)
  let (rules, supply) := RuleFile.rulesOf content s.supply
  let s := { s with supply }
  match rules with
  | some rules =>
    (s.setRules rules).note .info .engine
      ("Loaded " ++ Nat.repr rules.length ++ " rules from " ++ path.text)
  | none => (s.setRules []).saveText "[]"

/-- The rules are read, if they were not read before. -/
def load (s : Site) : Site :=
  if s.engine.loaded then s
  else
    -- this counts as the one reading, whatever comes of it
    let s := { s with engine := { s.engine with loaded := true } }
    -- the rules are read from where the settings say now, which need not be where they are saved
    match s.loadFails, s.engine.settings.rulesPath? with
    | false, some path => s.loadFrom path
    | _, _ => s.loadFailed

/-! ### The tree and the guards -/

def commandNames (s : Site) : List String := s.host.commands.getD []

def bindCommand (s : Site) (command : Option String) : Site :=
  let (_, resolver, reports) := s.engine.resolver.bind s.host command
  (s.setResolver resolver).reportAll reports

def rebuild (s : Site) : Site :=
  let (resolver, reports) := s.engine.resolver.rebuild s.host
  (s.setResolver resolver).reportAll reports

/-- Looks at the tree and the commands again. -/
def refresh (s : Site) : Site :=
  let s := s.load.rebuild
  let commands := s.commandNames
  (commands.foldl (fun s c => s.bindCommand (some c)) s).report
    (.of "resolver:bind-existing:done" [("commandCount", TraceEvent.count commands.length)])

/-- Puts new guards on the host. -/
def putGuards (s : Site) : Site :=
  let (ledger, host, reports) := s.engine.ledger.sync s.host s.rules s.host.pluginForks
  (s.setGuards ledger host).reportAll reports

/-- Looks at the tree again and puts new guards, unless the engine was disposed of. -/
def sync (s : Site) : Site :=
  let s := s.refresh
  if s.engine.disposed then s else s.putGuards

/-- Disposes of the engine. -/
def dispose (s : Site) : Site :=
  let s := { s with engine := { s.engine with disposed := true } }
  let (ledger, host) := s.engine.ledger.restore s.host
  (s.setGuards ledger host).note .info .engine
    "Filter engine disposed, admission predicates restored"

/-- Writes the rules to their file, looks at the tree again and puts new guards.  Rules without a
written form are not written, and nothing else happens either. -/
def commit (s : Site) : Except Fault Site := s.save.map sync

/-- A new engine with the given settings takes over.  Nobody tells the former engine, and the
subscribers are forgotten. -/
def restart (s : Site) (settings : Settings) : Site :=
  { s with
    engine := .start (s.engine.number + 1) settings
    retired := s.engine :: s.retired
    subscribers := [] }

end Site

/-! ### Events of the host -/

/-- What happens in the host. -/
inductive HostEvent where
  | ready
  | fork
  | beforeUpdate
  | update
  | runtime
  | dispose
  | commandAdded
  deriving DecidableEq, Repr

namespace HostEvent

def name : HostEvent → String
  | .ready => "ready"
  | .fork => "fork"
  | .beforeUpdate => "before-update"
  | .update => "update"
  | .runtime => "runtime"
  | .dispose => "dispose"
  | .commandAdded => "command-added"

def all : List HostEvent :=
  [.ready, .fork, .beforeUpdate, .update, .runtime, .dispose, .commandAdded]

def ofName? (s : String) : Option HostEvent := all.find? (·.name == s)

end HostEvent

/-- What the engine does about an event, which may come with a command. -/
def Site.handle (s : Site) (event : HostEvent) (command : Option String) : Site :=
  match event with
  | .dispose => s.dispose
  | .commandAdded =>
    (s.bindCommand command).report
      (.of "command:added" [("command", .str (Resolver.nameOf s.host command))])
  | _ => (s.setResolver s.engine.resolver.invalidate).sync

end Admission
