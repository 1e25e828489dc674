import Admission.Host.Guards
import Admission.Resolver
import Admission.Rule.File
import Admission.Setting.Basic
import Admission.Store

/-!
# Engines and sites

An engine enforces the rules of a store on a host: on messages, on commands, and on the plugins,
before whose predicates it puts guards.  A site is a host with the engine that is in charge, the
files, and those who want to hear of changes of the rules.  An engine that was replaced without
being told leaves its guards behind; they go on reading the rules that it had.

Main definitions:

* `Engine`, `Site` — the state;
* `Site.report` — writing to the log;
* `Site.setRules`, `Site.saveText` — new rules, and the rule file.
-/

set_option autoImplicit false

namespace Admission

/-- An engine. -/
structure Engine where
  settings : Settings
  /-- Details of what matched were asked for when the engine was made. -/
  details : Bool
  /-- Where the engine writes its rules. -/
  savePath : Path
  store : Store
  resolver : Resolver
  /-- The guards on the host.  Their owner is the number of the engine. -/
  ledger : Ledger
  /-- The rule file was read. -/
  loaded : Bool
  /-- The engine has given up its guards for good. -/
  disposed : Bool

namespace Engine

/-- A new engine with a number of its own. -/
def start (number : Nat) (settings : Settings) : Engine where
  settings := settings
  details := settings.debug.truthy
  savePath := settings.rulesPath?.getD (Path.ofText "")
  store := Store.empty
  resolver := Resolver.empty
  ledger := Ledger.empty number
  loaded := false
  disposed := false

def number (e : Engine) : Nat := e.ledger.owner

end Engine

/-- The rules that a subscriber was told. -/
structure Push where
  subscriber : String
  rules : List Rule

/-- A host with its engine, its files, and those who want to hear of changes. -/
structure Site where
  host : Host
  files : FileTree
  supply : Supply
  engine : Engine
  /-- Engines that were replaced; their guards may still stand. -/
  retired : List Engine
  /-- Reading the rule file fails. -/
  loadFails : Bool
  /-- Lines of lower levels are not written. -/
  threshold : LogLevel
  log : List LogLine
  subscribers : List String
  pushes : List Push

namespace Site

/-- A site whose engine has done nothing yet. -/
def start (host : Host) (files : FileTree) (supply : Supply) (settings : Settings)
    (loadFails : Bool) (threshold : LogLevel) : Site where
  host := host
  files := files
  supply := supply
  engine := .start 0 settings
  retired := []
  loadFails := loadFails
  threshold := threshold
  log := []
  subscribers := []
  pushes := []

def rules (s : Site) : List Rule := s.engine.store.rules

def engine? (s : Site) (number : Nat) : Option Engine :=
  if s.engine.number = number then some s.engine else s.retired.find? (·.number == number)

def rulesOf (s : Site) (number : Nat) : List Rule :=
  match s.engine? number with
  | some e => e.store.rules
  | none => []

/-! ### The log -/

/-- Writes a report to the log. -/
def reportWith (details : Bool) (s : Site) (r : Report) : Site :=
  match r.line? details s.threshold with
  | some line => { s with log := s.log ++ [line] }
  | none => s

def report (s : Site) (r : Report) : Site := s.reportWith s.engine.details r

def reportAll (s : Site) (reports : List Report) : Site := reports.foldl report s

def traceAll (s : Site) (events : List TraceEvent) : Site := s.reportAll (events.map .trace)

def note (s : Site) (level : LogLevel) (source : LogSource) (message : String) : Site :=
  s.report (.entry ⟨level, source, message⟩)

/-- Writes a trace event about something foreign.  That fails when it has to be written out but has
no written form. -/
def traceForeign (s : Site) (e : TraceEvent) : Except Fault Site :=
  match (Report.trace e).line? s.engine.details s.threshold with
  | some _ => e.line.map fun _ => s.report (.trace e)
  | none => .ok s

/-! ### Parts of the engine -/

def setStore (s : Site) (store : Store) : Site := { s with engine := { s.engine with store } }

def setResolver (s : Site) (resolver : Resolver) : Site :=
  { s with engine := { s.engine with resolver } }

def setGuards (s : Site) (ledger : Ledger) (host : Host) : Site :=
  { s with host, engine := { s.engine with ledger } }

def assignSetting (s : Site) (name : String) (v : Value) : Site :=
  { s with engine := { s.engine with settings := s.engine.settings.assign name v } }

/-! ### Rules and their file -/

/-- The entry about a rule that was given a new id. -/
def renamingReport (r : Store.Renaming) : Report :=
  .entry ⟨.warning, .store,
    "Duplicate rule id " ++ r.former ++ ", reassigned to " ++ r.current⟩

/-- Puts the given rules in place of all others. -/
def setRules (s : Site) (rules : List Rule) : Site :=
  match Store.replace rules s.supply with
  | some (store, renamings, supply) =>
    ({ s with supply }.setStore store).reportAll (renamings.map renamingReport)
  | none => s

def saveText (s : Site) (text : String) : Site :=
  let (files, done) := RuleFile.save s.files s.engine.savePath text
  let s := { s with files }
  if done then s else s.report (.entry (RuleFile.failureEntry s.engine.savePath))

def save (s : Site) : Except Fault Site := (RuleFile.render s.rules).map s.saveText

end Site

end Admission
