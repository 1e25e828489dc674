import Admission.Engine.Lifecycle
import Admission.Operation.Basic

/-!
# Performing operations

An operation that changes the rules is followed by everything that depends on them: the rule file is
written, the guards are put anew, and the subscribers are told the rules in the order of evaluation.
An operation that finds nothing to change has no such consequences.

Main definitions:

* `Site.perform` — performing an operation;
* `Site.dispatch` — performing the operation that an event asks for, if the caller may.
-/

set_option autoImplicit false

namespace Admission

namespace Site

/-! ### Answers -/

/-- The rules in the order of evaluation, as mappings. -/
def ruleList (s : Site) : Value := .ofList (s.engine.store.sorted.map Rule.toValue)

/-- The names of the commands of the host, as they are shown.  Commands that are not known have an
empty name. -/
def commandList (s : Site) : List String :=
  s.commandNames.map fun name => Resolver.nameOf s.host (some name)

/-! ### Consequences of a change -/

def push (s : Site) (subscribers : List String) : Site :=
  { s with pushes := s.pushes ++ subscribers.map fun name => ⟨name, s.engine.store.sorted⟩ }

/-- What follows a change of the rules. -/
def publish (s : Site) (subscribers : List String) : Except Fault Site :=
  s.commit.map (·.push subscribers)

/-- The answer after a change of the rules, or the fault that stopped its consequences. -/
def changed (s : Site) (subscribers : List String) (answer : Site → Value) :
    Except Fault Value × Site :=
  match s.publish subscribers with
  -- the change itself stays, though nothing follows from it
  | .error fault => (.error fault, s)
  | .ok s => (.ok (answer s), s)

/-! ### Operations -/

def noteOperation (s : Site) (message : String) : Site := s.note .info .console message

def createRule (s : Site) (subscribers : List String) (data : Value) :
    Except Fault Value × Site :=
  let data := if data.fields?.isSome then data else .ofFields []
  match s.engine.store.create data s.supply with
  | none => (.ok .null, s)
  | some (rule, store, supply) =>
    (({ s with supply }.setStore store).noteOperation
      ("Created rule " ++ rule.id ++ " (" ++ rule.name ++ ")")).changed subscribers
        fun _ => rule.toValue

/-- Changes the rule that a mapping names. -/
def updateRule (s : Site) (subscribers : List String) (data : Value) :
    Except Fault Value × Site :=
  match s.engine.store.update data with
  | none => (.ok .null, s)
  | some (rule, store) =>
    ((s.setStore store).noteOperation ("Updated rule " ++ rule.id)).changed subscribers
      fun _ => rule.toValue

def deleteRule (s : Site) (subscribers : List String) (id : Value) :
    Except Fault Value × Site :=
  match s.engine.store.delete id with
  | none => (.ok (.bool false), s)
  | some store =>
    ((s.setStore store).noteOperation ("Deleted rule " ++ id.str?.getD "")).changed subscribers
      fun _ => .bool true

def reorderRules (s : Site) (subscribers : List String) (ids : Value) :
    Except Fault Value × Site :=
  match s.engine.store.reorder ids with
  | none => (.ok s.ruleList, s)
  | some store => (s.setStore store).changed subscribers ruleList

def toggleRule (s : Site) (subscribers : List String) (id enabled : Value) :
    Except Fault Value × Site :=
  match s.engine.store.toggle id enabled with
  | none => (.ok .null, s)
  | some (rule, store) =>
    ((s.setStore store).noteOperation
      ("Rule " ++ rule.id ++ if rule.enabled then " enabled" else " disabled")).changed subscribers
        fun _ => rule.toValue

/-- Performs an operation, telling the given subscribers about changes. -/
def perform (s : Site) (subscribers : List String) : Operation → Except Fault Value × Site
  | .listRules =>
    let s := s.load
    (.ok s.ruleList, s)
  | .listPlugins =>
    let s := s.refresh
    (.ok (.ofList (s.engine.resolver.options.map PluginOption.toValue)), s)
  | .listCommands => (.ok (.ofList (s.commandList.map commandValue)), s)
  | .create data => s.load.createRule subscribers data
  | .update data => s.load.updateRule subscribers data
  | .delete id => s.load.deleteRule subscribers id
  | .reorder ids => s.load.reorderRules subscribers ids
  | .toggle id enabled => s.load.toggleRule subscribers id enabled
  | .nothing => (.ok .null, s)

/-- Performs the operation that an event asks for, if the caller has the authority that the settings
ask for. -/
def dispatch (s : Site) (subscribers : List String) (event : String) (payload authority : Value) :
    Except Fault Value × Site :=
  match Operation.ofEvent? event payload with
  | none => (.error (.unknownOperation event), s)
  | some operation =>
    match Authority.check event s.engine.settings.consoleAuthority authority with
    | .error fault => (.error fault, s)
    | .ok () => s.perform subscribers operation

/-! ### Subscribers -/

/-- Adds a subscriber, once more if it is there already. -/
def subscribe (s : Site) (name : String) : Site :=
  { s with subscribers := s.subscribers ++ [name] }

/-- Removes a subscriber, once. -/
def unsubscribe (s : Site) (name : String) : Site :=
  { s with subscribers := s.subscribers.erase name }

end Site

end Admission
