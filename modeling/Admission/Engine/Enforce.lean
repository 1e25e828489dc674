import Admission.Engine.Lifecycle

/-!
# Enforcing the rules

The rules are enforced at three places: when a message comes in, before a command runs, and when a
predicate of the host is asked.  The first two read the rules if they were not read before; the
guards before predicates take the rules as they are.

Main definitions:

* `Site.decideMessage`, `Site.decideCommand` — the decisions about a session;
* `Site.answerMessage`, `Site.beforeCommand` — what follows from them;
* `Site.askPredicate` — asking the predicate of a context.
-/

set_option autoImplicit false

namespace Admission

namespace Site

/-! ### Decisions -/

def messageEvent (vars : Fields) (ruleCount : Nat) : TraceEvent :=
  ⟨"message:incoming", ["platform", "userId", "channelId", "guildId", "isDirect", "content"].map
      (fun key => (key, vars.getD key))
    ++ [("ruleCount", TraceEvent.count ruleCount)]⟩

def commandEvent (vars : Fields) (ruleCount : Nat) : TraceEvent :=
  ⟨"command:incoming", ("command", vars.getD "commandName")
      :: ["pluginKey", "pluginName", "isDirect", "guildId", "content"].map
        (fun key => (key, vars.getD key))
    ++ [("ruleCount", TraceEvent.count ruleCount)]⟩

/-- The decision about an event with the given attributes, announced by a trace event. -/
def decideEvent (s : Site) (vars : Fields) (kind : TargetKind) (stage : String)
    (incoming : TraceEvent) : Except Fault Decision × Site :=
  match s.traceForeign incoming with
  | .error fault => (.error fault, s)
  | .ok s =>
    -- what was traced before a fault is in the log all the same
    let (events, outcome) := Decision.forEvent s.rules vars kind stage
    (outcome, s.traceAll events)

def decideMessage (s : Site) (session : Session) : Except Fault Decision × Site :=
  let s := s.load
  match session.vars with
  | .error fault => (.error fault, s)
  | .ok vars => s.decideEvent vars .everything "message" (messageEvent vars s.rules.length)

/-- What a command adds to the attributes of a session. -/
def commandVars (name : String) (plugin : Option PluginOption) : Fields :=
  let text (f : PluginOption → String) : Value :=
    match plugin with
    | some option => .str (f option)
    | none => .null
  [("commandName", .str name), ("pluginKey", text (·.key)), ("pluginName", text (·.name))]

/-- The decision about a command that a session asks for. -/
def decideCommand (s : Site) (session : Session) (command : Option String) :
    Except Fault Decision × Site :=
  let s := s.load
  let (plugin, resolver, reports) := s.engine.resolver.byCommand s.host command
  let s := (s.setResolver resolver).reportAll reports
  match session.varsWith (commandVars (Resolver.nameOf s.host command) plugin) with
  | .error fault => (.error fault, s)
  | .ok vars => s.decideEvent vars .commands "command" (commandEvent vars s.rules.length)

/-! ### What follows -/

/-- The answer to a message that is dropped; none when the message goes on. -/
def answerMessage (s : Site) (session : Session) : Except Fault (Option String) × Site :=
  let (outcome, s) := s.decideMessage session
  (outcome.map fun d => if d.isBlocked then some d.response else none, s)

/-- A command that is not to run. -/
structure Refusal where
  /-- What the session is told. -/
  replies : List String
  deriving DecidableEq, Repr

/-- The replies that a response makes: none when it is empty. -/
def repliesOf (response : String) : List String := if response = "" then [] else [response]

/-- Refuses a command before it runs; none when it may run. -/
def beforeCommand (s : Site) (session : Session) (command : Option String) :
    Except Fault (Option Refusal) × Site :=
  let (outcome, s) := s.decideCommand session command
  (outcome.map fun d => if d.isBlocked then some ⟨repliesOf d.response⟩ else none, s)

/-- Writes a trace event of the engine with a number to the log. -/
def traceOf (s : Site) (e : Nat × TraceEvent) : Site :=
  s.reportWith (((s.engine? e.1).map Engine.details).getD false) (.trace e.2)

/-- The reply of the predicate of a context; none when the context has none. -/
def askPredicate (s : Site) (context : String) (session : Session) : Option (Reply × Site) :=
  (s.host.predicate? context).map fun p =>
    let reply := p.ask s.rulesOf session
    (reply, reply.events.foldl traceOf s)

end Site

end Admission
