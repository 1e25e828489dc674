import Admission.Operation.Perform
import Admission.Schema

/-!
# The web interface

Administrators reach the operations by requests.  A framework for web applications stands between
the two: it finds the endpoint for the method and the path, reads the credentials, and reads from
the body what the endpoint declares.  It may answer a request by itself, or hand it to an endpoint
together with a token.  The token has to be the one of the settings; then the endpoint performs its
operation with the authority that the token grants.  One path tells anybody that the site is alive.

The framework is a parameter here.

Main definitions:

* `Web.Request`, `Web.Response` — requests and responses;
* `Web.Endpoint` — the endpoints, with the method, the path and the arguments that they declare;
* `Web.Framework`, `Web.Received` — what a framework makes of requests;
* `Site.answer` — the response to a request.
-/

set_option autoImplicit false

namespace Admission.Web

/-! ### Requests and responses -/

/-- The body of a request. -/
inductive Body where
  | absent
  | text (s : String)
  | json (v : Value)

/-- A request. -/
structure Request where
  method : String
  /-- The path without escapes, in segments.  The first segment is what stands before the first
  slash. -/
  path : List String
  /-- What the caller shows as credentials. -/
  authorization : Option String
  body : Body

/-- A response.  Some responses have no body that is worth telling. -/
structure Response where
  status : Nat
  body : Option Value

namespace Response

def failure (status : Nat) (detail : String) : Response :=
  ⟨status, some (.ofFields [("detail", .str detail)])⟩

def ruleNotFound : Response := failure 404 "Rule not found"

/-- The response that sends the caller to another path. -/
def redirection : Response := ⟨307, some .null⟩

end Response

/-! ### Endpoints -/

/-- What a request may ask for. -/
inductive Endpoint where
  | listRules
  | listPlugins
  | listCommands
  | createRule
  | reorderRules
  | updateRule (id : String)
  | deleteRule (id : String)
  | toggleRule (id : String)
  deriving DecidableEq, Repr

/-- The fields that the body of a rule may have.  None of them has to be there. -/
def ruleBody : Table Schema.FieldType :=
  [("id", .text), ("name", .text), ("enabled", .flag), ("priority", .integer), ("action", .text),
    ("target", .mapping), ("condition", .mapping), ("response", .text)]

namespace Endpoint

def method : Endpoint → String
  | .listRules | .listPlugins | .listCommands => "GET"
  | .createRule | .reorderRules | .toggleRule _ => "POST"
  | .updateRule _ => "PUT"
  | .deleteRule _ => "DELETE"

def path : Endpoint → List String
  | .listRules | .createRule => ["", "api", "rules"]
  | .listPlugins => ["", "api", "targets"]
  | .listCommands => ["", "api", "commands"]
  | .reorderRules => ["", "api", "rules", "reorder"]
  | .updateRule id | .deleteRule id => ["", "api", "rules", id]
  | .toggleRule id => ["", "api", "rules", id, "toggle"]

/-- The id of a rule in the path of an endpoint. -/
def ruleId? : Endpoint → Option String
  | .updateRule id | .deleteRule id | .toggleRule id => some id
  | _ => none

/-- What an endpoint is given from a body: the fields of a rule that are there and not null, ids,
a flag, or nothing. -/
def Arguments : Endpoint → Type
  | .createRule | .updateRule _ => Fields
  | .reorderRules => List String
  | .toggleRule _ => Bool
  | .listRules | .listPlugins | .listCommands | .deleteRule _ => Unit

/-- The event that an endpoint asks for, with its payload. -/
def event : (e : Endpoint) → e.Arguments → String × Value
  | .listRules, _ => ("filter-pro/list", .null)
  | .listPlugins, _ => ("filter-pro/targets", .null)
  | .listCommands, _ => ("filter-pro/commands", .null)
  | .createRule, fields => ("filter-pro/create", .ofFields fields)
  | .reorderRules, ids => ("filter-pro/reorder", .ofList (ids.map .str))
  | .updateRule id, fields => ("filter-pro/update", .ofFields (Table.set fields "id" (.str id)))
  | .deleteRule id, _ => ("filter-pro/delete", .str id)
  | .toggleRule id, enabled =>
    ("filter-pro/toggle", .ofFields [("id", .str id), ("enabled", .bool enabled)])

/-- What comes of an operation that was performed, given its answer: a status with a value to
publish, or a response that says what went wrong. -/
def outcome : Endpoint → Value → Except Response (Nat × Value)
  | .createRule, v => .ok (201, v)
  | .updateRule _, .null => .error .ruleNotFound
  | .toggleRule _, .null => .error .ruleNotFound
  | .deleteRule id, v =>
    if v.truthy then .ok (200, .ofFields [("ok", .bool true), ("id", .str id)])
    else .error .ruleNotFound
  | _, v => .ok (200, v)

end Endpoint

/-! ### The framework -/

/-- What a framework makes of a request. -/
inductive Received where
  /-- The framework answers by itself. -/
  | answered (response : Response)
  /-- The caller is to make another request. -/
  | redirected (request : Request)
  /-- The caller wants to know whether the site is alive. -/
  | health
  /-- The request is handed to an endpoint, with the token that was shown.  If the token is right,
  the endpoint is called with its arguments, or the body did not fit and the framework answers. -/
  | handed (endpoint : Endpoint) (token : String) (arguments : Except Response endpoint.Arguments)

/-- A framework for web applications. -/
structure Framework where
  /-- The token in credentials. -/
  token? : Option String → Option String
  /-- The value that a body says, if it says one. -/
  value? : Body → Option Value
  receive : Request → Received
  /-- A value as it is published, or the fault when it cannot be. -/
  publish : Value → Except Fault Value

/-- A response with a value that is published. -/
def Framework.respond (f : Framework) (status : Nat) (v : Value) : Except Fault Response :=
  (f.publish v).map fun shown => ⟨status, some shown⟩

/-- The response of an endpoint, given what came of its event.  Too little authority is told; any
other fault is left to the framework. -/
def Endpoint.respond (e : Endpoint) (f : Framework) : Except Fault Value → Except Fault Response
  | .ok answer =>
    match e.outcome answer with
    | .ok (status, v) => f.respond status v
    | .error response => .ok response
  | .error (.authority event required granted) =>
    .ok (.failure 403 (Fault.authority event required granted).message)
  | .error fault => .error fault

end Web

open Web

/-- The response of an endpoint, given the token that was shown and what the body gave. -/
def Site.answerHanded (s : Site) (f : Framework) (subscribers : List String) (e : Endpoint)
    (token : String) (arguments : Except Response e.Arguments) : Except Fault Response × Site :=
  if s.engine.settings.adminToken.isStr token then
    match arguments with
    | .error response => (.ok response, s)
    | .ok arguments =>
      let (event, payload) := e.event arguments
      let (outcome, s) := s.dispatch subscribers event payload s.engine.settings.adminAuthority
      (e.respond f outcome, s)
  else (.ok (.failure 401 "Invalid token"), s)

/-- The response to a request, telling the given subscribers about changes. -/
def Site.answer (s : Site) (f : Framework) (subscribers : List String) (r : Request) :
    Except Fault Response × Site :=
  match f.receive r with
  | .answered response => (.ok response, s)
  | .redirected _ => (.ok .redirection, s)
  | .health => (f.respond 200 (.ofFields [("status", .str "ok")]), s)
  | .handed e token arguments => s.answerHanded f subscribers e token arguments

end Admission
