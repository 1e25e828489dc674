import Admission.Json.Reader
import Admission.Web.Api

/-!
# The usual framework

A framework for the web interface.  It answers in this order: the path and the method have to be
known; a body that is no JSON is refused; the caller has to show some token; and the fields of the
body have to fit their types.  A path that is known without the slashes at its end is not unknown:
the caller is sent to the path without them.

Main definitions:

* `Web.route` — what a path and a method ask for;
* `Web.tokenOf?` — the token in credentials;
* `Web.Body.content` — what a body says;
* `Web.readFields?` — the fields in a body;
* `Web.Framework.usual` — the framework.
-/

set_option autoImplicit false

namespace Admission.Web

/-! ### Routes -/

/-- The segment is the given one.  A line break at the end of the last segment does not count. -/
def isLast (segment name : String) : Bool := segment == name || segment == name ++ "\n"

/-- What a path and a method lead to. -/
inductive Destination where
  | health
  | endpoint (e : Endpoint)

/-- The destinations of one segment below the rules. -/
def ruleDestinations (id : String) : Table Destination :=
  (if isLast id "reorder" then [("POST", .endpoint .reorderRules)] else [])
    ++ (if id = "" then []
      else [("PUT", .endpoint (.updateRule id)), ("DELETE", .endpoint (.deleteRule id))])

/-- The destinations of a path, each under its method. -/
def destinations : List String → Table Destination
  | ["", name] => if isLast name "health" then [("GET", .health)] else []
  | ["", "api", name] =>
    if isLast name "rules" then
      [("GET", .endpoint .listRules), ("POST", .endpoint .createRule)]
    else if isLast name "targets" then [("GET", .endpoint .listPlugins)]
    else if isLast name "commands" then [("GET", .endpoint .listCommands)]
    else []
  | ["", "api", "rules", id] => ruleDestinations id
  | ["", "api", "rules", id, last] =>
    if id ≠ "" ∧ isLast last "toggle" then [("POST", .endpoint (.toggleRule id))] else []
  | _ => []

/-- Segments without the empty ones at the end, of which a path that ends in slashes has some. -/
def withoutSlashes (path : List String) : List String :=
  (path.reverse.dropWhile (· == "")).reverse

/-- Where a request leads. -/
inductive Route where
  | to (d : Destination)
  | notFound
  | notAllowed
  /-- The path is known without the slashes at its end. -/
  | elsewhere

def route (method : String) (path : List String) : Route :=
  match Table.get? (destinations path) method with
  | some d => .to d
  | none =>
    if !(destinations path).isEmpty then .notAllowed
    -- an unknown path may be known without the slashes at its end
    else if path.getLast? == some "" && !(destinations (withoutSlashes path)).isEmpty then
      .elsewhere
    else .notFound

/-! ### Credentials -/

/-- The token in credentials: what follows the word that names the scheme, without blanks around
it. -/
def tokenOf? (authorization : Option String) : Option String := do
  let cs := (← authorization).toList
  let scheme := String.ofList ((cs.takeWhile (· != ' ')).map Char.toLower)
  let token := Text.trim (String.ofList ((cs.dropWhile (· != ' ')).drop 1))
  if scheme = "bearer" ∧ token ≠ "" then some token else none

/-! ### Bodies -/

/-- What a body says: nothing, or a value; or why it says neither. -/
inductive Content where
  | absent
  | value (v : Value)
  | refused (failure : Json.Failure)

/-- A text without the byte order mark in front. -/
def withoutMark (s : String) : String :=
  match s.toList with
  | c :: rest => if c.toNat = 0xFEFF then String.ofList rest else s
  | [] => s

/-- What a body says.  An empty body says nothing, and neither does null. -/
def Body.content : Body → Content
  | .absent => .absent
  | .json .null => .absent
  | .json v => .value v
  | .text s =>
    if s = "" then .absent
    else
      match Json.read (withoutMark s) with
      | .error failure => .refused failure
      | .ok .null => .absent
      | .ok v => .value v

/-- The value that a content is. -/
def Content.value? : Content → Option Value
  | .value v => some v
  | _ => none

/-- A field of a body under its name; none at all for null, and a refusal for what does not fit the
type. -/
def optionalField? (entries : Fields) (name : String) (type : Schema.FieldType) : Option Fields :=
  match Fields.getD entries name with
  | .null => some []
  | v => (type.read? v).map fun v => [(name, v)]

/-- The fields of a body that have the given names; fields of other names are dropped. -/
def readFields? (entries : Fields) : Table Schema.FieldType → Option Fields
  | [] => some []
  | (name, type) :: rest => do
    let field ← optionalField? entries name type
    let fields ← readFields? entries rest
    return field ++ fields

/-- The fields of a rule that a value gives. -/
def ruleFields? (v : Value) : Option Fields := do readFields? (← Schema.mapping? v) ruleBody

/-- The ids that a value gives. -/
def idsField? (v : Value) : Option (List String) := do
  Schema.texts? (Fields.getD (← Schema.mapping? v) "ids")

/-- The flag that a value gives. -/
def enabledField? (v : Value) : Option Bool := do
  Schema.flag? (Fields.getD (← Schema.mapping? v) "enabled")

/-- What a value gives an endpoint; none when it does not fit. -/
def Endpoint.arguments? : (e : Endpoint) → Value → Option e.Arguments
  | .createRule, v | .updateRule _, v => ruleFields? v
  | .reorderRules, v => idsField? v
  | .toggleRule _, v => enabledField? v
  | .listRules, _ | .listPlugins, _ | .listCommands, _ | .deleteRule _, _ => some ()

/-- The endpoint looks at the body of the request. -/
def Endpoint.takesBody : Endpoint → Bool
  | .createRule | .reorderRules | .updateRule _ | .toggleRule _ => true
  | _ => false

/-! ### Responses -/

/-- The response to a body or a field that does not fit. -/
def Response.unprocessable : Response := ⟨422, none⟩

/-- The response to a body that cannot be read. -/
def Response.unreadable : Json.Failure → Response
  | .malformed => unprocessable
  | .numeralTooLong => failure 400 "There was an error parsing the body"

mutual

/-- A value as it is published: objects by their attributes, and nothing without a written form. -/
def publish : Value → Except Fault Value
  | .int i => (Integer.decimal? i).map fun _ => .int i
  | .float d => if d.isFinite then .ok (.float d) else .error .notFinite
  | .list _ items => (publishItems items).map .ofList
  | .tuple _ items => (publishItems items).map .ofList
  | .mapping _ entries _ => (publishEntries entries).map .ofFields
  | .object _ _ entries => (publishEntries entries).map .ofFields
  | v => .ok v

def publishItems : List Value → Except Fault (List Value)
  | [] => .ok []
  | v :: rest => do
    let v ← publish v
    let rest ← publishItems rest
    return v :: rest

def publishEntries : List (String × Value) → Except Fault (List (String × Value))
  | [] => .ok []
  | (k, v) :: rest => do
    let v ← publish v
    let rest ← publishEntries rest
    return (k, v) :: rest

end

/-! ### Requests -/

/-- The response to a body that an endpoint looks at and that cannot be read. -/
def Endpoint.refusal? (e : Endpoint) : Content → Option Response
  | .refused failure => if e.takesBody then some (.unreadable failure) else none
  | _ => none

/-- A request for an endpoint, given what its body says.  A body that cannot be read is refused
before anybody asks for credentials, and one that does not fit only afterwards. -/
def Endpoint.receive (e : Endpoint) (authorization : Option String) (content : Content) :
    Received :=
  match e.refusal? content, tokenOf? authorization with
  | some response, _ => .answered response
  | none, none => .answered (.failure 401 "Not authenticated")
  | none, some token =>
    match e.arguments? (content.value?.getD .null) with
    | some arguments => .handed e token (.ok arguments)
    | none => .handed e token (.error .unprocessable)

/-- The usual framework. -/
def Framework.usual : Framework where
  token? := tokenOf?
  value? := fun body => body.content.value?
  receive := fun r =>
    match route r.method r.path with
    | .notFound => .answered (.failure 404 "Not Found")
    | .notAllowed => .answered (.failure 405 "Method Not Allowed")
    | .elsewhere => .redirected { r with path := withoutSlashes r.path }
    | .to .health => .health
    | .to (.endpoint e) => e.receive r.authorization r.body.content
  publish := Web.publish

end Admission.Web
