import Admission.Host.Walk
import Admission.Operation.Authority

/-!
# Administrative operations

What an administrator may ask for: lists of the rules, of the plugins that rules can name and of
the commands, and changes of the rules.  An operation is known by the name of an event, and what it
works on comes as a payload of any shape.

Main definitions:

* `Operation` — the operations;
* `Operation.ofEvent?` — the operation that an event asks for.
-/

set_option autoImplicit false

namespace Admission

/-- What an administrator may ask for. -/
inductive Operation where
  | listRules
  | listPlugins
  | listCommands
  | create (data : Value)
  | update (data : Value)
  | delete (id : Value)
  | reorder (ids : Value)
  | toggle (id enabled : Value)
  /-- Nothing is asked for. -/
  | nothing

namespace Operation

/-- The operation that switches the rule that a mapping names; nothing for other payloads. -/
def toggleOf : Value → Operation
  | .mapping _ entries _ => .toggle (Fields.getD entries "id") (Fields.getD entries "enabled")
  | _ => .nothing

/-- The operation that an event asks for with its payload. -/
def ofEvent? (event : String) (payload : Value) : Option Operation :=
  if event = "filter-pro/list" then some .listRules
  else if event = "filter-pro/targets" then some .listPlugins
  else if event = "filter-pro/commands" then some .listCommands
  else if event = "filter-pro/create" then some (.create payload)
  else if event = "filter-pro/update" then some (.update payload)
  else if event = "filter-pro/delete" then some (.delete payload)
  else if event = "filter-pro/reorder" then some (.reorder payload)
  else if event = "filter-pro/toggle" then some (toggleOf payload)
  else none

end Operation

namespace PluginOption

def toValue (o : PluginOption) : Value :=
  .ofFields [("key", .str o.key), ("name", .str o.name), ("ident", .str o.ident),
    ("label", .str o.label)]

end PluginOption

/-- A command as a mapping: its name, which is also how it is shown. -/
def commandValue (name : String) : Value :=
  .ofFields [("name", .str name), ("label", .str name)]

end Admission
