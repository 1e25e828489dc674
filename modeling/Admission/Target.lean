/-!
# Targets

What a rule applies to: every message, the plugins with given keys, or the commands with given
names.

Main definitions:

* `Target` — the three kinds of target;
* `TargetKind` — the kind alone, with its written name;
* `Target.keys` — the keys or names, none for a global target.
-/

set_option autoImplicit false

namespace Admission

/-- What a rule applies to. -/
inductive Target where
  /-- Every message. -/
  | everything
  /-- The plugins with these keys. -/
  | plugins (keys : List String)
  /-- The commands with these names. -/
  | commands (names : List String)
  deriving DecidableEq, Repr, Inhabited

/-- The kind of a target. -/
inductive TargetKind where
  | everything
  | plugins
  | commands
  deriving DecidableEq, Repr, Inhabited

namespace TargetKind

def name : TargetKind → String
  | .everything => "global"
  | .plugins => "plugin"
  | .commands => "command"

def ofName? (s : String) : Option TargetKind :=
  if s = "global" then some .everything
  else if s = "plugin" then some .plugins
  else if s = "command" then some .commands
  else none

end TargetKind

namespace Target

def kind : Target → TargetKind
  | .everything => .everything
  | .plugins _ => .plugins
  | .commands _ => .commands

/-- The keys or names of a target, in order. -/
def keys : Target → List String
  | .everything => []
  | .plugins keys => keys
  | .commands names => names

end Target

end Admission
