import Admission.Value.Display

/-!
# Sessions

A session is what a host tells about an event: who sent what, where, on which platform.  An
attribute that a host does not provide is null.  Rules do not look at a session directly but at its
attribute map, in which names, ids and the content are texts.

Main definitions:

* `Session` — what a host tells;
* `Session.vars` — the attribute map of a session.
-/

set_option autoImplicit false

namespace Admission

/-- What a host tells about an event. -/
structure Session where
  platform : Value := .null
  selfId : Value := .null
  userId : Value := .null
  channelId : Value := .null
  guildId : Value := .null
  isDirect : Value := .null
  content : Value := .null
  kind : Value := .null
  event : Value := .null
  author : Value := .null
  quote : Value := .null

instance : Inhabited Session := ⟨{}⟩

namespace Session

def text (v : Value) : Except Fault Value :=
  match v with
  | .null => .ok (.str "")
  | v => v.display.map .str

/-- The attribute map of a session.  It cannot be made when an attribute that has to be a text has
none. -/
def vars (s : Session) : Except Fault Fields := do
  let platform ← text s.platform
  let selfId ← text s.selfId
  let userId ← text s.userId
  let channelId ← text s.channelId
  let guildId ← text s.guildId
  let content ← text s.content
  let kind ← text s.kind
  return [("platform", platform), ("selfId", selfId), ("userId", userId),
    ("channelId", channelId), ("guildId", guildId), ("isDirect", s.isDirect),
    ("content", content), ("type", kind), ("event", s.event), ("author", s.author),
    ("quote", s.quote)]

/-- The attribute map of a session with further attributes, which replace those of the same
name. -/
def varsWith (s : Session) (extras : Fields) : Except Fault Fields :=
  s.vars.map fun vars => vars.overlay extras

end Session

end Admission
