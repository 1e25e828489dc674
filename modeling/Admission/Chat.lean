import Admission.Engine.Enforce

/-!
# Chat messages

The messages of the Telegram platform are sessions: a message that is written in a private chat is
direct, and one in a group belongs to that group.  Before a message reaches any handler, the rules
for messages are asked; a message that they drop is answered, if the rule has a response, and no
handler sees it.

Main definitions:

* `ChatMessage.session` — a message as a session;
* `Site.filterMessage` — asking the rules about a message.
-/

set_option autoImplicit false

namespace Admission

/-- Somebody, or a message that is quoted: an id and all that is known. -/
structure ChatParty where
  id : Value
  dump : Value

/-- A message in a chat. -/
structure ChatMessage where
  id : Value
  text : Value
  caption : Value
  chatKind : Value
  chatId : Value
  sender : Option ChatParty
  quoted : Option ChatParty
  bot : Option ChatParty
  /-- All that is known about the message. -/
  dump : Value

namespace ChatMessage

def isDirect (m : ChatMessage) : Bool := m.chatKind.isStr "private"

/-- What is written: the text, or the caption where there is no text. -/
def content (m : ChatMessage) : Value :=
  if m.text.truthy then m.text else if m.caption.truthy then m.caption else .str ""

def idText (id : Value) : Value := .str (keyText id)

/-- The text of the id of somebody, empty when there is nobody. -/
def partyId : Option ChatParty → Value
  | some party => idText party.id
  | none => .str ""

/-- What is known about somebody, null when there is nobody. -/
def partyDump : Option ChatParty → Value
  | some party => party.dump
  | none => .null

/-- A message as a session. -/
def session (m : ChatMessage) : Session where
  platform := .str "telegram"
  selfId := partyId m.bot
  userId := partyId m.sender
  channelId := idText m.chatId
  guildId := if m.isDirect then .str "" else idText m.chatId
  isDirect := .bool m.isDirect
  content := m.content
  kind := .str "message"
  event := m.dump
  author := partyDump m.sender
  quote := partyDump m.quoted

end ChatMessage

/-- What becomes of a message. -/
inductive ChatOutcome where
  /-- The handlers see the message. -/
  | handled
  /-- The message is dropped, with these answers. -/
  | dropped (answers : List String)
  deriving DecidableEq, Repr

/-- Asks the rules about a message. -/
def Site.filterMessage (s : Site) (m : ChatMessage) : Except Fault ChatOutcome × Site :=
  match s.decideMessage m.session with
  | (.error fault, s) => (.error fault, s)
  | (.ok d, s) =>
    if d.isBlocked then
      (.ok (.dropped (Site.repliesOf d.response)),
       s.note .info .chat
        ("Message " ++ keyText m.id ++ " blocked by rule " ++ d.ruleId))
    else (.ok .handled, s)

end Admission
