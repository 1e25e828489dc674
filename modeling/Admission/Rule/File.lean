import Admission.File.Path
import Admission.File.Tree
import Admission.Json.Reader
import Admission.Log
import Admission.Rule.Normal

/-!
# The rule file

The rules are kept in a file, as an indented JSON list in which characters beyond ASCII stand for
themselves.  Reading is tolerant: whatever the list holds is made into rules, and a file that holds
something else has no rules.  Writing goes by way of a temporary neighbour, so that the file is
replaced as a whole or not at all.

Main definitions:

* `RuleFile.render` — the text of rules;
* `RuleFile.Content`, `RuleFile.content` — what is found where a rule file should be;
* `RuleFile.save` — writing the file.
-/

set_option autoImplicit false

namespace Admission.RuleFile

/-- The style of the rule file. -/
def style : Json.Style := ⟨false, some 2, false⟩

/-- The text of rules. -/
def render (rules : List Rule) : Except Fault String :=
  Json.render style (.ofList (rules.map Rule.toValue))

/-- What is found where a rule file should be. -/
inductive Content where
  /-- There is no file. -/
  | missing
  /-- There is something that cannot be read. -/
  | unreadable
  /-- There is a file that holds no list. -/
  | other
  /-- There is a list. -/
  | items (values : List Value)

/-- What a text holds. -/
def contentOfText (text : String) : Content :=
  match Json.read? text with
  | none => .unreadable
  | some (.list _ items) => .items items
  | some _ => .other

/-- What bytes hold. -/
def contentOfBytes (bytes : ByteArray) : Content :=
  match String.fromUTF8? bytes with
  | none => .unreadable
  | some text => contentOfText text

/-- What is found at a path. -/
def content (t : FileTree) (path : Path) : Content :=
  match t.read path.components with
  | .error .missing => .missing
  | .error _ => .unreadable
  | .ok bytes => contentOfBytes bytes

/-- The rules of a content, none when there is nothing to read them from. -/
def rulesOf (content : Content) (supply : Supply) : Option (List Rule) × Supply :=
  match content with
  | .missing => (none, supply)
  | .unreadable => (none, supply)
  | .other => (some [], supply)
  | .items values =>
    let (rules, supply) := Rule.ofValues values supply
    (some rules, supply)

/-- What stands for the reason in an entry about a file. -/
def reason : String := "<error>"

/-- The entry of the log about a content, if there is something to say. -/
def contentEntry? (path : Path) : Content → Option LogEntry
  | .missing => none
  | .unreadable =>
    some ⟨.warning, .ruleFile, "Cannot read rules from " ++ path.text ++ ": " ++ reason⟩
  | .other =>
    some ⟨.warning, .ruleFile,
      "Rules file " ++ path.text ++ " does not contain a list, ignoring it"⟩
  | .items _ => none

/-- The mark of the temporary neighbour. -/
def temporaryMark : String := ".tmp"

/-- Writes the text of the rules, and tells whether that went through. -/
def save (t : FileTree) (path : Path) (text : String) : FileTree × Bool :=
  t.replaceFile (markLast temporaryMark path.components) path.components text.toUTF8

/-- The entry of the log about a file that was not written. -/
def failureEntry (path : Path) : LogEntry :=
  ⟨.warning, .ruleFile, "Failed to persist rules to " ++ path.text ++ ": " ++ reason⟩

end Admission.RuleFile
