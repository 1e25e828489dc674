import Admission.File.Path
import Admission.Schema
import Admission.Setting.EnvFile
import Admission.Text.Case

/-!
# Settings

Every setting is looked for in four places in turn: among the settings that are given directly, in
the environment, in a file of environment variables, and among the defaults.  What is found has to
fit the type of the setting.  In the environment the names of settings have a prefix, and the case
of their letters does not count.

Settings may be assigned anew while they are in use, to anything; so they are values here, and
whoever uses one has to see what it is.

Main definitions:

* `Settings` — the settings;
* `Settings.read?` — settings from their sources;
* `Settings.assign` — assigning one anew;
* `Settings.rulesPath?` — where the rule file is.
-/

set_option autoImplicit false

namespace Admission

/-- The settings. -/
structure Settings where
  /-- The directory below which data are kept. -/
  baseDir : Value
  /-- The name of the rule file. -/
  filename : Value
  /-- Details of what matched are asked for. -/
  debug : Value
  /-- The least authority for administrative operations. -/
  consoleAuthority : Value
  /-- The token that grants access to administration. -/
  adminToken : Value
  /-- The authority that the token grants. -/
  adminAuthority : Value

namespace Settings

/-- The prefix of the names of settings in the environment, in small letters. -/
def namePrefix : String := "filterpro_"

/-- The sources of settings besides their defaults. -/
structure Sources where
  /-- The settings that are given directly. -/
  given : Fields
  environment : Table String
  /-- The text of a file of environment variables. -/
  file : Option String

/-- A character in small letters; the capital i with a dot becomes two characters. -/
def smallLetters (c : Char) : List Char :=
  if c.toNat = 0x130 then ['i', Char.ofNat 0x307] else [Char.ofNat (Text.lowercase c.toNat)]

/-- A name in small letters. -/
def smallName (name : String) : String := String.ofList (name.toList.flatMap smallLetters)

/-- Variables with names in small letters.  The last of several of one name counts. -/
def lowered {α : Type} (table : Table α) : Table α :=
  table.foldl (fun acc e => Table.set acc (smallName e.1) e.2) []

/-- The variables of the file, none for a variable that is only named. -/
def Sources.fileVariables (s : Sources) : Table (Option String) :=
  match s.file with
  | none => []
  | some text => lowered (EnvFile.read s.environment text)

/-- What a setting is given, if anything. -/
def Sources.get? (s : Sources) (name : String) : Option Value :=
  match Table.get? s.given name with
  | some v => some v
  | none =>
    match Table.get? (lowered s.environment) (namePrefix ++ name) with
    | some text => some (.str text)
    | none => (Table.get? s.fileVariables (namePrefix ++ name)).join.map .str

/-- A setting from its sources. -/
def Sources.field? (s : Sources) (name : String) (type : Schema.FieldType) (default : Value) :
    Option Value :=
  match s.get? name with
  | some v => type.read? v
  | none => some default

/-- The settings from their sources; none when some setting does not fit its type. -/
def read? (s : Sources) : Option Settings := do
  let baseDir ← s.field? "base_dir" .text (.str ".")
  let filename ← s.field? "filename" .text (.str "rules.json")
  let debug ← s.field? "debug" .flag (.bool false)
  let consoleAuthority ← s.field? "console_authority" .integer (.int 3)
  let adminToken ← s.field? "admin_token" .text (.str "dev-token-change-me")
  let adminAuthority ← s.field? "admin_authority" .integer (.int 4)
  return { baseDir, filename, debug, consoleAuthority, adminToken, adminAuthority }

/-- The settings that hold when nothing is given. -/
def default : Settings :=
  ⟨.str ".", .str "rules.json", .bool false, .int 3, .str "dev-token-change-me", .int 4⟩

instance : Inhabited Settings := ⟨default⟩

/-- Assigns a setting anew. -/
def assign (s : Settings) (name : String) (v : Value) : Settings :=
  if name = "base_dir" then { s with baseDir := v }
  else if name = "filename" then { s with filename := v }
  else if name = "debug" then { s with debug := v }
  else if name = "console_authority" then { s with consoleAuthority := v }
  else if name = "admin_token" then { s with adminToken := v }
  else if name = "admin_authority" then { s with adminAuthority := v }
  else s

/-! ### Places -/

/-- The directory of the data; none when the base directory is no text. -/
def dataDir? (s : Settings) : Option Path :=
  s.baseDir.str?.map fun dir => ((Path.ofText dir).join "data").join "filterpro"

/-- The place of the rule file; none when it cannot be told. -/
def rulesPath? (s : Settings) : Option Path := do
  let dir ← s.dataDir?
  let name ← s.filename.str?
  return dir.join name

end Settings

end Admission
