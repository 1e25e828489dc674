import Admission.Table
import Admission.Text.Blank

/-!
# Files of environment variables

A file of environment variables has a line for each: a name, an equals sign and a value, with
blanks around them, and perhaps the word `export` in front.  A value may stand between single or
double quotes, in which some characters are escaped and which may run over several lines; else it
ends with the line, or before a comment.  A line that breaks these rules is passed over.

A value may refer to other variables, with a default for those that are not set.

Main definitions:

* `EnvFile.readBinding` — one line;
* `EnvFile.bindings` — all lines;
* `EnvFile.expand` — a value without references;
* `EnvFile.read` — the variables of a file.
-/

set_option autoImplicit false

namespace Admission.EnvFile

/-- The characters of a text, every kind of line break being written in one way. -/
def normalLines : List Char → List Char
  | '\r' :: '\n' :: rest => '\n' :: normalLines rest
  | '\r' :: rest => '\n' :: normalLines rest
  | c :: rest => c :: normalLines rest
  | [] => []

/-- A blank inside a line. -/
def isInnerBlank (c : Char) : Bool := Text.isBlank c && c != '\n' && c != '\r'

/-- What follows the blanks inside a line. -/
def skipInner (cs : List Char) : List Char := cs.dropWhile isInnerBlank

/-! ### Names -/

/-- What follows the word in front of a name, if it is there. -/
def skipExport (cs : List Char) : List Char :=
  match cs with
  | 'e' :: 'x' :: 'p' :: 'o' :: 'r' :: 't' :: c :: rest =>
    if isInnerBlank c then skipInner rest else cs
  | _ => cs

/-- A character of a name without quotes. -/
def isNameChar (c : Char) : Bool := c != '=' && c != '#' && !Text.isBlank c

/-- The name at the head of the characters, none before a comment, and what follows it. -/
def readName? (cs : List Char) : Option (Option (List Char) × List Char) :=
  match cs with
  | '#' :: _ => some (none, cs)
  | '\'' :: rest =>
    match rest.takeWhile (· != '\''), rest.dropWhile (· != '\'') with
    | [], _ => none
    | name, '\'' :: rest => some (some name, rest)
    | _, _ => none
  | _ =>
    match cs.takeWhile isNameChar with
    | [] => none
    | name => some (some name, cs.dropWhile isNameChar)

/-! ### Values -/

/-- The characters up to the quote that ends a value, and what follows it.  A quote after a
backslash belongs to the value, unless no other quote follows. -/
def readQuoted? (quote : Char) : List Char → Option (List Char × List Char)
  | [] => none
  | [c] => if c == quote then some ([], []) else none
  | c :: d :: rest =>
    if c == quote then some ([], d :: rest)
    else if c == '\\' && d == quote then
      match readQuoted? quote rest with
      | some (value, rest) => some (c :: d :: value, rest)
      -- no other quote follows, so this one ends the value after all
      | none => some ([c], rest)
    else (readQuoted? quote (d :: rest)).map fun (value, rest) => (c :: value, rest)

/-- The character that an escaped character between double quotes stands for. -/
def escapedInDouble? (c : Char) : Option Char :=
  if c == '\\' || c == '\'' || c == '"' then some c
  else if c == 'a' then some '\x07'
  else if c == 'b' then some '\x08'
  else if c == 'f' then some '\x0c'
  else if c == 'n' then some '\n'
  else if c == 'r' then some '\r'
  else if c == 't' then some '\t'
  else if c == 'v' then some '\x0b'
  else none

/-- The character that an escaped character between single quotes stands for. -/
def escapedInSingle? (c : Char) : Option Char :=
  if c == '\\' || c == '\'' then some c else none

/-- The characters without their escapes. -/
def unescape (escaped? : Char → Option Char) : List Char → List Char
  | [] => []
  | [c] => [c]
  | c :: d :: rest =>
    match c == '\\', escaped? d with
    | true, some e => e :: unescape escaped? rest
    | _, _ => c :: unescape escaped? (d :: rest)

/-- A comment starts here: blanks, one at least, and the sign of a comment. -/
def startsComment (cs : List Char) : Bool :=
  match cs with
  | c :: rest => Text.isBlank c && (rest.dropWhile Text.isBlank).head? == some '#'
  | [] => false

/-- The characters before a comment. -/
def beforeComment : List Char → List Char
  | [] => []
  | c :: rest => if startsComment (c :: rest) then [] else c :: beforeComment rest

def trimEnd (cs : List Char) : List Char := (cs.reverse.dropWhile Text.isBlank).reverse

/-- The value at the head of the characters, and what follows it. -/
def readValue? (cs : List Char) : Option (List Char × List Char) :=
  match cs with
  | '\'' :: rest =>
    (readQuoted? '\'' rest).map fun (value, rest) => (unescape escapedInSingle? value, rest)
  | '"' :: rest =>
    (readQuoted? '"' rest).map fun (value, rest) => (unescape escapedInDouble? value, rest)
  | _ =>
    some (trimEnd (beforeComment (cs.takeWhile (· != '\n'))), cs.dropWhile (· != '\n'))

/-! ### Lines -/

/-- A variable and its value, none for a variable that is only named. -/
structure Binding where
  name : String
  value : Option String
  deriving DecidableEq, Repr

/-- What follows the end of a line, after blanks and perhaps a comment. -/
def endLine? (cs : List Char) : Option (List Char) :=
  let rest :=
    match skipInner cs with
    | '#' :: rest => rest.dropWhile (· != '\n')
    | rest => rest
  match rest with
  | [] => some []
  | '\n' :: rest => some rest
  | _ => none

/-- What is left of a line that breaks the rules is passed over. -/
def skipLine (cs : List Char) : List Char := (cs.dropWhile (· != '\n')).drop 1

/-- The end of a line with the given name and value, and what follows it. -/
def finish (name : Option (List Char)) (value : Option (List Char)) (cs : List Char) :
    Option Binding × List Char :=
  match endLine? cs with
  | none => (none, skipLine cs)
  | some rest =>
    (name.map fun name => ⟨String.ofList name, value.map String.ofList⟩, rest)

/-- The binding of one line, if it has one, and what follows the line. -/
def readBinding (cs : List Char) : Option Binding × List Char :=
  let cs := skipExport cs
  match readName? cs with
  | none => (none, skipLine cs)
  | some (name, rest) =>
    match skipInner rest with
    | '=' :: rest =>
      let rest := skipInner rest
      match readValue? rest with
      | none => (none, skipLine rest)
      | some (value, rest) => finish name (some value) rest
    | rest => finish name none rest

/-- The bindings of all lines, as many at most as the fuel says. -/
def bindings : Nat → List Char → List Binding
  | 0, _ => []
  | fuel + 1, cs =>
    match cs.dropWhile Text.isBlank with
    | [] => []
    | cs =>
      let (binding, rest) := readBinding cs
      binding.toList ++ bindings fuel rest

/-! ### References -/

/-- A reference at the head of the characters, after the opening brace: the name, the default, and
what follows the closing brace. -/
def readReference? (cs : List Char) : Option (String × String × List Char) :=
  let name := String.ofList (cs.takeWhile fun c => c != '}' && c != ':')
  match cs.dropWhile fun c => c != '}' && c != ':' with
  | '}' :: rest => some (name, "", rest)
  | ':' :: '-' :: rest =>
    match rest.dropWhile (· != '}') with
    | '}' :: after => some (name, String.ofList (rest.takeWhile (· != '}')), after)
    | _ => none
  | _ => none

/-- The characters with the values of variables in place of references to them.  The fuel is the
number of characters. -/
def expandChars (value : String → String → String) : Nat → List Char → List Char
  | 0, _ => []
  | _ + 1, [] => []
  | fuel + 1, c :: rest =>
    match c, rest with
    | '$', '{' :: inner =>
      match readReference? inner with
      | some (name, default, after) =>
        (value name default).toList ++ expandChars value fuel after
      | none => c :: expandChars value fuel rest
    | _, _ => c :: expandChars value fuel rest

/-- A value without references, given the value of a variable that has a default. -/
def expand (value : String → String → String) (s : String) : String :=
  String.ofList (expandChars value s.length s.toList)

/-- Adds a binding to the variables that were read before, which count before the environment. -/
def addBinding (environment : Table String) (known : Table (Option String)) (b : Binding) :
    Table (Option String) :=
  let value (name default : String) : String :=
    match Table.get? known name with
    | some text => text.getD ""
    | none => (Table.get? environment name).getD default
  known.set b.name (b.value.map (expand value))

def read (environment : Table String) (text : String) : Table (Option String) :=
  let cs := normalLines text.toList
  (bindings (cs.length + 1) cs).foldl (addBinding environment) []

end Admission.EnvFile
