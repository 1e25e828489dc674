import Admission.Value.Display

/-!
# Writing JSON

Values as JSON texts, on one line or indented.  Tuples are written as lists, numbers that are not
finite by the names that the reader accepts.  Integers beyond the digit limit are refused, and so
are plain objects and ready-made parts of rules unless the style writes them as their text.

Main definitions:

* `Json.Style` — how a text is laid out;
* `Json.write` — the characters of a value;
* `Json.render` — the same as a text.
-/

set_option autoImplicit false

namespace Admission.Json

/-- How a text is laid out. -/
structure Style where
  /-- Characters beyond ASCII are escaped. -/
  ascii : Bool
  /-- The number of blanks by which each level is indented; on one line when there is none. -/
  indent : Option Nat
  /-- What has no JSON form is written as its text. -/
  lenient : Bool
  deriving DecidableEq, Repr

/-- The names of the numbers that are not finite. -/
def spelling : Double.Spelling := ⟨"NaN", "Infinity"⟩

/-- An escape of one code unit. -/
def unitEscape (n : Nat) : List Char := '\\' :: 'u' :: Text.hexDigits 4 n

/-- A character inside a text literal. -/
def escapeChar (ascii : Bool) (c : Char) : List Char :=
  if c == '"' then ['\\', '"']
  else if c == '\\' then ['\\', '\\']
  else if c == '\n' then ['\\', 'n']
  else if c == '\r' then ['\\', 'r']
  else if c == '\t' then ['\\', 't']
  else if c == '\x08' then ['\\', 'b']
  else if c == '\x0c' then ['\\', 'f']
  else if c.toNat < 0x20 then unitEscape c.toNat
  else if ascii && 0x7f ≤ c.toNat then
    if c.toNat < 0x10000 then unitEscape c.toNat
    else
      let n := c.toNat - 0x10000
      unitEscape (0xD800 + n / 0x400) ++ unitEscape (0xDC00 + n % 0x400)
  else [c]

def textLiteral (ascii : Bool) (s : String) : List Char :=
  '"' :: s.toList.flatMap (escapeChar ascii) ++ ['"']

/-- The break before an item at the given depth. -/
def lineBreak (style : Style) (depth : Nat) : List Char :=
  match style.indent with
  | none => []
  | some n => '\n' :: List.replicate (n * depth) ' '

/-- What stands between two items at the given depth. -/
def separator (style : Style) (depth : Nat) : List Char :=
  match style.indent with
  | none => [',', ' ']
  | some _ => ',' :: lineBreak style depth

/-- Written items, with separators, between brackets.  An empty container has nothing between its
brackets. -/
def enclose (style : Style) (depth : Nat) (opening closing : Char) (items : List (List Char)) :
    List Char :=
  match items with
  | [] => [opening, closing]
  | _ =>
    opening :: lineBreak style (depth + 1)
      ++ List.intercalate (separator style (depth + 1)) items
      ++ lineBreak style depth ++ [closing]

/-- The written form of what has no JSON form: its text, or a refusal. -/
def writeOther (style : Style) (v : Value) : Except Fault (List Char) :=
  if style.lenient then v.display.map (textLiteral style.ascii)
  else .error (.notSerializable v.kindName)

/-- A key as a text literal.  Only texts, numbers, booleans and null can be keys. -/
def writeKey (style : Style) : Value → Except Fault (List Char)
  | .null => .ok (textLiteral style.ascii "null")
  | .bool b => .ok (textLiteral style.ascii (if b then "true" else "false"))
  | .int i => (Integer.decimal? i).map (textLiteral style.ascii)
  | .float d => .ok (textLiteral style.ascii (d.text spelling))
  | .str s => .ok (textLiteral style.ascii s)
  | k => .error (.notKey k.kindName)

def entryText (key text : List Char) : List Char := key ++ ':' :: ' ' :: text

mutual

def write (style : Style) (depth : Nat) : Value → Except Fault (List Char)
  | .null => .ok "null".toList
  | .bool b => .ok (if b then "true".toList else "false".toList)
  | .int i => (Integer.decimal? i).map String.toList
  | .float d => .ok (d.text spelling).toList
  | .str s => .ok (textLiteral style.ascii s)
  | .list _ items => (writeItems style (depth + 1) items).map (enclose style depth '[' ']')
  | .tuple _ items => (writeItems style (depth + 1) items).map (enclose style depth '[' ']')
  | .mapping _ entries others =>
    ((Value.interleave 0 (writeEntries style (depth + 1) entries)
      (writeOthers style (depth + 1) others)).mapM id).map (enclose style depth '{' '}')
  | .object origin kind attributes => writeOther style (.object origin kind attributes)
  | .expr e => writeOther style (.expr e)
  | .target t => writeOther style (.target t)
  | .rule id name enabled priority action target condition response =>
    writeOther style (.rule id name enabled priority action target condition response)

def writeItems (style : Style) (depth : Nat) : List Value → Except Fault (List (List Char))
  | [] => .ok []
  | v :: rest => do
    let text ← write style depth v
    let texts ← writeItems style depth rest
    return text :: texts

/-- The characters of each entry, one by one: the first refusal in the order of all entries is the
one that counts. -/
def writeEntries (style : Style) (depth : Nat) :
    List (String × Value) → List (Except Fault (List Char))
  | [] => []
  | (k, v) :: rest =>
    (write style depth v).map (entryText (textLiteral style.ascii k))
      :: writeEntries style depth rest

/-- The characters of each entry under a key that is no text. -/
def writeOthers (style : Style) (depth : Nat) :
    List (Nat × Value × Value) → List (Nat × Except Fault (List Char))
  | [] => []
  | (n, k, v) :: rest =>
    (n, do return entryText (← writeKey style k) (← write style depth v))
      :: writeOthers style depth rest

end

/-- The written form of a value. -/
def render (style : Style) (v : Value) : Except Fault String :=
  (write style 0 v).map String.ofList

end Admission.Json
