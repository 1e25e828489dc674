import Admission.Text.Blank
import Admission.Value.Basic

/-!
# Loosely typed fields

Settings and requests have fields of a type, but what they are given often comes as text.  A flag
may be given as zero or one or as one of twelve words, an integer as a boolean, as a double without
a fraction, or as a numeral.  Texts have to be texts.

Main definitions:

* `Schema.flag?`, `Schema.integer?`, `Schema.text?`, `Schema.texts?`, `Schema.mapping?` — what a
  value stands for as a field of the type, if it can;
* `Schema.FieldType` — the types.
-/

set_option autoImplicit false

namespace Admission.Schema

/-! ### Flags -/

/-- The words that say yes, in small letters. -/
def yesWords : List String := ["1", "t", "y", "on", "yes", "true"]

/-- The words that say no, in small letters. -/
def noWords : List String := ["0", "f", "n", "no", "off", "false"]

/-- The flag that a word says, capitals of ASCII counting as small letters. -/
def flagOfText? (s : String) : Option Bool :=
  let word := String.ofList (s.toList.map Char.toLower)
  if yesWords.contains word then some true
  else if noWords.contains word then some false
  else none

/-- The flag that an integer stands for. -/
def flagOfInt? (i : Int) : Option Bool :=
  if i = 0 then some false else if i = 1 then some true else none

/-! ### Integers -/

def isSpace (c : Char) : Bool := Text.isBlank c && !(0x1c ≤ c.toNat && c.toNat ≤ 0x1f)

/-- The most digits of a numeral. -/
def digitLimit : Nat := 4300

/-- A numeral without the zeros in front of it, given the latest of them.  Underscores among the
zeros go with them.  The latest zero stays if a point or nothing follows. -/
def afterZeros? (latest : Char) : List Char → Option (List Char)
  | [] => some [latest]
  | c :: rest =>
    if c == '0' || c == '_' then afterZeros? c rest
    else if c.isDigit || c == '-' then some (c :: rest)
    else if c == '.' then some (latest :: c :: rest)
    else none

/-- A numeral without zeros in front.  Behind a minus sign they stay. -/
def trimZeros? : List Char → Option (List Char)
  | '0' :: rest => afterZeros? '0' rest
  | c :: rest => if c.isDigit || c == '-' then some (c :: rest) else none
  | [] => none

/-- What stands before a point that is followed by zeros only, one at least.  A numeral without a
point stands for itself. -/
def beforePoint? (cs : List Char) : Option (List Char) :=
  match cs.dropWhile (· != '.') with
  | [] => some cs
  | _ :: zeros =>
    if zeros != [] && zeros.all (· == '0') then some (cs.takeWhile (· != '.')) else none

/-- Two underscores stand side by side. -/
def hasDoubleUnderscore : List Char → Bool
  | '_' :: '_' :: _ => true
  | _ :: rest => hasDoubleUnderscore rest
  | [] => false

/-- A numeral without its underscores, each of which stands alone and at neither end. -/
def joinDigits? (cs : List Char) : Option (List Char) :=
  if cs.head? == some '_' || cs.getLast? == some '_' || hasDoubleUnderscore cs then none
  else some (cs.filter (· != '_'))

/-- The natural number that digits without needless zeros spell. -/
def natural? (cs : List Char) : Option Nat :=
  match cs with
  | [] => none
  | '0' :: _ :: _ => none
  | _ =>
    if cs.all Char.isDigit && cs.length ≤ digitLimit then some (Nat.ofDigitChars 10 cs 0)
    else none

/-- The integer that a numeral with an optional minus sign spells. -/
def signed? : List Char → Option Int
  | '-' :: rest => (natural? rest).map fun n => -(n : Int)
  | rest => (natural? rest).map fun n => (n : Int)

/-- The integer that a text spells. -/
def integerOfText? (s : String) : Option Int := do
  let cs ← match Text.trimBy isSpace s.toList with
    -- there is one sign at most
    | '+' :: '-' :: _ => none
    | '+' :: rest => some rest
    | rest => some rest
  signed? (← joinDigits? (← beforePoint? (← trimZeros? cs)))

/-- The integer that a double is, if it is one of fewer than 64 bits. -/
def integerOfDouble? (d : Double) : Option Int :=
  if d.isFinite && d.isIntegral && d.truncate.natAbs < Nat.pow 2 63 then some d.truncate else none

/-! ### Fields -/

/-- The flag that a value stands for. -/
def flag? : Value → Option Bool
  | .bool b => some b
  | .int i => flagOfInt? i
  | .float d => (integerOfDouble? d).bind flagOfInt?
  | .str s => flagOfText? s
  | _ => none

/-- The integer that a value stands for. -/
def integer? : Value → Option Int
  | .bool b => some (if b then 1 else 0)
  | .int i => some i
  | .float d => integerOfDouble? d
  | .str s => integerOfText? s
  | _ => none

def text? (v : Value) : Option String := v.str?

def texts? : Value → Option (List String)
  | .list _ items => items.mapM text?
  | _ => none

def mapping? (v : Value) : Option Fields := v.fields?

/-- The type of a field. -/
inductive FieldType where
  | text
  | flag
  | integer
  | mapping
  deriving DecidableEq, Repr

/-- What a value gives as a field, as the type of the field wants it. -/
def FieldType.read? : FieldType → Value → Option Value
  | .text, v => (text? v).map .str
  | .flag, v => (flag? v).map .bool
  | .integer, v => (integer? v).map .int
  | .mapping, v => (mapping? v).map .ofFields

end Admission.Schema
