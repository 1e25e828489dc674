import Admission.Number.Integer
import Admission.Value.Basic

/-!
# Reading JSON

A reader of JSON texts that keeps everything a rule file can say: the order of the entries of an
object, the difference between integers and doubles, and integers of any size up to the digit limit.
When an object names a key twice, the key keeps its first place and takes the last value.

Beyond the standard, `NaN`, `Infinity` and `-Infinity` are numbers, and a number too large for a
double is infinite.  Control characters are refused inside texts, and a byte order mark is refused
in front.

The reader works on the list of characters that is left.  Nesting is bounded by the length of the
text, which is the fuel of the three functions that call each other.

Main definitions:

* `Json.Failure` — why a text is refused;
* `Json.readText` — the rest of a text literal;
* `Json.readNumber` — a number;
* `Json.readValue` — a value at the head of the characters, and what follows it;
* `Json.read`, `Json.read?` — a whole text as one value.
-/

set_option autoImplicit false

namespace Admission.Json

/-- Why a text is refused. -/
inductive Failure where
  /-- The text is no JSON. -/
  | malformed
  /-- The text has a numeral that is too long for an integer. -/
  | numeralTooLong
  deriving DecidableEq, Repr

/-- A part of a text that was read, and what follows it. -/
abbrev Reading (α : Type) := Except Failure (α × List Char)

def refused {α : Type} : Reading α := .error .malformed

/-- Changes what was read. -/
def Reading.become {α β : Type} (f : α → β) (r : Reading α) : Reading β :=
  r.map fun (a, rest) => (f a, rest)

def isBlank (c : Char) : Bool := c == ' ' || c == '\t' || c == '\n' || c == '\r'

def skip (cs : List Char) : List Char := cs.dropWhile isBlank

/-! ### Text literals -/

def hexValue? (c : Char) : Option Nat :=
  if '0' ≤ c ∧ c ≤ '9' then some (c.toNat - '0'.toNat)
  else if 'a' ≤ c ∧ c ≤ 'f' then some (c.toNat - 'a'.toNat + 10)
  else if 'A' ≤ c ∧ c ≤ 'F' then some (c.toNat - 'A'.toNat + 10)
  else none

/-- The number that four hexadecimal digits spell. -/
def hexQuad? (a b c d : Char) : Option Nat := do
  let a ← hexValue? a
  let b ← hexValue? b
  let c ← hexValue? c
  let d ← hexValue? d
  return ((a * 16 + b) * 16 + c) * 16 + d

/-- The character of a code unit; half of a surrogate pair alone is the replacement character. -/
def charOfUnit (n : Nat) : Char :=
  if 0xD800 ≤ n ∧ n < 0xE000 then Char.ofNat 0xFFFD else Char.ofNat n

/-- The character that two code units make up as a surrogate pair. -/
def pairChar? (high low : Nat) : Option Char :=
  if 0xD800 ≤ high ∧ high < 0xDC00 ∧ 0xDC00 ≤ low ∧ low < 0xE000 then
    some (Char.ofNat (0x10000 + (high - 0xD800) * 0x400 + (low - 0xDC00)))
  else none

/-- The character that a single letter after the backslash stands for. -/
def escaped? (c : Char) : Option Char :=
  if c == '"' then some '"'
  else if c == '\\' then some '\\'
  else if c == '/' then some '/'
  else if c == 'b' then some '\x08'
  else if c == 'f' then some '\x0c'
  else if c == 'n' then some '\n'
  else if c == 'r' then some '\r'
  else if c == 't' then some '\t'
  else none

/-- The characters of a text literal up to the closing quote. -/
def readText : List Char → Reading (List Char)
  | [] => refused
  | '"' :: rest => .ok ([], rest)
  | '\\' :: 'u' :: a :: b :: c :: d :: '\\' :: 'u' :: e :: f :: g :: h :: rest =>
    match hexQuad? a b c d, hexQuad? e f g h with
    | some high, some low =>
      match pairChar? high low with
      | some one => (readText rest).become (one :: ·)
      | none =>
        -- the second unit does not complete a pair, and is read again on its own
        (readText ('\\' :: 'u' :: e :: f :: g :: h :: rest)).become (charOfUnit high :: ·)
    | _, _ => refused
  | '\\' :: 'u' :: a :: b :: c :: d :: rest =>
    match hexQuad? a b c d with
    | some n => (readText rest).become (charOfUnit n :: ·)
    | none => refused
  | '\\' :: c :: rest =>
    match escaped? c with
    | some one => (readText rest).become (one :: ·)
    | none => refused
  | c :: rest =>
    if c == '\\' || c.toNat < 0x20 then refused else (readText rest).become (c :: ·)

/-! ### Numbers -/

/-- The digits before the point: a zero alone, or digits that begin with another one. -/
def wholeDigits? : List Char → Option (List Char × List Char)
  | '0' :: rest => some (['0'], rest)
  | cs =>
    let digits := cs.takeWhile Char.isDigit
    if digits.isEmpty then none else some (digits, cs.dropWhile Char.isDigit)

/-- A point and at least one digit; without these nothing is taken. -/
def fractionDigits (cs : List Char) : List Char × List Char :=
  match cs with
  | '.' :: rest =>
    let digits := rest.takeWhile Char.isDigit
    if digits.isEmpty then ([], cs) else (digits, rest.dropWhile Char.isDigit)
  | _ => ([], cs)

/-- The mark, an optional sign and at least one digit; without these nothing is taken. -/
def exponentPart (cs : List Char) : Option Int × List Char :=
  match cs with
  | [] => (none, cs)
  | e :: rest =>
    if e == 'e' || e == 'E' then
      let (negative, unsigned) : Bool × List Char := match rest with
        | '-' :: more => (true, more)
        | '+' :: more => (false, more)
        | _ => (false, rest)
      let digits := unsigned.takeWhile Char.isDigit
      if digits.isEmpty then (none, cs)
      else
        let n : Int := Nat.ofDigitChars 10 digits 0
        (some (if negative then -n else n), unsigned.dropWhile Char.isDigit)
    else (none, cs)

/-- A number without its sign.  It is a double when it has a fraction or an exponent, and an
integer otherwise. -/
def readUnsigned (negative : Bool) (cs : List Char) : Reading Value :=
  match wholeDigits? cs with
  | none => refused
  | some (whole, rest) =>
    let (fraction, rest) := fractionDigits rest
    let (exponent, rest) := exponentPart rest
    -- only integers have a limit to their digits
    if fraction.isEmpty && exponent.isNone then
      match Integer.readDigits whole with
      | .ok n => .ok (.int (if negative then -(n : Int) else n), rest)
      | .error _ => .error .numeralTooLong
    else
      .ok (.float (Double.ofDecimal negative (Nat.ofDigitChars 10 (whole ++ fraction) 0)
        (exponent.getD 0 - (fraction.length : Int))), rest)

def readNumber : List Char → Reading Value
  | '-' :: rest => readUnsigned true rest
  | cs => readUnsigned false cs

/-! ### Values -/

/-- What follows the given word at the head of the characters. -/
def word? : List Char → List Char → Option (List Char)
  | [], cs => some cs
  | _ :: _, [] => none
  | w :: word, c :: cs => if w == c then word? word cs else none

/-- The values that are spelled as words. -/
def words : List (List Char × Value) :=
  [("null".toList, .null), ("true".toList, .bool true), ("false".toList, .bool false),
   ("NaN".toList, .float .nan), ("Infinity".toList, .float (.infinite false)),
   ("-Infinity".toList, .float (.infinite true))]

def readScalar (cs : List Char) : Reading Value :=
  match words.findSome? (fun (w, v) => (word? w cs).map fun rest => (v, rest)) with
  | some found => .ok found
  | none => readNumber cs

/-- Entries in order, a repeated key in its first place with its last value. -/
def mergeEntries (entries : Fields) : Fields := Table.overlay [] entries

mutual

def readValue : Nat → List Char → Reading Value
  | 0, _ => refused
  | fuel + 1, cs =>
    match cs with
    | '"' :: rest => (readText rest).become fun s => .str (String.ofList s)
    | '[' :: rest =>
      match skip rest with
      | ']' :: r => .ok (.ofList [], r)
      | r => (readItems fuel r).become .ofList
    | '{' :: rest =>
      match skip rest with
      | '}' :: r => .ok (.ofFields [], r)
      | r => (readEntries fuel r).become fun entries => .ofFields (mergeEntries entries)
    | _ => readScalar cs

/-- The items of a list up to its closing bracket. -/
def readItems : Nat → List Char → Reading (List Value)
  | 0, _ => refused
  | fuel + 1, cs =>
    match readValue fuel cs with
    | .error failure => .error failure
    | .ok (v, rest) =>
      match skip rest with
      | ',' :: r => (readItems fuel (skip r)).become (v :: ·)
      | ']' :: r => .ok ([v], r)
      | _ => refused

/-- The entries of an object up to its closing brace. -/
def readEntries : Nat → List Char → Reading (List (String × Value))
  | 0, _ => refused
  | fuel + 1, cs =>
    match cs with
    | '"' :: rest =>
      match readText rest with
      | .error failure => .error failure
      | .ok (key, rest) =>
        match skip rest with
        | ':' :: r =>
          match readValue fuel (skip r) with
          | .error failure => .error failure
          | .ok (v, rest) =>
            match skip rest with
            | ',' :: r => (readEntries fuel (skip r)).become ((String.ofList key, v) :: ·)
            | '}' :: r => .ok ([(String.ofList key, v)], r)
            | _ => refused
        | _ => refused
    | _ => refused

end

/-- A whole text as one value, or why it is refused. -/
def read (s : String) : Except Failure Value :=
  let cs := s.toList
  match readValue (cs.length + 1) (skip cs) with
  | .error failure => .error failure
  | .ok (v, rest) => if (skip rest).isEmpty then .ok v else .error .malformed

/-- A whole text as one value. -/
def read? (s : String) : Option Value := (read s).toOption

end Admission.Json
