import Admission.Json.Reader
import Admission.Text.Split

/-!
# Request targets

The target of a request is a path with an optional query.  Segments that stand for the place itself
or lead upwards are removed; then escaped bytes are decoded, and the path is split into its
segments.  An escaped slash therefore separates segments as well.  Bytes that are no UTF-8 become
replacement characters, one for every part that cannot be continued.

Main definitions:

* `Web.decodeBytes` — bytes as characters;
* `Web.unescape` — a path without escapes;
* `Web.pathOf`, `Web.segments` — the path of a target, and its segments.
-/

set_option autoImplicit false

namespace Admission.Web

/-! ### Bytes -/

/-- The replacement character. -/
def replacement : Char := Char.ofNat 0xFFFD

/-- The number of bytes after the first one of a character, and the range of the second byte. -/
def continuation? (first : Nat) : Option (Nat × Nat × Nat) :=
  if first < 0x80 then some (0, 0, 0)
  else if first < 0xC2 then none
  else if first < 0xE0 then some (1, 0x80, 0xBF)
  else if first = 0xE0 then some (2, 0xA0, 0xBF)
  else if first = 0xED then some (2, 0x80, 0x9F)
  else if first < 0xF0 then some (2, 0x80, 0xBF)
  else if first = 0xF0 then some (3, 0x90, 0xBF)
  else if first < 0xF4 then some (3, 0x80, 0xBF)
  else if first = 0xF4 then some (3, 0x80, 0x8F)
  else none

/-- The bits of a first byte that belong to the character. -/
def leadingBits (first : Nat) : Nat :=
  if first < 0x80 then first
  else if first < 0xE0 then first % 0x20
  else if first < 0xF0 then first % 0x10
  else first % 8

/-- What is known of the character that is being read. -/
structure Pending where
  /-- The bits so far. -/
  bits : Nat
  /-- How many bytes are missing. -/
  missing : Nat
  /-- The range of the next byte. -/
  low : Nat
  high : Nat

/-- The characters of bytes, given the character that is being read. -/
def decodeFrom : Option Pending → List Nat → List Char
  | none, [] => []
  | some _, [] => [replacement]
  | none, b :: rest => first b rest
  | some p, b :: rest =>
    if p.low ≤ b ∧ b ≤ p.high then
      let bits := p.bits * 64 + b % 64
      if p.missing ≤ 1 then Char.ofNat bits :: decodeFrom none rest
      else decodeFrom (some ⟨bits, p.missing - 1, 0x80, 0xBF⟩) rest
    else replacement :: first b rest
where
  /-- The characters of bytes of which the first one begins a character. -/
  first (b : Nat) (rest : List Nat) : List Char :=
    match continuation? b with
    | none => replacement :: decodeFrom none rest
    | some (0, _, _) => Char.ofNat b :: decodeFrom none rest
    | some (missing, low, high) => decodeFrom (some ⟨leadingBits b, missing, low, high⟩) rest

def decodeBytes (bytes : List Nat) : List Char := decodeFrom none bytes

/-! ### Escapes -/

/-- The bytes of characters in which escaped bytes are given by two hexadecimal digits. -/
def escapedBytes : List Char → List Nat
  | '%' :: a :: b :: rest =>
    match Json.hexValue? a, Json.hexValue? b with
    | some high, some low => (high * 16 + low) :: escapedBytes rest
    -- a sign without two digits behind it stands for itself
    | _, _ => 0x25 :: escapedBytes (a :: b :: rest)
  | c :: rest => (String.singleton c).toUTF8.toList.map UInt8.toNat ++ escapedBytes rest
  | [] => []
termination_by cs => cs.length

/-- The characters without escapes. -/
def unescape (cs : List Char) : List Char := decodeBytes (escapedBytes cs)

/-! ### Paths -/

/-- The path of a target, before its query. -/
def pathOf (target : String) : List Char :=
  target.toList.takeWhile fun c => c != '?' && c != '#'

/-- Adds a segment to those before it, which are kept in reverse.  The empty segment before the
first slash stays. -/
def addSegment (before : List (List Char)) (segment : List Char) : List (List Char) :=
  if segment = ['.'] then before
  else if segment = ['.', '.'] then
    match before with
    | [] => []
    | [[]] => [[]]
    | _ :: rest => rest
  else segment :: before

/-- A path without segments that stand for the place itself or lead upwards. -/
def direct (path : List Char) : List Char :=
  List.intercalate ['/']
    ((Text.splitBy (· == '/') path).foldl addSegment []).reverse

def segments (target : String) : List String :=
  (Text.splitBy (· == '/') (unescape (direct (pathOf target)))).map String.ofList

end Admission.Web
