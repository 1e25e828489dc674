import Admission.Number.Integer
import Admission.Pattern.Lead
import Admission.Pattern.Match
import Admission.Text.CharName
import Admission.Text.Identifier

/-!
# Reading patterns

A pattern is read from its tokens: single characters, and backslashes with the character behind
them.  The reader keeps track of the groups that have been opened and closed, of the number of
characters that a group can take, and of the flags set at the start of the pattern.

Two things can go wrong.  A malformed pattern matches nothing; a fault stops the comparison.  Some
mistakes are only known after the whole pattern has been read, so that a fault met on the way comes
first: they are noted in the state and looked at in the end.

Main definitions:

* `Pattern.Token`, `Pattern.tokens` — the tokens of a pattern;
* `Pattern.Reader` — the state of the reader;
* `Pattern.readAlternatives`, `Pattern.readSequence` — the grammar;
* `Pattern.parse` — a pattern as a tree;
* `Pattern.search` — whether a pattern matches somewhere in a text.
-/

set_option autoImplicit false

namespace Admission.Pattern

/-! ### Tokens -/

/-- A part of a pattern that is read at once. -/
inductive Token where
  | plain (c : Char)
  | escape (c : Char)
  /-- A backslash with nothing behind it. -/
  | dangling
  deriving DecidableEq, Repr

def tokens : List Char → List Token
  | [] => []
  | ['\\'] => [.dangling]
  | '\\' :: c :: rest => .escape c :: tokens rest
  | c :: rest => .plain c :: tokens rest

def Token.chars : Token → List Char
  | .plain c => [c]
  | .escape c => ['\\', c]
  | .dangling => ['\\']

/-! ### Flags -/

/-- The flags that a pattern can set. -/
structure Flags where
  ignoreCase : Bool := false
  multiline : Bool := false
  dotAll : Bool := false
  verbose : Bool := false
  ascii : Bool := false
  unicode : Bool := false
  template : Bool := false
  deriving DecidableEq, Repr, Inhabited

namespace Flags

def union (a b : Flags) : Flags where
  ignoreCase := a.ignoreCase || b.ignoreCase
  multiline := a.multiline || b.multiline
  dotAll := a.dotAll || b.dotAll
  verbose := a.verbose || b.verbose
  ascii := a.ascii || b.ascii
  unicode := a.unicode || b.unicode
  template := a.template || b.template

def minus (a b : Flags) : Flags where
  ignoreCase := a.ignoreCase && !b.ignoreCase
  multiline := a.multiline && !b.multiline
  dotAll := a.dotAll && !b.dotAll
  verbose := a.verbose && !b.verbose
  ascii := a.ascii && !b.ascii
  unicode := a.unicode && !b.unicode
  template := a.template && !b.template

def meets (a b : Flags) : Bool :=
  (a.ignoreCase && b.ignoreCase) || (a.multiline && b.multiline) || (a.dotAll && b.dotAll)
    || (a.verbose && b.verbose) || (a.ascii && b.ascii) || (a.unicode && b.unicode)
    || (a.template && b.template)

/-- One of the two flags that choose the characters of named classes. -/
def choosesCharacters (f : Flags) : Bool := f.ascii || f.unicode

/-- The flags inside a group that adds some and removes some.  Of the two flags that choose the
characters of named classes, an added one replaces the other. -/
def inside (f added removed : Flags) : Flags :=
  let base := if added.choosesCharacters then { f with ascii := false, unicode := false } else f
  (base.union added).minus removed

/-- The flag with a letter. -/
def ofLetter? (c : Char) : Option Flags :=
  match c with
  | 'i' => some { ignoreCase := true }
  | 'm' => some { multiline := true }
  | 's' => some { dotAll := true }
  | 'x' => some { verbose := true }
  | 'a' => some { ascii := true }
  | 'u' => some { unicode := true }
  | 't' => some { template := true }
  | _ => none

/-- How case is ignored under these flags. -/
def folding (f : Flags) : Folding :=
  if f.ignoreCase then (if f.ascii then .ascii else .unicode) else .exact

end Flags

/-! ### The state of the reader -/

/-- How many characters a pattern can take. -/
structure Width where
  least : Nat
  most : Nat
  deriving DecidableEq, Repr, Inhabited

/-- What a reader knows. -/
structure Reader where
  rest : List Token
  /-- The flags set at the start of the pattern. -/
  flags : Flags
  /-- The widths of the groups so far, the latest first; none for a group that is still open. -/
  groups : List (Option Width)
  names : List (List Char × Nat)
  /-- Inside a lookbehind, the number of the first group that began inside it. -/
  lookbehind : Option Nat
  /-- The greatest number of a group that a condition asks for. -/
  greatestCondition : Nat
  /-- A mistake that counts once the whole pattern has been read. -/
  rejected : Bool
  /-- There is a repetition. -/
  repeats : Bool

/-- Why a pattern cannot be used. -/
inductive Problem where
  | malformed
  | stopped (fault : Fault)
  deriving DecidableEq, Repr

/-- A step of the reader. -/
abbrev Reading := StateT Reader (Except Problem)

/-- Gives up on a malformed pattern. -/
def malformed {α : Type} : Reading α := throw .malformed

def peek : Reading (Option Token) := do return (← get).rest.head?

/-- A lone backslash is found out as soon as it comes ahead. -/
def checkAhead : Reading Unit := do
  if (← peek) = some .dangling then malformed

def next : Reading (Option Token) := do
  match (← get).rest with
  | [] => return none
  | t :: rest =>
    modify fun r => { r with rest := rest }
    checkAhead
    return some t

def accept (c : Char) : Reading Bool := do
  if (← peek) = some (.plain c) then
    let _ ← next
    return true
  else return false

def expect (c : Char) : Reading Unit := do
  unless ← accept c do malformed

/-- Takes at most `limit` characters that satisfy the test. -/
def takeWhile (test : Char → Bool) : Nat → Reading (List Char)
  | 0 => return []
  | limit + 1 => do
    match ← peek with
    | some (.plain c) =>
      if test c then
        let _ ← next
        return c :: (← takeWhile test limit)
      else return []
    | _ => return []

/-- Takes the characters up to the given one, which is taken too.  There must be some. -/
def takeUntil (stop : Char) : Nat → List Char → Reading (List Char)
  | 0, _ => malformed
  | fuel + 1, taken => do
    match ← next with
    | none => malformed
    | some t =>
      if t = .plain stop then
        if taken.isEmpty then malformed else return taken
      else takeUntil stop fuel (taken ++ t.chars)

def name (stop : Char) : Reading (List Char) := do
  takeUntil stop ((← get).rest.length + 1) []

/-! ### Names and numbers of groups -/

/-- The digits of a number with single low lines between them. -/
def digitsOf (previous : Bool) : List Char → Option (List Nat)
  | [] => if previous then some [] else none
  | '_' :: rest =>
    if previous then
      match rest with
      | [] => none
      | _ => digitsOf false rest
    else none
  | c :: rest => do
    let d ← Text.digitValue? c
    let ds ← digitsOf true rest
    return d :: ds

/-- The number that a group is asked for by; it is positive. -/
def groupNumber? (cs : List Char) : Option Nat :=
  let body := match Text.trimBy Text.isBlank cs with
    | '+' :: rest => rest
    | rest => rest
  match digitsOf false body with
  | none => none
  | some ds =>
    if Integer.digitLimit < ds.length then none
    else
      let n := ds.foldl (fun acc d => acc * 10 + d) 0
      if n = 0 then none else some n

def groupCount : Reading Nat := do return (← get).groups.length + 1

def closedWidth? (number : Nat) : Reading (Option Width) := do
  let groups := (← get).groups
  if number = 0 ∨ groups.length < number then return none
  else return (groups.getD (groups.length - number) none)

/-- A group that a lookbehind refers to must be closed and must have begun outside it. -/
def checkLookbehind (number : Nat) : Reading Unit := do
  match (← get).lookbehind with
  | none => return
  | some first =>
    if (← closedWidth? number).isNone then malformed
    if first ≤ number then malformed

def openGroup (label : Option (List Char)) : Reading Nat := do
  let number ← groupCount
  modify fun r => { r with groups := none :: r.groups }
  match label with
  | none => return number
  | some label =>
    if ((← get).names.lookup label).isSome then malformed
    modify fun r => { r with names := (label, number) :: r.names }
    return number

def closeGroup (number : Nat) (width : Width) : Reading Unit :=
  modify fun r =>
    { r with groups := r.groups.set (r.groups.length - number) (some width) }

/-! ### Escapes -/

/-- Exactly the given number of hexadecimal digits, as a number. -/
def hexCode (count : Nat) : Reading Nat := do
  let digits ← takeWhile (fun c => c.isDigit || ('a' ≤ c && c ≤ 'f') || ('A' ≤ c && c ≤ 'F')) count
  if digits.length < count then malformed
  return digits.foldl (fun acc c =>
    acc * 16 + (if c.isDigit then c.toNat - 48 else if c.toNat < 97 then c.toNat - 55
      else c.toNat - 87)) 0

def isOctal (c : Char) : Bool := '0' ≤ c && c ≤ '7'

def octal (digits : List Char) : Nat := digits.foldl (fun acc c => acc * 8 + (c.toNat - 48)) 0

/-- The control character that a letter after the backslash stands for. -/
def controlCode? (c : Char) : Option Nat :=
  match c with
  | 'a' => some 7
  | 'b' => some 8
  | 'f' => some 12
  | 'n' => some 10
  | 'r' => some 13
  | 't' => some 9
  | 'v' => some 11
  | '\\' => some 92
  | _ => none

/-- The named class that a letter after the backslash stands for. -/
def category? (ascii : Bool) (c : Char) : Option ClassItem :=
  match c with
  | 'd' => some (.category .digit false ascii)
  | 'D' => some (.category .digit true ascii)
  | 's' => some (.category .blank false ascii)
  | 'S' => some (.category .blank true ascii)
  | 'w' => some (.category .word false ascii)
  | 'W' => some (.category .word true ascii)
  | _ => none

/-- The escapes that give a character by its number or its name, in a class or outside; none for
others. -/
def numberedCode? (c : Char) : Reading (Option Nat) := do
  match c with
  | 'x' => return some (← hexCode 2)
  | 'u' => return some (← hexCode 4)
  | 'U' =>
    let n ← hexCode 8
    if 0x10FFFF < n then malformed
    return some n
  | 'N' =>
    expect '{'
    let label ← name '}'
    match Text.named? (String.ofList label) with
    | some n => return some n
    | none => malformed
  | _ => return none

/-- An escape inside a class. -/
def classEscape (ascii : Bool) (c : Char) : Reading ClassItem := do
  if let some code := controlCode? c then return .code code
  if let some item := category? ascii c then return item
  if let some code := ← numberedCode? c then return .code code
  if isOctal c then
    let n := octal (c :: (← takeWhile isOctal 2))
    if 0o377 < n then malformed
    return .code n
  if c.isAlphanum then malformed
  return .code c.toNat

/-! ### Pieces -/

/-- What a piece allows to be done with it. -/
inductive PieceKind where
  | anchor
  | repetition
  | other
  deriving DecidableEq, Repr

/-- A part of a sequence, with its width. -/
structure Piece where
  node : Node
  width : Width
  kind : PieceKind

namespace Piece

/-- A piece for one character. -/
def one (test : CharTest) : Piece := ⟨.one test, ⟨1, 1⟩, .other⟩

/-- A piece that takes nothing. -/
def still (node : Node) (kind : PieceKind) : Piece := ⟨node, ⟨0, 0⟩, kind⟩

def sequence (pieces : List Piece) : Node × Width :=
  pieces.foldl (fun (node, width) p =>
    (match node with
      | .empty => p.node
      | _ => .cat p.node node,
     ⟨p.width.least + width.least, p.width.most + width.most⟩)) (.empty, ⟨0, 0⟩)

end Piece

/-- A width beyond all others. -/
def unboundedWidth : Nat := Nat.pow 2 64

def Width.times (w : Width) (least : Nat) (most : Option Nat) : Width :=
  ⟨w.least * least,
   match most with
   | some m => w.most * m
   | none => if w.most = 0 then 0 else unboundedWidth⟩

def Width.either (a b : Width) : Width := ⟨min a.least b.least, max a.most b.most⟩

/-- The most characters that a lookbehind can look back. -/
def farthestBack : Nat := Nat.pow 2 32 - 1

/-- The number of repetitions that is too large. -/
def repetitionLimit : Nat := Nat.pow 2 32 - 1

/-- A number of repetitions, refused when it is too large. -/
def repetitions (digits : List Char) : Reading Nat :=
  match Integer.readDigits digits with
  | .error fault => throw (.stopped fault)
  | .ok n => if repetitionLimit ≤ n then throw (.stopped .repetitionTooLarge) else return n

/-- An escape outside a class. -/
def escapePiece (flags : Flags) (c : Char) : Reading Piece := do
  let ascii := flags.ascii
  let literal (code : Nat) : Piece := .one (.literal false code flags.folding)
  match c with
  | 'A' => return .still (.anchor .textStart) .anchor
  | 'b' => return .still (.anchor (.boundary ascii)) .anchor
  | 'B' => return .still (.anchor (.nonBoundary ascii)) .anchor
  | 'Z' => return .still (.anchor .textEnd) .anchor
  | _ =>
    if let some item := category? ascii c then
      return .one (.oneOf false [item] flags.folding)
    if let some code := controlCode? c then return literal code
    if let some code := ← numberedCode? c then return literal code
    if c = '0' then return literal (octal (← takeWhile isOctal 2))
    if c.isDigit then
      let second ← takeWhile Char.isDigit 1
      let third ← if isOctal c && second.any isOctal then takeWhile isOctal 1 else pure []
      if third.isEmpty then
        let number := Nat.ofDigitChars 10 (c :: second) 0
        match ← closedWidth? number with
        | none => malformed
        | some width =>
          checkLookbehind number
          return ⟨.again number flags.folding, width, .other⟩
      else
        let n := octal (c :: second ++ third)
        if 0o377 < n then malformed
        return literal n
    if c.isAlpha then malformed
    return literal c.toNat

/-! ### Classes -/

/-- One end of a range, or a member by itself. -/
def classMember (ascii : Bool) (t : Token) : Reading ClassItem :=
  match t with
  | .escape c => classEscape ascii c
  | .plain c => return .code c.toNat
  | .dangling => malformed

def classMembers (ascii : Bool) : Nat → List ClassItem → Reading (List ClassItem)
  | 0, _ => malformed
  | fuel + 1, items => do
    match ← next with
    | none => malformed
    | some t =>
      if t = .plain ']' && !items.isEmpty then return items
      let first ← classMember ascii t
      if ← accept '-' then
        match ← next with
        | none => malformed
        | some t =>
          if t = .plain ']' then return items ++ [first, .code '-'.toNat]
          let second ← classMember ascii t
          match first, second with
          | .code low, .code high =>
            if high < low then malformed
            classMembers ascii fuel (items ++ [.range low high])
          | _, _ => malformed
      else classMembers ascii fuel (items ++ [first])

/-- A class behind its opening bracket. -/
def classPiece (flags : Flags) : Reading Piece := do
  let negated ← accept '^'
  let items ← classMembers flags.ascii ((← get).rest.length + 1) []
  match items.eraseDups with
  | [.code c] => return .one (.literal negated c flags.folding)
  | items => return .one (.oneOf negated items flags.folding)

/-! ### Flags in a pattern -/

def flagLetters : Nat → Flags → Reading (Flags × Char)
  | 0, _ => malformed
  | fuel + 1, flags => do
    match ← next with
    | some (.plain c) =>
      match Flags.ofLetter? c with
      | some flag =>
        let flags := flags.union flag
        if flag.choosesCharacters && flags.ascii && flags.unicode then malformed
        flagLetters fuel flags
      | none => return (flags, c)
    | _ => malformed

/-- The flags behind `(?`, the first character of which has been taken: flags for the whole
pattern, or added and removed ones for a group. -/
def flagChanges (first : Char) : Reading (Option (Flags × Flags)) := do
  let fuel := (← get).rest.length + 1
  let (added, stop) ← match Flags.ofLetter? first with
    | some flag => flagLetters fuel flag
    | none => pure ({}, first)
  if stop = ')' then
    modify fun r => { r with flags := r.flags.union added }
    return none
  if stop ≠ ':' && stop ≠ '-' then malformed
  if added.template then malformed
  let removed ← if stop = '-' then do
      let (removed, stop) ← flagLetters fuel {}
      if stop ≠ ':' || removed = {} || removed.choosesCharacters || removed.template then malformed
      pure removed
    else pure {}
  if added.meets removed then malformed
  return some (added, removed)

/-! ### The grammar -/

/-- The flags in force: those of the pattern, or those of the group around. -/
def inForce (scope : Option Flags) : Reading Flags := do
  match scope with
  | some flags => return flags
  | none => return (← get).flags

/-- A blank between the parts of a pattern in which blanks do not count. -/
def isLayout (c : Char) : Bool := Text.isAsciiBlank c

def skipLine : Nat → Reading Unit
  | 0 => return
  | fuel + 1 => do
    match ← next with
    | none => return
    | some t => if t = .plain '\n' then return else skipLine fuel

/-- Skips a comment up to its closing parenthesis. -/
def skipComment : Nat → Reading Unit
  | 0 => malformed
  | fuel + 1 => do
    match ← next with
    | none => malformed
    | some t => if t = .plain ')' then return else skipComment fuel

/-- The bounds of a repetition in braces, the opening one of which has been taken; none when what
follows is no such thing, and then nothing has been taken. -/
def braces : Reading (Option (Nat × Option Nat)) := do
  let before := (← get).rest
  let fuel := before.length
  let low ← takeWhile Char.isDigit fuel
  let comma ← accept ','
  let high ← if comma then takeWhile Char.isDigit fuel else pure low
  if ← accept '}' then
    -- a number that is too large is a fault, even where the bounds are malformed
    let least ← if low.isEmpty then pure 0 else repetitions low
    if high.isEmpty then return some (least, none)
    let most ← repetitions high
    if most < least then malformed
    return some (least, some most)
  else
    -- no bounds: the brace stands for itself
    modify fun r => { r with rest := before }
    return none

def repeatLast (least : Nat) (most : Option Nat) : List Piece → Reading (List Piece)
  | [] => malformed
  | piece :: pieces => do
    if piece.kind ≠ .other then malformed
    modify fun r => { r with repeats := true }
    let reluctant ← accept '?'
    let possessive ← if reluctant then pure false else accept '+'
    let greed := if reluctant then Greed.reluctant
      else if possessive then Greed.possessive
      else Greed.greedy
    return ⟨.loop greed least most piece.node, piece.width.times least most, .repetition⟩ :: pieces

/-- What a group opens with. -/
inductive Opening where
  /-- Nothing to be matched: a comment or flags for the whole pattern. -/
  | nothing
  /-- A reference to a group by its name. -/
  | reference (piece : Piece)
  | capturing (label : Option (List Char))
  | plain (added removed : Flags)
  | atomic
  | look (behind negated : Bool)
  | condition (number : Nat)

/-- What follows `(?P`. -/
def namedOpening (flags : Flags) : Reading Opening := do
  if ← accept '<' then
    let label ← name '>'
    unless Text.isIdentifier label do malformed
    return .capturing (some label)
  if ← accept '=' then
    let label ← name ')'
    unless Text.isIdentifier label do malformed
    match (← get).names.lookup label with
    | none => malformed
    | some number =>
      match ← closedWidth? number with
      | none => malformed
      | some width =>
        checkLookbehind number
        return .reference ⟨.again number flags.folding, width, .other⟩
  malformed

/-- The group that a condition asks for. -/
def conditionOpening : Reading Opening := do
  let label ← name ')'
  let number ← if Text.isIdentifier label then
      match (← get).names.lookup label with
      | some number => pure number
      | none => malformed
    else
      match groupNumber? label with
      | some number => pure number
      | none => malformed
  modify fun r => { r with greatestCondition := max r.greatestCondition number }
  checkLookbehind number
  return .condition number

/-- What a parenthesis opens.  Flags for the whole pattern are allowed at its start only. -/
def opening (flags : Flags) (atStart : Bool) : Reading Opening := do
  unless ← accept '?' do return .capturing none
  match ← next with
  | some (.plain c) =>
    match c with
    | 'P' => namedOpening flags
    | ':' => return .plain {} {}
    | '#' =>
      skipComment ((← get).rest.length + 1)
      return .nothing
    | '=' => return .look false false
    | '!' => return .look false true
    | '<' =>
      match ← next with
      | some (.plain '=') => return .look true false
      | some (.plain '!') => return .look true true
      | _ => malformed
    | '(' => conditionOpening
    | '>' => return .atomic
    | _ =>
      if (Flags.ofLetter? c).isSome || c = '-' then
        match ← flagChanges c with
        | some (added, removed) => return .plain added removed
        | none => if atStart then return .nothing else malformed
      else malformed
  | _ => malformed

mutual

def readAlternatives (scope : Option Flags) : Nat → Bool → Reading (Node × Width)
  | 0, _ => malformed
  | fuel + 1, first => do
    let (node, width) ← readSequence scope fuel (first && scope.isNone) []
    if ← accept '|' then
      let (others, otherWidth) ← readAlternatives scope fuel false
      return (.alt node others, width.either otherWidth)
    else return (node, width)

/-- A sequence of pieces up to a bar, a closing parenthesis or the end.  `first` says that nothing
has been read of the pattern yet. -/
def readSequence (scope : Option Flags) : Nat → Bool → List Piece → Reading (Node × Width)
  | 0, _, _ => malformed
  | fuel + 1, first, pieces => do
    let flags ← inForce scope
    match ← peek with
    | none => return Piece.sequence pieces
    | some .dangling => malformed
    | some (.escape c) =>
      let _ ← next
      let piece ← escapePiece flags c
      readSequence scope fuel first (piece :: pieces)
    | some (.plain c) =>
      if c = '|' || c = ')' then return Piece.sequence pieces
      let _ ← next
      if flags.verbose && isLayout c then readSequence scope fuel first pieces
      else if flags.verbose && c = '#' then
        skipLine ((← get).rest.length + 1)
        readSequence scope fuel first pieces
      else
        match c with
        | '[' => readSequence scope fuel first ((← classPiece flags) :: pieces)
        | '.' => readSequence scope fuel first (.one (.any flags.dotAll) :: pieces)
        | '^' =>
          let place := if flags.multiline then Anchor.lineStart else .textStart
          readSequence scope fuel first (.still (.anchor place) .anchor :: pieces)
        | '$' =>
          let place := if flags.multiline then Anchor.lineEnd else .lastLineEnd
          readSequence scope fuel first (.still (.anchor place) .anchor :: pieces)
        | '?' => readSequence scope fuel first (← repeatLast 0 (some 1) pieces)
        | '*' => readSequence scope fuel first (← repeatLast 0 none pieces)
        | '+' => readSequence scope fuel first (← repeatLast 1 none pieces)
        | '{' =>
          let literal : Piece := .one (.literal false c.toNat flags.folding)
          if (← peek) = some (.plain '}') then
            readSequence scope fuel first (literal :: pieces)
          else
            match ← braces with
            | none => readSequence scope fuel first (literal :: pieces)
            | some (least, most) =>
              readSequence scope fuel first (← repeatLast least most pieces)
        | '(' =>
          match ← readGroup scope fuel (← opening flags (first && pieces.isEmpty)) with
          | none => readSequence scope fuel first pieces
          | some piece => readSequence scope fuel first (piece :: pieces)
        | _ =>
          readSequence scope fuel first
            (.one (.literal false c.toNat flags.folding) :: pieces)

/-- The rest of a group, behind what it opens with. -/
def readGroup (scope : Option Flags) : Nat → Opening → Reading (Option Piece)
  | 0, _ => malformed
  | fuel + 1, opened => do
    let flags ← inForce scope
    match opened with
    | .nothing => return none
    | .reference piece => return some piece
    | .capturing label =>
      let number ← openGroup label
      let (node, width) ← readAlternatives (some flags) fuel false
      expect ')'
      closeGroup number width
      return some ⟨.capture number node, width, .other⟩
    | .plain added removed =>
      let (node, width) ← readAlternatives (some (flags.inside added removed)) fuel false
      expect ')'
      let plain := added = {} && removed = {}
      return some ⟨if plain then node else .scoped node, width, .other⟩
    | .atomic =>
      let (node, width) ← readAlternatives (some flags) fuel false
      expect ')'
      return some ⟨.atomic node, width, .other⟩
    | .look behind negated =>
      let outer := (← get).lookbehind
      -- groups that begin inside the outermost lookbehind may not be referred to there
      if behind && outer.isNone then
        let count ← groupCount
        modify fun r => { r with lookbehind := some count }
      let (node, width) ← readAlternatives (some flags) fuel false
      modify fun r => { r with lookbehind := outer }
      expect ')'
      if behind && (width.least ≠ width.most || farthestBack < width.least) then
        modify fun r => { r with rejected := true }
      let back := if behind then some width.least else none
      return some (.still (.look back negated node) .other)
    | .condition number =>
      let (yes, yesWidth) ← readSequence (some flags) fuel false []
      if ← accept '|' then
        let (no, noWidth) ← readSequence (some flags) fuel false []
        expect ')'
        return some ⟨.ifGroup number yes no, yesWidth.either noWidth, .other⟩
      else
        expect ')'
        return some ⟨.ifGroup number yes .empty, ⟨0, yesWidth.most⟩, .other⟩

end

def Reader.start (ts : List Token) : Reader where
  rest := ts
  flags := {}
  groups := []
  names := []
  lookbehind := none
  greatestCondition := 0
  rejected := false
  repeats := false

/-- A whole pattern, as it is searched for.  Each token is read by at most three steps that use
fuel. -/
def readPattern : Reading Node := do
  checkAhead
  let (node, _) ← readAlternatives none (3 * (← get).rest.length + 3) true
  let reader ← get
  if reader.flags.ascii && reader.flags.unicode then throw (.stopped .incompatibleFlags)
  if !reader.rest.isEmpty || reader.groups.length < reader.greatestCondition
      || reader.rejected || (reader.flags.template && reader.repeats) then
    malformed
  return node.searched reader.flags.ascii

def parse (pattern : String) : Except Problem Node :=
  match readPattern.run (Reader.start (tokens pattern.toList)) with
  | .ok (node, _) => .ok node
  | .error problem => .error problem

/-- The pattern matches somewhere in the text.  A malformed pattern matches nowhere. -/
def search (pattern text : String) : Except Fault Bool :=
  match parse pattern with
  | .ok node => .ok (node.occursIn text.toList.toArray)
  | .error .malformed => .ok false
  | .error (.stopped fault) => .error fault

end Admission.Pattern
