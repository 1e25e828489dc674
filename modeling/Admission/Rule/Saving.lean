import Admission.Rule.File

/-!
# Saving from several sides

Several callers may want the rules saved while another one is at it.  A call takes the rules as they
are when it is started, and waits in a line.  Whoever has the lock makes the directories, writes the
temporary neighbour and moves it over the file, one step at a time and with steps of others in
between, and then lets the next one have the lock.  Any of these steps may fail half done.  All
calls use the same temporary neighbour.

Main definitions:

* `Save`, `Save.Stage`, `Save.Act` — a call, how far it has come, and what it can do next;
* `Save.act?` — a step of a call that writes;
* `Saver`, `Saver.step?`, `Saver.run?` — all calls, their steps in any order.
-/

set_option autoImplicit false

namespace Admission

/-! ### One call -/

/-- How far a call has come. -/
inductive Save.Stage where
  /-- It waits for the lock. -/
  | waiting
  /-- It has the lock. -/
  | admitted
  /-- The directories are there. -/
  | prepared
  /-- The temporary neighbour is written. -/
  | written
  /-- The file is replaced. -/
  | replaced
  /-- A step has failed.  An error of the operating system is absorbed, any other one is not. -/
  | failed (absorbed : Bool)
  /-- It has let go of the lock and told its caller whether it wrote. -/
  | answered (done : Bool)
  /-- It has ended in an error that went to its caller. -/
  | stopped
  deriving DecidableEq, Repr

namespace Save.Stage

/-- The call has the lock. -/
def isWriting : Stage → Bool
  | .admitted => true
  | .prepared => true
  | .written => true
  | .replaced => true
  | .failed _ => true
  | _ => false

/-- The write of the call went through. -/
def isThrough : Stage → Bool
  | .replaced => true
  | .answered done => done
  | _ => false

/-- Nothing more comes from the call. -/
def isOver : Stage → Bool
  | .answered _ => true
  | .stopped => true
  | _ => false

/-- How a call ends that has written or failed. -/
def ending? : Stage → Option Stage
  | .replaced => some (.answered true)
  | .failed true => some (.answered false)
  | .failed false => some .stopped
  | _ => none

end Save.Stage

/-- A call. -/
structure Save where
  /-- The rules as they were when the call was started. -/
  rules : List Rule
  stage : Save.Stage

namespace Save

/-- What a step that fails has done all the same. -/
inductive Damage where
  | nothing
  /-- Some of the directories on the way were made. -/
  | directories (count : Nat)
  /-- The temporary neighbour has some bytes. -/
  | remains (bytes : ByteArray)

/-- What a call that has the lock can do. -/
inductive Act where
  | prepare
  | write
  | replace
  | fail (damage : Damage) (absorbed : Bool)

/-- What is written: the text of the rules, if they have one. -/
def bytes? (rules : List Rule) : Option ByteArray :=
  (RuleFile.render rules).toOption.map String.toUTF8

/-- The temporary neighbour of a file. -/
def temporary (components : List String) : List String :=
  markLast RuleFile.temporaryMark components

/-- What a step that fails leaves, when a call has come to a stage. -/
def left? (components : List String) (t : FileTree) : Stage → Damage → Option FileTree
  | .admitted, .nothing => some t
  | .admitted, .directories count =>
    some (t.makeDirectories [] (components.dropLast.take count)).1
  | .prepared, .nothing => some t
  | .prepared, .remains bytes => (t.write (temporary components) bytes).toOption
  | .written, .nothing => some t
  | _, _ => none

/-- A step of a call that writes the file that components lead to. -/
def act? (components : List String) (t : FileTree) (c : Save) : Act → Option (FileTree × Stage)
  | .prepare =>
    if c.stage = .admitted ∧ (t.makeDirectories [] components.dropLast).2 then
      some ((t.makeDirectories [] components.dropLast).1, .prepared)
    else none
  | .write =>
    if c.stage = .prepared then do
      let u ← (t.write (temporary components) (← bytes? c.rules)).toOption
      return (u, .written)
    else none
  | .replace =>
    if c.stage = .written then do
      let u ← (t.move (temporary components) components).toOption
      return (u, .replaced)
    else none
  | .fail damage absorbed => (left? components t c.stage damage).map (·, .failed absorbed)

end Save

/-! ### All calls -/

/-- The calls that save to one file. -/
structure Saver where
  path : Path
  files : FileTree
  /-- The calls in the order in which they were started. -/
  calls : List Save
  /-- The place of the call that has the lock. -/
  holder : Option Nat
  /-- The places of the calls that wait for the lock, the first one in front. -/
  queue : List Nat

namespace Saver

def idle (path : Path) (files : FileTree) : Saver := ⟨path, files, [], none, []⟩

def setStage (s : Saver) (place : Nat) (stage : Save.Stage) : Saver :=
  { s with calls := s.calls.modify place fun c => { c with stage } }

/-- What happens. -/
inductive Event where
  | start (rules : List Rule)
  /-- A call gets the lock. -/
  | grant (place : Nat)
  | act (place : Nat) (a : Save.Act)
  /-- A call lets go of the lock. -/
  | leave (place : Nat)

/-- What comes of an event; none when it cannot happen. -/
def step? (s : Saver) : Event → Option Saver
  | .start rules =>
    match RuleFile.render rules with
    | .ok _ => some { s with
        calls := s.calls ++ [⟨rules, .waiting⟩]
        queue := s.queue ++ [s.calls.length] }
    -- rules without a written form never come to the lock
    | .error _ => some { s with calls := s.calls ++ [⟨rules, .stopped⟩] }
  | .grant place =>
    if s.holder = none ∧ s.queue.head? = some place then
      some { s.setStage place .admitted with holder := some place, queue := s.queue.tail }
    else none
  | .act place a => do
    let c ← s.calls[place]?
    -- nothing here asks who has the lock
    let (files, stage) ← c.act? s.path.components s.files a
    return { s.setStage place stage with files }
  | .leave place => do
    let c ← s.calls[place]?
    let stage ← c.stage.ending?
    return { s.setStage place stage with holder := none }

def run? (s : Saver) (events : List Event) : Option Saver := events.foldlM step? s

def stageAt? (s : Saver) (place : Nat) : Option Save.Stage := s.calls[place]?.map (·.stage)

/-- Nothing more comes from the calls. -/
def isQuiet (s : Saver) : Bool := s.calls.all (·.stage.isOver)

end Saver

end Admission
