/-!
# File trees

Directories and files with their bytes, each under the components that lead to it from the top.
The top itself is a directory.  A component of two dots leads upwards, from a directory only.

Main definitions:

* `FileTree` — directories and files;
* `FileTree.locate` — where components lead;
* `FileTree.read`, `FileTree.write`, `FileTree.move`, `FileTree.makeDirectories` — what can be done
  to it, and how it can fail;
* `FileTree.replaceFile` — writing a file by way of a temporary neighbour.
-/

set_option autoImplicit false

namespace Admission

/-- A directory, or a file with its bytes. -/
inductive FileNode where
  | directory
  | file (bytes : ByteArray)

/-- Why a place cannot be used. -/
inductive FileError where
  /-- Nothing is there, or a directory on the way is missing. -/
  | missing
  /-- Something on the way is not a directory. -/
  | notDirectory
  /-- A directory is there. -/
  | isDirectory
  deriving DecidableEq, Repr

/-- Directories and files. -/
structure FileTree where
  entries : List (List String × FileNode)

namespace FileTree

def empty : FileTree := ⟨[]⟩

instance : Inhabited FileTree := ⟨empty⟩

def node? (t : FileTree) (place : List String) : Option FileNode :=
  if place = [] then some .directory else t.entries.lookup place

def put (t : FileTree) (place : List String) (node : FileNode) : FileTree :=
  ⟨(place, node) :: t.entries.filter (·.1 != place)⟩

def erase (t : FileTree) (place : List String) : FileTree :=
  ⟨t.entries.filter (·.1 != place)⟩

/-- The place that a component leads to. -/
def follow (place : List String) (component : String) : List String :=
  if component = ".." then place.dropLast else place ++ [component]

/-- Where components lead from a place.  All but the last one have to lead to directories. -/
def locate (t : FileTree) : List String → List String → Except FileError (List String)
  | place, [] => .ok place
  | place, component :: rest =>
    match t.node? place with
    | none => .error .missing
    | some (.file _) => .error .notDirectory
    | some .directory => locate t (follow place component) rest

def read (t : FileTree) (components : List String) : Except FileError ByteArray :=
  match t.locate [] components with
  | .error e => .error e
  | .ok place =>
    match t.node? place with
    | none => .error .missing
    | some .directory => .error .isDirectory
    | some (.file bytes) => .ok bytes

def write (t : FileTree) (components : List String) (bytes : ByteArray) :
    Except FileError FileTree :=
  match t.locate [] components with
  | .error e => .error e
  | .ok place =>
    match t.node? place with
    | some .directory => .error .isDirectory
    | _ => .ok (t.put place (.file bytes))

def move (t : FileTree) (source target : List String) : Except FileError FileTree :=
  match t.read source, t.locate [] source, t.locate [] target with
  | .ok bytes, .ok sourcePlace, .ok targetPlace =>
    match t.node? targetPlace with
    | some .directory => .error .isDirectory
    | _ => .ok ((t.erase sourcePlace).put targetPlace (.file bytes))
  | .error e, _, _ => .error e
  | _, .error e, _ => .error e
  | _, _, .error e => .error e

/-- Makes the directories that components lead through from a place, and tells whether all of them
are there in the end. -/
def makeDirectories (t : FileTree) : List String → List String → FileTree × Bool
  | _, [] => (t, true)
  | place, component :: rest =>
    let next := follow place component
    match t.node? next with
    | some .directory => makeDirectories t next rest
    | some (.file _) => (t, false)
    | none => makeDirectories (t.put next .directory) next rest

/-- Writes a file by way of another one beside it, which takes its place at the end.  Tells whether
that went through. -/
def replaceFile (t : FileTree) (temporary components : List String) (bytes : ByteArray) :
    FileTree × Bool :=
  -- directories that were made stay, even if the file cannot be written
  let (t, made) := t.makeDirectories [] components.dropLast
  if made then
    match t.write temporary bytes with
    | .error _ => (t, false)
    | .ok t =>
      match t.move temporary components with
      | .error _ => (t, false)
      | .ok t => (t, true)
  else (t, false)

/-- Puts something where components lead, making the directories on the way. -/
def place (t : FileTree) (components : List String) (node : FileNode) : FileTree :=
  match node with
  | .directory => (t.makeDirectories [] components).1
  | .file bytes =>
    let t := (t.makeDirectories [] components.dropLast).1
    match t.write components bytes with
    | .ok t => t
    | .error _ => t

def remove (t : FileTree) (components : List String) : FileTree :=
  match t.read components, t.locate [] components with
  | .ok _, .ok place => t.erase place
  | _, _ => t

/-- All places, written with slashes, in order. -/
def listing (t : FileTree) : List String :=
  (t.entries.map fun e => String.intercalate "/" e.1).mergeSort (· ≤ ·)

def text? (t : FileTree) (components : List String) : Option String :=
  match t.read components with
  | .ok bytes => String.fromUTF8? bytes
  | .error _ => none

end FileTree

end Admission
