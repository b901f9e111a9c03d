import Stencil.File.Path
import Stencil.Text.Utf8

/-!
# File trees

A file tree says what stands at every location: a directory or the bytes of a file.  A path is
followed name by name from the working directory or the root, and every name before the last must
be a directory that exists, also before a double point.
-/

namespace Stencil.File

/-- A place in a file tree: the names that lead to it from the root. -/
abbrev Location := List Text

/-- What stands at a location. -/
inductive Node where
  | directory
  | file (bytes : List UInt8)
deriving DecidableEq, Repr

/-- A file tree with a working directory. -/
structure Tree where
  home : Location
  nodes : List (Location × Node)
deriving Repr, Inhabited

/-- Why an access to a file fails. -/
inductive Cause where
  | missing
  | alreadyExists
  | notADirectory
  | isADirectory
  | nameTooLong
  /-- The path holds the character zero, which no path can. -/
  | zeroCharacter
deriving DecidableEq, Repr

/-- A failed access to the file at a path. -/
structure Fault where
  cause : Cause
  path : Path
deriving DecidableEq, Repr

namespace Fault

/-- The number and the wording of a fault of the file system. -/
def label : Cause → Text
  | .missing => "[Errno 2] No such file or directory"
  | .alreadyExists => "[Errno 17] File exists"
  | .notADirectory => "[Errno 20] Not a directory"
  | .isADirectory => "[Errno 21] Is a directory"
  | .nameTooLong => "[Errno 36] File name too long"
  | .zeroCharacter => "embedded null byte"

/-- Whether a fault comes from the file system; otherwise the path itself is none. -/
def isSystem (f : Fault) : Bool := f.cause ≠ .zeroCharacter

/-- The message of a fault. -/
def message (f : Fault) : Text :=
  if f.isSystem then label f.cause ++ ": " ++ Text.quoted f.path.text else label f.cause

end Fault

namespace Tree

/-- The node at a location; the root is always a directory. -/
def node? (t : Tree) (l : Location) : Option Node :=
  if l = [] then some .directory else t.nodes.lookup l

/-- The most bytes that a name and a whole path may have. -/
def nameLimit : Nat := 255

/-- The most bytes that a whole path may have. -/
def pathLimit : Nat := 4095

/-- Goes one name further from a location. -/
def enter (t : Tree) (l : Location) (name : Text) : Except Cause Location :=
  match t.node? l with
  | none => .error .missing
  | some (.file _) => .error .notADirectory
  | some .directory =>
    if name = "..".toList then .ok l.dropLast
    else if nameLimit < (Text.Utf8.encode name).length then .error .nameTooLong
    else .ok (l ++ [name])

/-- The location that names lead to from another one.  Nothing need stand there. -/
def walk (t : Tree) : Location → List Text → Except Cause Location
  | l, [] => .ok l
  | l, name :: rest => (t.enter l name).bind fun next => walk t next rest

/-- The location that a path leads to. -/
def locate (t : Tree) (p : Path) : Except Cause Location :=
  if p.text.contains '\x00' then .error .zeroCharacter
  else if pathLimit < (Text.Utf8.encode p.text).length then .error .nameTooLong
  else t.walk (if p.isAbsolute then [] else t.home) p.names

/-- Whether a condition holds for the node that a path leads to.  A path that leads nowhere is no
fault here; one that is too long is. -/
def test (t : Tree) (condition : Node → Bool) (p : Path) : Except Fault Bool :=
  match t.locate p with
  | .ok l => .ok ((t.node? l).any condition)
  | .error .nameTooLong => .error ⟨.nameTooLong, p⟩
  | .error _ => .ok false

/-- Whether a path leads to a file. -/
def isFile (t : Tree) (p : Path) : Except Fault Bool :=
  t.test (fun | .file _ => true | .directory => false) p

/-- Whether a path leads to a directory. -/
def isDirectory (t : Tree) (p : Path) : Except Fault Bool :=
  t.test (fun | .file _ => false | .directory => true) p

/-- Whether a path leads to anything. -/
def holds (t : Tree) (p : Path) : Except Fault Bool := t.test (fun _ => true) p

/-- The bytes of the file at a path. -/
def read (t : Tree) (p : Path) : Except Fault (List UInt8) :=
  match t.locate p with
  | .error cause => .error ⟨cause, p⟩
  | .ok l => match t.node? l with
    | none => .error ⟨.missing, p⟩
    | some .directory => .error ⟨.isADirectory, p⟩
    | some (.file bytes) => .ok bytes

/-! ## Changes -/

/-- Puts a node at a location. -/
def putNode (l : Location) (n : Node) : List (Location × Node) → List (Location × Node)
  | [] => [(l, n)]
  | (k, m) :: rest => if k = l then (k, n) :: rest else (k, m) :: putNode l n rest

/-- The tree with a node at a location. -/
def put (t : Tree) (l : Location) (n : Node) : Tree := ⟨t.home, putNode l n t.nodes⟩

/-- Changes the bytes of the file at a path, which comes to be when there is none. -/
def update (t : Tree) (p : Path) (change : List UInt8 → List UInt8) : Except Fault Tree :=
  match t.locate p with
  | .error cause => .error ⟨cause, p⟩
  | .ok l => match t.node? l with
    | some .directory => .error ⟨.isADirectory, p⟩
    | some (.file bytes) => .ok (t.put l (.file (change bytes)))
    | none => .ok (t.put l (.file (change [])))

/-- Writes bytes at the end of the file at a path. -/
def append (t : Tree) (p : Path) (bytes : List UInt8) : Except Fault Tree :=
  t.update p (· ++ bytes)

/-- Writes the whole file at a path. -/
def write (t : Tree) (p : Path) (bytes : List UInt8) : Except Fault Tree :=
  t.update p fun _ => bytes

/-- Deletes the file at a path. -/
def delete (t : Tree) (p : Path) : Except Fault Tree :=
  match t.locate p with
  | .error cause => .error ⟨cause, p⟩
  | .ok l => match t.node? l with
    | none => .error ⟨.missing, p⟩
    | some .directory => .error ⟨.isADirectory, p⟩
    | some (.file _) => .ok ⟨t.home, t.nodes.filter fun (k, _) => k ≠ l⟩

/-- Makes one directory. -/
def makeDirectory (t : Tree) (p : Path) : Except Fault Tree :=
  match t.locate p with
  | .error cause => .error ⟨cause, p⟩
  | .ok l => match t.node? l with
    | some _ => .error ⟨.alreadyExists, p⟩
    | none => .ok (t.put l .directory)

/-- Forgives a fault when there is a directory at its path already. -/
def forgive (t : Tree) (fault : Fault) : Except Fault Unit × Tree :=
  match t.isDirectory fault.path with
  | .ok true => (.ok (), t)
  | _ => (.error fault, t)

/-- Makes the directory at the path from `root` along the reverse of `names`, and the directories
on the way to it.  Those that could be made stay when a later one cannot. -/
def makeDirectoriesFrom (t : Tree) (root : Root) : List Text → Except Fault Unit × Tree
  | [] => match t.makeDirectory ⟨root, []⟩ with
    | .ok made => (.ok (), made)
    | .error fault => t.forgive fault
  | name :: above =>
    let p : Path := ⟨root, (name :: above).reverse⟩
    match t.makeDirectory p with
    | .ok made => (.ok (), made)
    | .error ⟨.missing, _⟩ =>
      match t.makeDirectoriesFrom root above with
      | (.error fault, t) => (.error fault, t)
      | (.ok (), t) => match t.makeDirectory p with
        | .ok made => (.ok (), made)
        | .error ⟨.missing, p⟩ => (.error ⟨.missing, p⟩, t)
        | .error fault => t.forgive fault
    | .error fault => t.forgive fault

/-- Makes the directory at a path and those on the way to it, unless they are there. -/
def makeDirectories (t : Tree) (p : Path) : Except Fault Unit × Tree :=
  t.makeDirectoriesFrom p.root p.names.reverse

/-- The tree that holds nothing but its working directory and the directories above it. -/
def bare (home : Location) : Tree :=
  ⟨home, (List.range home.length).map fun n => (home.take (n + 1), .directory)⟩

@[simp]
theorem node?_root (t : Tree) : t.node? [] = some .directory := rfl

theorem lookup_putNode_same (l : Location) (n : Node) (nodes : List (Location × Node)) :
    (putNode l n nodes).lookup l = some n := by
  induction nodes with
  | nil => simp [putNode]
  | cons e rest ih =>
    obtain ⟨k, m⟩ := e
    by_cases h : k = l
    · simp [putNode, h]
    · simp [putNode, h, List.lookup_cons, beq_eq_false_iff_ne.2 (Ne.symm h), ih]

/-- What was put at a location stands there. -/
theorem node?_put_same (t : Tree) {l : Location} (n : Node) (h : l ≠ []) :
    (t.put l n).node? l = some n := by
  simp [node?, put, h, lookup_putNode_same]

end Tree
end Stencil.File
