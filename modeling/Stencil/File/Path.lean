import Stencil.Text.Basic

/-!
# Paths

A path is a list of names, relative or from a root.  Empty names and single points say nothing and
are dropped when a path is read; a double point is kept, because only the file tree knows where it
leads.  Exactly two slashes in front are a root of their own.
-/

namespace Stencil.File

/-- Where a path starts. -/
inductive Root where
  | relative
  | slash
  | doubleSlash
deriving DecidableEq, Repr, Inhabited

/-- How a root is written. -/
def Root.text : Root → Text
  | .relative => []
  | .slash => "/"
  | .doubleSlash => "//"

/-- A path: its root, and the names from there. -/
structure Path where
  root : Root
  names : List Text
deriving DecidableEq, Repr, Inhabited

namespace Path

/-- The root that so many slashes in front of a path stand for. -/
def rootOf (slashes : Nat) : Root :=
  if slashes = 0 then .relative else if slashes = 2 then .doubleSlash else .slash

/-- Whether a name leads anywhere. -/
def isName (name : Text) : Bool := name ≠ [] && name ≠ ['.']

/-- Reads a path. -/
def ofText (t : Text) : Path :=
  ⟨rootOf (t.takeWhile (· = '/')).length, (Text.split '/' t).filter isName⟩

/-- How a path is written.  The empty relative path is a point. -/
def text (p : Path) : Text :=
  if p.root = .relative && p.names.isEmpty then ['.']
  else p.root.text ++ Text.join ['/'] p.names

/-- Whether a path starts at a root. -/
def isAbsolute (p : Path) : Bool := p.root ≠ .relative

/-- The path that leads on from `p`; an absolute path starts anew. -/
def join (p q : Path) : Path := if q.isAbsolute then q else ⟨p.root, p.names ++ q.names⟩

/-- The path without its last name; a path without names is its own parent. -/
def parent (p : Path) : Path := ⟨p.root, p.names.dropLast⟩

/-- The last name, or nothing. -/
def name (p : Path) : Text := p.names.getLastD []

/-- The end of the last name from its last point on.  A point at the beginning or the end of the
name starts no suffix. -/
def suffix (p : Path) : Text :=
  let tail := (p.name.reverse.takeWhile (· ≠ '.')).reverse
  if tail.isEmpty || p.name.length ≤ tail.length + 1 then [] else '.' :: tail

/-- The names that an absolute path leads through when every double point goes one back. -/
def collapse (names : List Text) : List Text :=
  names.foldl
    (fun reached name => if name = "..".toList then reached.dropLast else reached ++ [name]) []

/-- The absolute path without double points that `p` stands for in a directory. -/
def resolve (directory : List Text) (p : Path) : Path :=
  ⟨.slash, collapse (if p.isAbsolute then p.names else directory ++ p.names)⟩

example : (ofText ".//a/./b/".toList).text = "a/b".toList := by decide +kernel

example : (ofText "///a/..".toList).text = "/a/..".toList := by decide +kernel

example : (ofText "a.d/.x.yaml".toList).suffix = ".yaml".toList := by decide +kernel

end Path
end Stencil.File
