import Stencil.File.Path
import Stencil.Render.Cache
import Stencil.Template.Token

/-!
# Configurations

A configuration says which delimiters templates use, where components and logs are, how deep
components may be nested and how many entries the cache keeps.
-/

namespace Stencil

/-- A configuration. -/
structure Config where
  /-- The texts around a marker; neither is empty in a valid configuration. -/
  delimiters : Template.Delimiters
  /-- The directory of the components. -/
  basePath : File.Path
  /-- What is added to the name of a component to get its file name. -/
  extension : Text
  /-- How deep component markers may stand inside components. -/
  maxDepth : Nat
  errorLog : File.Path
  crashLog : File.Path
  /-- The most entries that the cache keeps; without a number it keeps them all. -/
  cacheSize : Option Nat
deriving DecidableEq, Repr

namespace Config

/-- The configuration that holds where nothing else is said. -/
def standard : Config where
  delimiters := ⟨"\x7b\x7b", "\x7d\x7d"⟩
  basePath := ⟨.relative, ["components"]⟩
  extension := ".mizui"
  maxDepth := 10
  errorLog := ⟨.relative, ["error.log"]⟩
  crashLog := ⟨.relative, ["crash.log"]⟩
  cacheSize := none

instance : Inhabited Config := ⟨standard⟩

/-- The file of a component. -/
def componentPath (c : Config) (name : Text) : File.Path :=
  c.basePath.join (.ofText (name ++ c.extension))

/-- How the cache gives up entries. -/
def cachePolicy (c : Config) : Render.Policy :=
  match c.cacheSize with
  | none => .keepAll
  | some n => .keepRecent n

end Config
end Stencil
