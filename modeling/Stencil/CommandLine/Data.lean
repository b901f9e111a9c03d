import Stencil.File.Tree
import Stencil.Json.Read
import Stencil.Yaml.Document

/-!
# Data files

A data file holds the data of a template as one mapping: in YAML when its name says so, otherwise in
JSON.  An empty YAML document is an empty mapping.
-/

namespace Stencil.CommandLine

/-- Why a data file gives no data. -/
inductive DataFault where
  | file (fault : File.Fault)
  /-- The file is neither YAML nor JSON, whichever it should be. -/
  | malformed (path : File.Path)
  /-- A scalar in the file stands for no value of its type. -/
  | raised (exception : Raised)
  /-- The root of the file is no mapping. -/
  | notAMapping (path : File.Path)
deriving DecidableEq, Repr

/-- The wording of a fault. -/
def DataFault.message : DataFault → Text
  | .file fault => fault.message
  | .malformed path => "Cannot parse data file " ++ path.text
  | .raised exception => exception.message
  | .notAMapping path => "Data root must be a mapping: " ++ path.text

/-- Whether the name of a file says that it is YAML. -/
def isYaml (path : File.Path) : Bool :=
  [(".yaml" : Text), ".yml"].contains (Number.lowerAscii path.suffix)

/-- The data of a YAML file, of which an empty one is an empty mapping. -/
def readYaml (path : File.Path) (bytes : List UInt8) : Except DataFault Data :=
  match Yaml.readEncoded bytes with
  | .ok data => .ok (if data.revealed.isVoid then .ofTree (.mapping []) else data)
  | .error .malformed => .error (.malformed path)
  | .error (.raised exception) => .error (.raised exception)

/-- The data of a JSON file. -/
def readJson (path : File.Path) (bytes : List UInt8) : Except DataFault Data :=
  match Json.read? bytes with
  | some v => .ok (.ofTree v)
  | none => .error (.malformed path)

/-- The data of the file at a path, whose root is a mapping. -/
def loadData (tree : File.Tree) (path : File.Path) : Except DataFault Data := do
  let bytes ← (tree.read path).mapError .file
  let data ← if isYaml path then readYaml path bytes else readJson path bytes
  match data.revealed with
  | .mapping _ => return data
  | _ => .error (.notAMapping path)

end Stencil.CommandLine
