import Stencil.Config.Validate
import Stencil.File.Tree
import Stencil.Yaml.Document

/-!
# Configuration files

A configuration file is a YAML mapping of the fields.  The relative paths that it sets start at the
directory of the file.  Where there is no file the standard configuration holds.
-/

namespace Stencil.Config

/-- Why a configuration file cannot be loaded. -/
inductive LoadFault where
  | file (fault : File.Fault)
  | decoding (fault : Text.Utf8.Fault)
  /-- The file is no YAML. -/
  | malformed
  /-- A scalar in the file stands for no value of its type. -/
  | raised (exception : Raised)
  /-- The root of the file is no mapping. -/
  | notAMapping
  /-- A key of the root is no text. -/
  | keyNotText
  | invalid (faults : List Fault)
deriving DecidableEq, Repr

/-- The wording of a fault.  A file that is no YAML and fields that are invalid have none of their
own. -/
def LoadFault.message? : LoadFault → Option Text
  | .file fault => some fault.message
  | .decoding fault => some fault.message
  | .malformed => none
  | .raised exception => some exception.message
  | .notAMapping => some "Config root must be a mapping"
  | .keyNotText => some "keywords must be strings"
  | .invalid _ => none

/-- The text of the file at a path, with line feeds for line ends of every kind. -/
def loadText (tree : File.Tree) (path : File.Path) : Except LoadFault Text := do
  let bytes ← (tree.read path).mapError .file
  let t ← (Text.Utf8.decode bytes).mapError .decoding
  return Text.unixLines t

/-- The YAML data of a text. -/
def readYaml (t : Text) : Except LoadFault Data :=
  match Yaml.read t with
  | .ok v => .ok v
  | .error .malformed => .error .malformed
  | .error (.raised exception) => .error (.raised exception)

/-- The entries of the root of a file, of which an empty one counts for no entries.  Shared values
are looked up in the pool. -/
def rootEntries (data : Data) : Except LoadFault Entries :=
  match data.revealed with
  | .mapping entries => .ok (entries.map fun (key, v) => (key, data.pool.reveal v))
  | v => if v.isVoid then .ok [] else .error .notAMapping

/-- Whether a value is a text. -/
def isText : Value → Bool
  | .text _ => true
  | _ => false

/-- The configuration of the entries of a file. -/
def ofEntries (entries : Entries) : Except LoadFault Config :=
  if entries.all fun (key, _) => isText key then (validate entries).mapError .invalid
  else .error .keyNotText

/-- A path of a file in `directory`: it starts there when the file sets it and it is relative. -/
def anchored (directory : File.Path) (entries : Entries) (field : Text) (path : File.Path) :
    File.Path :=
  if (entries.find? field).isSome && !path.isAbsolute then directory.join path else path

/-- The configuration with its paths starting in a directory where the entries set them. -/
def anchor (directory : File.Path) (entries : Entries) (c : Config) : Config :=
  { c with
    basePath := anchored directory entries "base_path" c.basePath
    errorLog := anchored directory entries "error_log" c.errorLog
    crashLog := anchored directory entries "crash_log" c.crashLog }

/-- Loads the configuration file at a path. -/
def load (tree : File.Tree) (path : File.Path) : Except LoadFault Config := do
  if ← (tree.holds path).mapError .file then
    let entries ← rootEntries (← readYaml (← loadText tree path))
    let config ← ofEntries entries
    return config.anchor (path.resolve tree.home).parent entries
  else return standard

end Stencil.Config
