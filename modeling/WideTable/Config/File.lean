import WideTable.Config.Document
import WideTable.FileTree

namespace WideTable.Config

def defaultPath : String :=
  "widecol.toml"

inductive LoadError
  | file (path : String) (e : FileError)
  | content (path : String) (e : ContentError)

def LoadError.headline : LoadError → String
  | file path .missing => "config not found: " ++ path
  | file path e => "failed to read " ++ path ++ ": " ++ e.reason
  | content path (.document _) => "failed to parse " ++ path ++ ": "
  | content _ (.invalid e) => e.message

def load (files : FileTree) (path : Option String) : Except LoadError Config := do
  let path := path.getD defaultPath
  let text ← (files.read path).mapError (.file path)
  (ofText text).mapError (.content path)

end WideTable.Config
