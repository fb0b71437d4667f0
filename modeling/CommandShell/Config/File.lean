import CommandShell.Config.Defaults
import CommandShell.Config.Fingerprint
import CommandShell.Config.Merge
import CommandShell.Json.Reader
import CommandShell.Table
import CommandShell.Yaml.Document

/-! # Configuration files

A configuration comes from a file of defaults and an optional file laid over it. The ending of a
file's name tells its format; an empty document is an empty mapping. -/

namespace CommandShell.Config

inductive LoadFault where
  | notFound (path : String)
  | format (ending : String)
  | root (typeName : String)
  | json (fault : Json.Fault)
  | yaml (fault : Yaml.Fault)
  | conflict (cause : Conflict)
  | fingerprint (fault : FingerprintFault)
deriving DecidableEq, Repr

def LoadFault.message : LoadFault → String
  | .notFound path => s!"Arquivo de configuração não encontrado: {path}"
  | .format ending => s!"Formato não suportado: {ending}"
  | .root typeName => s!"Config root deve ser dict, recebido: {typeName}"
  | .json .malformed => "malformed JSON"
  | .json (.numeral fault) => fault.message
  | .yaml .malformed => "malformed YAML"
  | .yaml (.scalar fault) => fault.message
  | .yaml .cycle => "Circular reference detected"
  | .conflict c => c.message
  | .fingerprint fault => fault.message

/-- The last part of a path. -/
def fileName (path : String) : List Char :=
  (path.toList.reverse.takeWhile (· ≠ '/')).reverse

/-- The ending of a file's name from its last point on; a point at either end of the name begins
none. -/
def ending (path : String) : String :=
  let name := fileName path
  let last := name.reverse.takeWhile (· ≠ '.')
  if last.isEmpty || name.length ≤ last.length + 1 then ""
  else String.ofList ('.' :: last.reverse)

/-- Every kind of line end becomes the plain one. -/
def plainLineEnds : List Char → List Char
  | '\r' :: '\n' :: r => '\n' :: plainLineEnds r
  | '\r' :: r => '\n' :: plainLineEnds r
  | c :: r => c :: plainLineEnds r
  | [] => []

/-- The value that a file of the given name holds. -/
def readFile (path text : String) : Except LoadFault Value :=
  let text := String.ofList (plainLineEnds text.toList)
  let low := Text.lower (ending path)
  if low = ".yaml" ∨ low = ".yml" then (Yaml.read text).mapError .yaml
  else if low = ".json" then (Json.read text).mapError .json
  else .error (.format (ending path))

/-- The configuration in a file. -/
def loadFile (files : Table String) (path : String) : Except LoadFault Value := do
  let some text := files.get? path | throw (.notFound path)
  match ← readFile path text with
  | .scalar .null => return .map []
  | .map entries => return .map entries
  | v => throw (.root v.typeName)

/-- Loads the defaults, from a file or the built-in ones, and lays the local file over them when it
exists. A configuration without a fingerprint is refused. -/
def load (files : Table String) (defaultsPath localPath : Option String) :
    Except LoadFault (Value × String) := do
  let base ← match defaultsPath with
    | some path => loadFile files path
    | none => pure defaults
  let config ← match localPath with
    | some path =>
      if files.has path then do
        let upper ← loadFile files path
        (merge base upper).mapError .conflict
      else pure base
    | none => pure base
  let print ← (fingerprint config).mapError .fingerprint
  return (config, print)

end CommandShell.Config
