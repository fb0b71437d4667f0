import CommandShell.Yaml.Node
import CommandShell.Yaml.Scalar
import CommandShell.Yaml.Token.Lexer

/-! # Reading YAML

`Yaml.read` gives the value of the one document in a text. The entries that a mapping merges come in
front of its own, and of the entries with one key the last one counts. -/

namespace CommandShell.Yaml

inductive Fault where
  | malformed
  | scalar (fault : ScalarFault)
  | cycle
deriving DecidableEq, Repr

/-- The kind that a tag asks for. -/
def kindOfTag? (tag : List Char) : Option ScalarKind :=
  [("null", .null), ("bool", .bool), ("int", .int), ("float", .float), ("str", .text),
    ("timestamp", .time)].lookup (String.ofList tag)

/-- What the tags of the language itself start with. -/
def tagStart : List Char := "tag:yaml.org,2002:".toList

/-- The name of a tag of the language itself. -/
def ownTag? (tag : List Char) : Option (List Char) := tagStart.isPrefixOf? tag

/-- The kind of a scalar node, given its tag. -/
def scalarKind? (tag : Option (List Char)) (plain : Bool) (text : List Char) : Option ScalarKind :=
  match tag with
  | none => some (if plain then kindOf text else .text)
  | some t => (ownTag? t).bind kindOfTag?

/-- The node is a scalar that is the mark of a given kind. -/
def Node.isMark (kind : ScalarKind) : Node → Bool
  | .scalar tag plain text => scalarKind? tag plain text = some kind
  | _ => false

/-- The value of a scalar of a kind that may have none. -/
def scalarValue (kind : Option ScalarKind) (text : List Char) : Except Fault Scalar :=
  match kind.bind fun k => readScalar? k text with
  | some r => r.mapError .scalar
  | none => .error .malformed

/-- The tag is absent or the one of the structure itself. -/
def isStructure (name : String) (tag : Option (List Char)) : Bool :=
  tag.all fun t => ownTag? t = some name.toList

/-- The scalar that a key is; structures are no keys. -/
def keyOf : Value → Except Fault Scalar
  | .scalar s => .ok s
  | _ => .error .malformed

mutual

/-- The value of a node. -/
def value : Node → Except Fault Value
  | .scalar tag plain text => (scalarValue (scalarKind? tag plain text) text).map .scalar
  | .list tag nodes =>
    if isStructure "seq" tag then (items nodes).map .list else .error .malformed
  | .map tag nodes =>
    if isStructure "map" tag then
      (pairs nodes).map fun (merged, own) => .map (Entries.ofList (merged ++ own))
    else .error .malformed
  | .cycle => .error .cycle

def items : List Node → Except Fault (List Value)
  | [] => .ok []
  | node :: rest => do
    let v ← value node
    let vs ← items rest
    return v :: vs

/-- The entries that the merge marks name, and the other ones. -/
def pairs : List (Node × Node) → Except Fault (Entries × Entries)
  | [] => .ok ([], [])
  | (keyNode, node) :: rest =>
    if keyNode.isMark .merge then do
      let sources ← sources node
      let (merged, own) ← pairs rest
      return (sources ++ merged, own)
    else do
      let key ←
        if keyNode.isMark .default then pure (.str "=")
        else
          match value keyNode with
          | .ok v => keyOf v
          | .error .cycle => throw .malformed
          | .error fault => throw fault
      let v ← value node
      let (merged, own) ← pairs rest
      return (merged, (key, v) :: own)

/-- The entries of a mapping to be merged, or of a list of them, in which an earlier one counts more
than a later one. -/
def sources : Node → Except Fault Entries
  | .map _ nodes => do
    let (merged, own) ← pairs nodes
    return merged ++ own
  | .list _ nodes => sourcesOf nodes
  | .cycle => .ok []
  | .scalar _ _ _ => .error .malformed

def sourcesOf : List Node → Except Fault Entries
  | [] => .ok []
  | .map _ nodes :: rest => do
    let (merged, own) ← pairs nodes
    let later ← sourcesOf rest
    return later ++ merged ++ own
  | _ :: _ => .error .malformed

end

/-- The value of a text; a text without a document is null. -/
def read (text : String) : Except Fault Value :=
  match (tokens? text.toList).bind Node.ofTokens? with
  | none => .error .malformed
  | some none => .ok .null
  | some (some node) => value node

end CommandShell.Yaml
