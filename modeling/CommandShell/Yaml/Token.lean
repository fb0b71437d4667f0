/-! # Tokens of YAML

What a document is made of: marks of structure, names for parts of it, and scalars. -/

namespace CommandShell.Yaml

/-- A directive: the version of the language, a short form for tags, or one that is passed over. -/
inductive Directive where
  | version (major : Nat)
  | tag (handle start : List Char)
  | other
deriving DecidableEq, Repr

/-- A tag as written: complete, or a short form and what follows it. -/
inductive TagText where
  | complete (tag : List Char)
  | short (handle rest : List Char)
deriving DecidableEq, Repr

inductive Token where
  | directive (d : Directive)
  | documentStart
  | documentEnd
  | blockListStart
  | blockMapStart
  | blockEnd
  | flowListStart
  | flowListEnd
  | flowMapStart
  | flowMapEnd
  | entry
  | flowEntry
  | key
  | value
  | alias (name : List Char)
  | anchor (name : List Char)
  | tag (t : TagText)
  | scalar (text : List Char) (plain : Bool)
deriving DecidableEq, Repr

end CommandShell.Yaml
