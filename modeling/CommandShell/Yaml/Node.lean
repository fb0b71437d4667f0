import CommandShell.Yaml.Token

/-! # Nodes of a document

The tree that the tokens of a document describe. An alias stands for the node that its anchor marks,
so it becomes a copy of it; inside that very node it becomes a `cycle`. -/

namespace CommandShell.Yaml

/-- A node with its tag, when it has a specific one. The kind of a `plain` scalar without a tag
depends on its text. -/
inductive Node where
  | scalar (tag : Option (List Char)) (plain : Bool) (text : List Char)
  | list (tag : Option (List Char)) (items : List Node)
  | map (tag : Option (List Char)) (entries : List (Node × Node))
  | cycle
deriving Inhabited

namespace Node

/-- The node of a place where nothing is written. -/
def empty : Node := .scalar none true []

/-- What reading depends on: the short forms of tags, the tokens still to come, and the nodes that
anchors mark, where the node of an open one is not known yet. -/
structure Reading where
  handles : List (List Char × List Char)
  tokens : List Token
  anchors : List (List Char × Option Node)

namespace Reading

def drop (n : Nat) (r : Reading) : Reading := { r with tokens := r.tokens.drop n }

def at? (r : Reading) (ts : List Token) : Bool := r.tokens.head?.any ts.contains

/-- The full form of a tag. -/
def expand (r : Reading) : TagText → Option (List Char)
  | .complete t => some t
  | .short handle rest => (r.handles.lookup handle).map (· ++ rest)

/-- Marks a node; no two nodes share an anchor. -/
def mark (anchor : Option (List Char)) (node : Option Node) (r : Reading) : Option Reading :=
  match anchor with
  | none => some r
  | some name =>
    if (r.anchors.lookup name).isSome then none
    else some { r with anchors := (name, node) :: r.anchors }

/-- Gives the open anchor its node. -/
def close (anchor : Option (List Char)) (node : Node) (r : Reading) : Reading :=
  match anchor with
  | none => r
  | some name =>
    { r with anchors := r.anchors.map fun a => if a.1 = name then (name, some node) else a }

/-- The anchor and the tag in front of a node, in either order. -/
def properties (r : Reading) : Option (Option (List Char) × Option (List Char) × Reading) :=
  match r.tokens with
  | .anchor a :: .tag t :: rest => do return (some a, ← r.expand t, { r with tokens := rest })
  | .anchor a :: rest => some (some a, none, { r with tokens := rest })
  | .tag t :: .anchor a :: rest => do return (some a, ← r.expand t, { r with tokens := rest })
  | .tag t :: rest => do return (none, ← r.expand t, { r with tokens := rest })
  | _ => some (none, none, r)

end Reading

/-- A tag that only says that there is one. -/
def specific? (tag : Option (List Char)) : Option (List Char) :=
  tag.filter (· ≠ ['!'])

mutual

/-- One node. The tokens of a block may follow only where `block` says so, and dashes without an
indentation of their own only where `indentless` does. -/
def read (block indentless : Bool) : Nat → Reading → Option (Node × Reading)
  | 0, _ => none
  | fuel + 1, r =>
    match r.tokens with
    | .alias name :: rest => do
      let node ← r.anchors.lookup name
      return (node.getD .cycle, { r with tokens := rest })
    | _ => do
      let (anchor, written, r) ← r.properties
      let tag := specific? written
      match r.tokens with
      | .scalar text plain :: rest => do
        let free := (plain && written.isNone) || written == some ['!']
        let node := Node.scalar tag free text
        return (node, ← { r with tokens := rest }.mark anchor (some node))
      | .flowListStart :: rest => do
        let (items, r) ← readFlowItems true fuel (← { r with tokens := rest }.mark anchor none)
        return (.list tag items, r.close anchor (.list tag items))
      | .flowMapStart :: rest => do
        let (entries, r) ← readFlowEntries true fuel (← { r with tokens := rest }.mark anchor none)
        return (.map tag entries, r.close anchor (.map tag entries))
      | .entry :: _ =>
        if indentless then do
          let (items, r) ← readDashes fuel (← r.mark anchor none)
          return (.list tag items, r.close anchor (.list tag items))
        else readEmpty anchor written r
      | .blockListStart :: rest =>
        if block then do
          let (items, r) ← readBlockItems fuel (← { r with tokens := rest }.mark anchor none)
          return (.list tag items, r.close anchor (.list tag items))
        else readEmpty anchor written r
      | .blockMapStart :: rest =>
        if block then do
          let (entries, r) ← readBlockEntries fuel (← { r with tokens := rest }.mark anchor none)
          return (.map tag entries, r.close anchor (.map tag entries))
        else readEmpty anchor written r
      | _ => readEmpty anchor written r

/-- The empty node behind an anchor or a tag. -/
def readEmpty (anchor written : Option (List Char)) (r : Reading) : Option (Node × Reading) :=
  if anchor.isNone && written.isNone then none
  else
    let node := Node.scalar (specific? written) true []
    (r.mark anchor (some node)).map (node, ·)

/-- A node, or the empty node where one of the given tokens stands instead. -/
def readOr (stops : List Token) (block indentless : Bool) :
    Nat → Reading → Option (Node × Reading)
  | 0, _ => none
  | fuel + 1, r => if r.at? stops then some (empty, r) else read block indentless fuel r

/-- The items of a list in a block, up to its end. -/
def readBlockItems : Nat → Reading → Option (List Node × Reading)
  | 0, _ => none
  | fuel + 1, r =>
    match r.tokens with
    | .blockEnd :: _ => some ([], r.drop 1)
    | .entry :: _ => do
      let (item, r) ← readOr [.entry, .blockEnd] true false fuel (r.drop 1)
      let (more, r) ← readBlockItems fuel r
      return (item :: more, r)
    | _ => none

/-- The items of a list whose dashes stand at the column of the key in front of it. -/
def readDashes : Nat → Reading → Option (List Node × Reading)
  | 0, _ => none
  | fuel + 1, r =>
    match r.tokens with
    | .entry :: _ => do
      let (item, r) ← readOr [.entry, .key, .value, .blockEnd] true false fuel (r.drop 1)
      let (more, r) ← readDashes fuel r
      return (item :: more, r)
    | _ => some ([], r)

/-- The entries of a mapping in a block, up to its end. -/
def readBlockEntries : Nat → Reading → Option (List (Node × Node) × Reading)
  | 0, _ => none
  | fuel + 1, r =>
    let stops := [.key, .value, .blockEnd]
    match r.tokens with
    | .blockEnd :: _ => some ([], r.drop 1)
    | .key :: _ => do
      let (key, r) ← readOr stops true true fuel (r.drop 1)
      let (value, r) ←
        if r.at? [.value] then readOr stops true true fuel (r.drop 1) else pure (empty, r)
      let (more, r) ← readBlockEntries fuel r
      return ((key, value) :: more, r)
    | _ => none

/-- The items of a list between brackets; an item with a key is a mapping of one entry. -/
def readFlowItems (first : Bool) : Nat → Reading → Option (List Node × Reading)
  | 0, _ => none
  | fuel + 1, r =>
    if r.at? [.flowListEnd] then some ([], r.drop 1)
    else if !first && !r.at? [.flowEntry] then none
    else
      let r := if first then r else r.drop 1
      if r.at? [.flowListEnd] then some ([], r.drop 1)
      else do
        let (item, r) ←
          if r.at? [.key] then do
            let (key, r) ← readOr [.value, .flowEntry, .flowListEnd] false false fuel (r.drop 1)
            let (value, r) ←
              if r.at? [.value] then readOr [.flowEntry, .flowListEnd] false false fuel (r.drop 1)
              else pure (empty, r)
            pure (Node.map none [(key, value)], r)
          else read false false fuel r
        let (more, r) ← readFlowItems false fuel r
        return (item :: more, r)

/-- The entries of a mapping between braces; a node without a key mark is a key without a value. -/
def readFlowEntries (first : Bool) : Nat → Reading → Option (List (Node × Node) × Reading)
  | 0, _ => none
  | fuel + 1, r =>
    if r.at? [.flowMapEnd] then some ([], r.drop 1)
    else if !first && !r.at? [.flowEntry] then none
    else
      let r := if first then r else r.drop 1
      if r.at? [.flowMapEnd] then some ([], r.drop 1)
      else do
        let (entry, r) ←
          if r.at? [.key] then do
            let (key, r) ← readOr [.value, .flowEntry, .flowMapEnd] false false fuel (r.drop 1)
            let (value, r) ←
              if r.at? [.value] then readOr [.flowEntry, .flowMapEnd] false false fuel (r.drop 1)
              else pure (empty, r)
            pure ((key, value), r)
          else do
            let (key, r) ← read false false fuel r
            pure ((key, empty), r)
        let (more, r) ← readFlowEntries false fuel r
        return (entry :: more, r)

end

/-- The directives in front of a document, as the short forms of tags that they set. -/
def readDirectives (version : Bool) (handles : List (List Char × List Char)) :
    List Token → Option (List (List Char × List Char) × List Token)
  | .directive (.version major) :: rest =>
    if version || major != 1 then none else readDirectives true handles rest
  | .directive (.tag handle start) :: rest =>
    if (handles.lookup handle).isSome then none
    else readDirectives version ((handle, start) :: handles) rest
  | .directive .other :: rest => readDirectives version handles rest
  | rest => some (handles, rest)

/-- The short forms of tags that are always known. -/
def knownHandles : List (List Char × List Char) :=
  [(['!'], ['!']), (['!', '!'], "tag:yaml.org,2002:".toList)]

/-- The one document that the tokens hold; nothing when there is none. -/
def ofTokens? (tokens : List Token) : Option (Option Node) :=
  let fuel := 4 * tokens.length + 8
  let ends (r : Reading) : Bool := r.tokens.all (· == .documentEnd)
  match tokens with
  | [] => some none
  | .directive _ :: _ | .documentStart :: _ => do
    let (handles, rest) ← readDirectives false [] tokens
    match rest with
    | .documentStart :: rest => do
      let r : Reading := ⟨handles ++ knownHandles, rest, []⟩
      let (node, r) ←
        match rest with
        | [] | .directive _ :: _ | .documentStart :: _ | .documentEnd :: _ => some (empty, r)
        | _ => read true false fuel r
      if ends r then return some node else none
    | _ => none
  | _ => do
    let (node, r) ← read true false fuel ⟨knownHandles, tokens, []⟩
    if ends r then return some node else none

end Node

end CommandShell.Yaml
