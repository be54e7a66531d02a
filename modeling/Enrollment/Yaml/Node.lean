import Enrollment.Yaml.Lexer
import Enrollment.Yaml.Tag

/-!
# From tokens to a tree

A document is a tree of scalars, lists and tables with their tags. Reading goes through the tokens
once. An alias stands for the part that its anchor names. Inside of the very part it is a reference
back; that to a table is filled with copies of its entries as soon as the table is read, a few
levels deep: `Node.unfolded`.
-/

namespace Enrollment.Yaml

/-- A part of a document. -/
inductive Node where
  | scalar (tag : Tag) (text : String)
  | list (tag : Tag) (items : List Node)
  | table (tag : Tag) (entries : List (Node × Node))
  /-- A reference from inside of a list back to it. -/
  | sameList (anchor : String)
  /-- A reference from inside of a table back to it, with the entries that it leads to. -/
  | sameTable (anchor : String) (entries : List (Node × Node))
deriving Inhabited

namespace Node

mutual

/-- A part in which the references to a table lead to `self`. -/
def fill (anchor : String) (self : List (Node × Node)) : Node → Node
  | scalar tag text => scalar tag text
  | list tag items => list tag (fillItems anchor self items)
  | table tag entries => table tag (fillEntries anchor self entries)
  | sameList name => sameList name
  | sameTable name entries =>
    if name = anchor then sameTable name self
    else sameTable name (fillEntries anchor self entries)

/-- `fill` in the items of a list. -/
def fillItems (anchor : String) (self : List (Node × Node)) : List Node → List Node
  | [] => []
  | item :: more => fill anchor self item :: fillItems anchor self more

/-- `fill` in the entries of a table. -/
def fillEntries (anchor : String) (self : List (Node × Node)) :
    List (Node × Node) → List (Node × Node)
  | [] => []
  | (key, value) :: more =>
    (fill anchor self key, fill anchor self value) :: fillEntries anchor self more

end

/-- The entries that a reference to a table leads to: four levels of the table in each other. No
configuration goes deeper. -/
def unfolded (anchor : String) : Node → List (Node × Node)
  | table _ own =>
    [own, own, own, own].foldl (fun inner own => fillEntries anchor inner own) []
  | _ => []

end Node

/-- What is left of a text, and what was said in it so far. -/
structure Source where
  tokens : List Token
  /-- The fault that comes after the tokens. -/
  fault : Option Fault
  handles : List (String × String) := []
  anchors : List (String × Node) := []

/-- Reads from a source. -/
abbrev Reader := StateT Source (Except Fault)

namespace Reader

/-- Ends reading in a stage. -/
def refuse (stage : Stage) : Reader α := throw (.refused stage)

/-- The next token. -/
def peek : Reader Token := do
  let s ← get
  match s.tokens, s.fault with
  | t :: _, _ => return t
  | [], some fault => throw fault
  | [], none => return .streamEnd

/-- Takes the next token. -/
def skip : Reader Unit := do
  let _ ← peek
  modify fun s => { s with tokens := s.tokens.tail }

/-- Takes the next token if it is `t`. -/
def accept (t : Token) : Reader Bool := do
  if (← peek) == t then
    skip
    return true
  else return false

/-- Whether the next token is one of several. -/
def isNext (choices : List Token) : Reader Bool := return choices.contains (← peek)

/-! ## Properties -/

/-- The anchor in front of a part. -/
def anchor : Reader (Option String) := do
  match ← peek with
  | .anchor name => do
    skip
    return some name
  | _ => return none

/-- The tag in front of a part; the handle of it has to be known, but that is looked at later. -/
def tag : Reader (Option (Option String × String)) := do
  match ← peek with
  | .tag handle suffix => do
    skip
    return some (handle, suffix)
  | _ => return none

/-- The address of a tag. -/
def address : Option (Option String × String) → Reader (Option String)
  | none => return none
  | some (none, suffix) => return some suffix
  | some (some handle, suffix) => do
    match (← get).handles.lookup handle with
    | some start => return some (start ++ suffix)
    | none => refuse .parser

/-- Anchor and tag in front of a part, in either order. -/
def properties : Reader (Option String × Option String) := do
  match ← anchor with
  | some name => do
    let t ← tag
    return (some name, ← address t)
  | none => do
    match ← tag with
    | none => return (none, none)
    | some t => do
      let name ← anchor
      return (name, ← address (some t))

/-- Looks whether an anchor is new. -/
def checkAnchor (name : String) : Reader Unit := do
  if ((← get).anchors.lookup name).isSome then refuse .composer

/-- Sets what an anchor stands for. -/
def setAnchor (name : String) (node : Node) : Reader Unit :=
  modify fun s => { s with anchors := (name, node) :: s.anchors.filter (·.1 != name) }

/-- Lets the references to a table that is read lead to it, wherever an anchor names them. -/
def fillAnchors (name : String) (self : List (Node × Node)) : Reader Unit :=
  modify fun s =>
    { s with anchors := s.anchors.map fun (other, n) => (other, .fill name self n) }

/-- The tag with an address, or a default where there is no address that says anything. -/
def tagOr (default : Tag) : Option String → Tag
  | none => default
  | some address => if address = "!" then default else Tag.ofAddress address

/-- The scalar that stands where nothing is written. -/
def empty : Node := .scalar .null ""

/-- A collection, which may refer to itself by its anchor. -/
def collection (name : Option String) (reference : String → Node) (read : Reader Node) :
    Reader Node :=
  match name with
  | none => read
  | some name => do
    checkAnchor name
    setAnchor name (reference name)
    let node ← read
    setAnchor name node
    let self := node.unfolded name
    fillAnchors name self
    return node.fill name self

/-- A scalar. -/
def scalar (name : Option String) (node : Node) : Reader Node :=
  match name with
  | none => return node
  | some name => do
    checkAnchor name
    setAnchor name node
    return node

/-! ## Parts -/

mutual

/-- A part of a document. `inBlock` tells whether it may be an indented block, and `indentless`
whether it may be a list that is not indented. -/
def node (inBlock indentless : Bool) : Nat → Reader Node
  | 0 => refuse .parser
  | fuel + 1 => do
    match ← peek with
    | .alias_ name => do
      skip
      match (← get).anchors.lookup name with
      | some node => return node
      | none => refuse .composer
    | _ => do
      let (name, address) ← properties
      let list (read : Reader (List Node)) : Reader Node :=
        collection name .sameList (return .list (tagOr .list address) (← read))
      let table (read : Reader (List (Node × Node))) : Reader Node :=
        collection name (.sameTable · []) (return .table (tagOr .table address) (← read))
      let t ← peek
      if indentless && t == .blockEntry then list (indentlessItems fuel)
      else match t with
        | .scalar isPlain text => do
          skip
          let default := if isPlain || address == some "!" then Tag.resolve text else Tag.text
          scalar name (.scalar (tagOr default address) text)
        | .flowSequenceStart => do
          skip
          list (flowItems true fuel)
        | .flowMappingStart => do
          skip
          table (flowEntries true fuel)
        | t =>
          if inBlock && t == .blockSequenceStart then do
            skip
            list (blockItems fuel)
          else if inBlock && t == .blockMappingStart then do
            skip
            table (blockEntries fuel)
          else if name.isSome || address.isSome then
            scalar name (.scalar (tagOr .null address) "")
          else refuse .parser

/-- The items of an indented list, and its end. -/
def blockItems : Nat → Reader (List Node)
  | 0 => refuse .parser
  | fuel + 1 => do
    if ← accept .blockEntry then
      let item ←
        if ← isNext [.blockEntry, .blockEnd] then pure empty else node true false fuel
      return item :: (← blockItems fuel)
    else if ← accept .blockEnd then return []
    else refuse .parser

/-- The items of a list that is not indented. -/
def indentlessItems : Nat → Reader (List Node)
  | 0 => refuse .parser
  | fuel + 1 => do
    if ← accept .blockEntry then
      let item ←
        if ← isNext [.blockEntry, .key, .value, .blockEnd] then pure empty
        else node true false fuel
      return item :: (← indentlessItems fuel)
    else return []

/-- A key or a value of an indented table; it may be left out. -/
def blockPart : Nat → Reader Node
  | 0 => refuse .parser
  | fuel + 1 => do
    if ← isNext [.key, .value, .blockEnd] then return empty else node true true fuel

/-- The entries of an indented table, and its end. -/
def blockEntries : Nat → Reader (List (Node × Node))
  | 0 => refuse .parser
  | fuel + 1 => do
    if ← accept .key then
      let key ← blockPart fuel
      let value ← if ← accept .value then blockPart fuel else pure empty
      return (key, value) :: (← blockEntries fuel)
    else if ← accept .blockEnd then return []
    else refuse .parser

/-- A key or a value inside of brackets; it may be left out before one of `ends`. -/
def flowPart (ends : List Token) : Nat → Reader Node
  | 0 => refuse .parser
  | fuel + 1 => do
    if ← isNext ends then return empty else node false false fuel

/-- The value behind a key inside of brackets, which `finish` closes. -/
def flowValue (finish : Token) : Nat → Reader Node
  | 0 => refuse .parser
  | fuel + 1 => do
    if ← accept .value then flowPart [.flowEntry, finish] fuel else return empty

/-- The items of a list in brackets, and its end; a single entry is a table by itself. -/
def flowItems (isFirst : Bool) : Nat → Reader (List Node)
  | 0 => refuse .parser
  | fuel + 1 => do
    let finish := Token.flowSequenceEnd
    if ← accept finish then return []
    if !isFirst then
      if !(← accept .flowEntry) then refuse .parser
    if ← accept .key then
      let key ← flowPart [.value, .flowEntry, finish] fuel
      let value ← flowValue finish fuel
      return .table .table [(key, value)] :: (← flowItems false fuel)
    else if ← accept finish then return []
    else
      let item ← node false false fuel
      return item :: (← flowItems false fuel)

/-- The entries of a table in braces, and its end; a part alone is a key. -/
def flowEntries (isFirst : Bool) : Nat → Reader (List (Node × Node))
  | 0 => refuse .parser
  | fuel + 1 => do
    let finish := Token.flowMappingEnd
    if ← accept finish then return []
    if !isFirst then
      if !(← accept .flowEntry) then refuse .parser
    if ← accept .key then
      let key ← flowPart [.value, .flowEntry, finish] fuel
      let value ← flowValue finish fuel
      return (key, value) :: (← flowEntries false fuel)
    else if ← accept finish then return []
    else
      let key ← node false false fuel
      return (key, empty) :: (← flowEntries false fuel)

end

/-! ## Documents -/

/-- The handles that every document knows. -/
def defaultHandles : List (String × String) := [("!", "!"), ("!!", Tag.space)]

/-- The directives in front of a document. -/
def directives : Nat → (hasVersion : Bool) → List (String × String) → Reader Unit
  | 0, _, _ => refuse .parser
  | fuel + 1, hasVersion, handles => do
    match ← peek with
    | .directive (.version major _) => do
      skip
      if hasVersion || major ≠ 1 then refuse .parser
      directives fuel true handles
    | .directive (.tag handle start) => do
      skip
      if (handles.lookup handle).isSome then refuse .parser
      directives fuel hasVersion ((handle, start) :: handles)
    | .directive (.other _) => do
      skip
      directives fuel hasVersion handles
    | _ => modify fun s => { s with handles := handles ++ defaultHandles }

/-- Takes the marks that end a document. -/
def documentEnds : Nat → Reader Unit
  | 0 => return ()
  | fuel + 1 => do
    if ← accept .documentEnd then documentEnds fuel

/-- The begin of a document that has directives or a mark. -/
def documentStart (fuel : Nat) : Reader Unit := do
  directives fuel false []
  if !(← accept .documentStart) then refuse .parser

/-- The only document of a text. -/
def document : Reader (Option Node) := do
  let fuel := 2 * (← get).tokens.length + 16
  let contents : Reader Node := do
    match ← peek with
    | .directive _ | .documentStart => do
      documentStart fuel
      match ← peek with
      | .directive _ | .documentStart | .documentEnd | .streamEnd => return empty
      | _ => node true false fuel
    | _ => do
      modify fun s => { s with handles := defaultHandles }
      node true false fuel
  if ← isNext [.streamEnd] then return none
  let root ← contents
  documentEnds fuel
  if ← isNext [.streamEnd] then return some root
  documentStart fuel
  refuse .composer

end Reader

/-- The document that a text holds, if it holds one. -/
def Node.ofText? (text : List Char) : Except Fault (Option Node) :=
  let (tokens, fault) := tokens text
  Prod.fst <$> Reader.document.run { tokens, fault }

end Enrollment.Yaml
