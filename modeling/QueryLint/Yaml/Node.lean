import QueryLint.Yaml.Layout
import QueryLint.Yaml.Scalar

/-!
# Nodes of a document

A document is a tree of scalars, sequences and mappings. An alias stands for a copy of
the node that has its anchor; inside that node itself it only says what kind of node
that is.
-/

namespace QueryLint.Yaml

inductive Node where
  | scalar (tag : Tag) (text : String)
  | sequence (tag : Tag) (items : List Node)
  | mapping (tag : Tag) (entries : List (Node × Node))
  /-- A node that lies around this one. -/
  | again (isMapping : Bool)
deriving Inhabited

namespace Node

/-- The node of an empty place. -/
def empty : Node := scalar .null ""

def tag : Node → Tag
  | scalar t _ => t
  | sequence t _ => t
  | mapping t _ => t
  | again isMapping => if isMapping then .mapping else .sequence

/-- What is left to read of a document, and what was said before. -/
structure Cursor where
  tokens : List Token
  anchors : List (String × Node) := []
  /-- What the handles of tags stand for. -/
  stems : List (String × String) := []

/-- Reads part of a document. -/
abbrev Read := StateT Cursor (Except Fault)

/-- The text is wrong here. Where it stopped being made of tokens, the fault is known. -/
def wrong {α : Type} : Read α := do
  match (← get).tokens with
  | .fault f :: _ => throw f
  | _ => throw .malformed

def peek : Read Token := do return (← get).tokens.headD .endOfText

def advance : Read Unit := modify fun s => { s with tokens := s.tokens.drop 1 }

/-- Passes over a token if it comes next. -/
def accept (token : Token) : Read Bool := do
  if (← peek) == token then
    advance
    return true
  else return false

/-- Passes over a token that has to come next. -/
def expect (token : Token) : Read Unit := do
  if !(← accept token) then wrong

/-- The anchor and the tag before a node, in either order. -/
structure Properties where
  anchor : Option String := none
  tag : Option (Option String × String) := none

def properties : Read Properties := do
  match ← peek with
  | .anchor name =>
      advance
      match ← peek with
      | .tag handle rest =>
          advance
          return { anchor := some name, tag := some (handle, rest) }
      | _ => return { anchor := some name }
  | .tag handle rest =>
      advance
      match ← peek with
      | .anchor name =>
          advance
          return { anchor := some name, tag := some (handle, rest) }
      | _ => return { tag := some (handle, rest) }
  | _ => return {}

/-- The full name of a tag. A mark alone leaves the kind open. -/
def tagName (tag : Option (Option String × String)) : Read (Option String) := do
  match tag with
  | none => return none
  | some (none, rest) => return if rest == "!" then none else some rest
  | some (some handle, rest) =>
      match (← get).stems.lookup handle with
      | some stem => return some (stem ++ rest)
      | none => wrong

/-- Every anchor is set once. -/
def checkAnchor (anchor : Option String) : Read Unit := do
  match anchor with
  | none => return
  | some name => if ((← get).anchors.lookup name).isSome then wrong

/-- Keeps a node under its anchor. -/
def keep (anchor : Option String) (node : Node) : Read Node := do
  match anchor with
  | none => return node
  | some name =>
      modify fun s => { s with anchors := (name, node) :: s.anchors }
      return node

/-- Reads a collection. Inside it, its anchor stands for what lies around. -/
def collect (anchor : Option String) (isMapping : Bool) (read : Read Node) : Read Node := do
  let _ ← keep anchor (.again isMapping)
  keep anchor (← read)

/-- The kind of a scalar. Without a tag a plain one is what it looks like; so is one
with a mark for a tag. -/
def scalarTag (name : Option String) (marked isPlain : Bool) (text : String) : Tag :=
  match name with
  | some name => Tag.ofName name
  | none => if isPlain || marked then Scalar.implicitTag text else .text

def collectionTag (name : Option String) (kind : Tag) : Tag :=
  match name with
  | some name => Tag.ofName name
  | none => kind

/-- Where a node may stand, which decides what may start it. -/
structure Position where
  /-- Blocks may start here. -/
  block : Bool
  /-- A sequence may start here without being indented. -/
  entries : Bool := false

/-- Reads a node unless one of some tokens comes next; then its place is empty. -/
def orEmpty (stop : List Token) (read : Read Node) : Read Node := do
  if stop.contains (← peek) then return empty else read

/-- Nodes may lie this deep in one another. -/
def maxDepth : Nat := 488

mutual

/-- Reads a node at a depth. -/
def node : (fuel depth : Nat) → Position → Read Node
  | 0, _, _ => wrong
  | fuel + 1, depth, position => do
      if maxDepth < depth then throw .tooDeep
      let inner := depth + 1
      match ← peek with
      | .alias name =>
          advance
          match (← get).anchors.lookup name with
          | some n => return n
          | none => wrong
      | _ =>
          let properties ← properties
          let name ← tagName properties.tag
          let marked := properties.tag.isSome
          let anchor := properties.anchor
          let token ← peek
          match token with
          | .scalar text isPlain =>
              advance
              checkAnchor anchor
              keep anchor (.scalar (scalarTag name marked isPlain text) text)
          | .openBracket =>
              advance
              checkAnchor anchor
              collect anchor false do
                return .sequence (collectionTag name .sequence) (← flowItems fuel inner true)
          | .openBrace =>
              advance
              checkAnchor anchor
              collect anchor true do
                return .mapping (collectionTag name .mapping) (← flowEntries fuel inner true)
          | _ =>
              if token == .entry && position.entries then
                checkAnchor anchor
                collect anchor false do
                  return .sequence (collectionTag name .sequence)
                    (← blockItems fuel inner [.entry, .key, .value, .blockEnd])
              else if token == .sequenceStart && position.block then
                advance
                checkAnchor anchor
                collect anchor false do
                  let items ← blockItems fuel inner [.entry, .blockEnd]
                  expect .blockEnd
                  return .sequence (collectionTag name .sequence) items
              else if token == .mappingStart && position.block then
                advance
                checkAnchor anchor
                collect anchor true do
                  let entries ← blockEntries fuel inner
                  expect .blockEnd
                  return .mapping (collectionTag name .mapping) entries
              else if anchor.isSome || properties.tag.isSome then
                checkAnchor anchor
                keep anchor (.scalar (scalarTag name marked true "") "")
              else wrong

/-- The entries of a block sequence. -/
def blockItems : (fuel depth : Nat) → List Token → Read (List Node)
  | 0, _, _ => wrong
  | fuel + 1, depth, stop => do
      if ← accept .entry then
        let n ← orEmpty stop (node fuel depth { block := true })
        return n :: (← blockItems fuel depth stop)
      else return []

/-- The entries of a block mapping. -/
def blockEntries : (fuel depth : Nat) → Read (List (Node × Node))
  | 0, _ => wrong
  | fuel + 1, depth => do
      if ← accept .key then
        let stop : List Token := [.key, .value, .blockEnd]
        let k ← orEmpty stop (node fuel depth { block := true, entries := true })
        let v ←
          if ← accept .value then orEmpty stop (node fuel depth { block := true, entries := true })
          else pure empty
        return (k, v) :: (← blockEntries fuel depth)
      else return []

/-- The rest of a sequence in brackets. A key among its items is a mapping of one
entry. -/
def flowItems : (fuel depth : Nat) → Bool → Read (List Node)
  | 0, _, _ => wrong
  | fuel + 1, depth, isFirst => do
      if ← accept .closeBracket then return []
      if !isFirst then expect .comma
      if ← accept .key then
        let inner := depth + 1
        let k ← orEmpty [.value, .comma, .closeBracket] (node fuel inner { block := false })
        let v ←
          if ← accept .value then
            orEmpty [.comma, .closeBracket] (node fuel inner { block := false })
          else pure empty
        return .mapping .mapping [(k, v)] :: (← flowItems fuel depth false)
      else if ← accept .closeBracket then return []
      else
        let n ← node fuel depth { block := false }
        return n :: (← flowItems fuel depth false)

/-- The rest of a mapping in braces. An entry without a mark is a key without a
value. -/
def flowEntries : (fuel depth : Nat) → Bool → Read (List (Node × Node))
  | 0, _, _ => wrong
  | fuel + 1, depth, isFirst => do
      if ← accept .closeBrace then return []
      if !isFirst then expect .comma
      if ← accept .key then
        let k ← orEmpty [.value, .comma, .closeBrace] (node fuel depth { block := false })
        let v ←
          if ← accept .value then orEmpty [.comma, .closeBrace] (node fuel depth { block := false })
          else pure empty
        return (k, v) :: (← flowEntries fuel depth false)
      else if ← accept .closeBrace then return []
      else
        let k ← node fuel depth { block := false }
        return (k, empty) :: (← flowEntries fuel depth false)

end

/-! ### Documents -/

def defaultStems : List (String × String) := [("!", "!"), ("!!", Tag.stem)]

/-- Reads directives: one version, which has to be of the first kind, and one stem for
every handle. -/
def directives : Nat → Bool → List (String × String) → Read (List (String × String))
  | 0, _, _ => wrong
  | fuel + 1, versioned, stems => do
      match ← peek with
      | .version major _ =>
          if versioned || major != 1 then wrong
          advance
          directives fuel true stems
      | .tagStem handle stem =>
          if (stems.lookup handle).isSome then wrong
          advance
          directives fuel versioned ((handle, stem) :: stems)
      | .directive =>
          advance
          directives fuel versioned stems
      | _ => return stems

def skipDocumentEnds : Nat → Read Unit
  | 0 => return
  | fuel + 1 => do
      if ← accept .documentEnd then skipDocumentEnds fuel

/-- Whether a document starts with a mark of its own. -/
def startsMarked : Token → Bool
  | .version .. | .tagStem .. | .directive | .documentStart => true
  | _ => false

def isDocumentEnd (token : Token) : Bool :=
  startsMarked token || token == .documentEnd || token == .endOfText

/-- The one document of a text; none if the text is empty. -/
def document (fuel : Nat) : Read (Option Node) := do
  let first ← peek
  if first == .endOfText then return none
  let root ←
    if startsMarked first then do
      let stems ← directives fuel false []
      modify fun s => { s with stems := stems ++ defaultStems }
      expect .documentStart
      if isDocumentEnd (← peek) then pure empty else node fuel 1 { block := true }
    else do
      modify fun s => { s with stems := defaultStems }
      node fuel 1 { block := true }
  skipDocumentEnds fuel
  if (← peek) == .endOfText then return some root else wrong

/-- The root of the one document in a text; none if there is no document in it. -/
def ofText (text : List Char) : Except Fault (Option Node) := do
  let tokens := tokensOf text
  let (root, _) ← (document (2 * tokens.length + 4)).run { tokens }
  return root

end Node

end QueryLint.Yaml
