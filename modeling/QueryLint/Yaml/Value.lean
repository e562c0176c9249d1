import QueryLint.Datum.Display
import QueryLint.Yaml.Node

/-!
# Values of documents

A mapping may take entries over from others; its own win over those. Of two entries
with one key the later wins. Values are made level by level, from the outside in, so of
several faults the first on the outermost level counts.
-/

namespace QueryLint.Yaml

/-- Makes a value, noting the fault that counts and its level. -/
abbrev Build := StateM (Option (Nat × Fault))

/-- Notes a fault, unless one on the same level or further out is known. -/
def note (level : Nat) (fault : Fault) : Build Unit :=
  modify fun
    | none => some (level, fault)
    | some (l, f) => if level < l then some (level, fault) else some (l, f)

/-- A fault in place of a value. -/
def noValue (level : Nat) (fault : Fault) : Build Datum := do
  note level fault
  return .null

/-- The value of a text of a kind. -/
def textValue (level : Nat) (tag : Tag) (text : String) : Build Datum :=
  match Scalar.value tag text with
  | .ok d => return d
  | .error fault => noValue level fault

/-- The mapping of some entries; the later ones win. -/
def toMapping (entries : List (Datum × Datum)) : List (Datum × Datum) :=
  entries.foldl (fun acc (k, v) => Datum.setKey k v acc) []

namespace Node

mutual

/-- The text of a node that is tagged as a scalar: its own, or that of the default value
of a mapping. -/
def scalarText : Node → Except Fault String
  | .scalar _ text => .ok text
  | .mapping _ es => defaultText es
  | .sequence _ _ => .error .malformed
  | .again true => .error .tooDeep
  | .again false => .error .malformed

def defaultText : List (Node × Node) → Except Fault String
  | [] => .error .malformed
  | (k, v) :: rest => if k.tag = .default then scalarText v else defaultText rest

end

/-- The collections that a tag names are made one level further in. -/
def isCollectionTag : Tag → Bool
  | .sequence | .mapping | .set | .pairs => true
  | _ => false

/-- Tags that name no value. -/
def isIdleTag : Tag → Bool
  | .merge | .default | .unknown => true
  | _ => false

mutual

/-- Whether everything that a mapping takes over comes from mappings. -/
def takesOver : List (Node × Node) → Bool
  | [] => true
  | (k, v) :: rest => (k.tag != .merge || isSource v) && takesOver rest

/-- Whether entries can be taken over from a node. -/
def isSource : Node → Bool
  | .mapping _ es => takesOver es
  | .sequence _ items => areSources items
  | .again isMapping => isMapping
  | .scalar _ _ => false

def areSources : List Node → Bool
  | [] => true
  | .mapping _ es :: rest => takesOver es && areSources rest
  | .again true :: rest => areSources rest
  | _ :: _ => false

end

/-- Notes that a mapping takes something over from what is no mapping. -/
def checkSources (level : Nat) (entries : List (Node × Node)) : Build Unit :=
  if takesOver entries then return else note level .malformed

mutual

/-- The value of a node on a level. -/
def value (level : Nat) : Node → Build Datum
  | .scalar tag text =>
      if isCollectionTag tag then noValue (level + 1) .malformed else textValue level tag text
  | .sequence .sequence items => do return .list (← values (level + 1) items)
  | .sequence .pairs items => do return .list (← pairs (level + 1) items)
  | .sequence tag _ => noValue (if isCollectionTag tag then level + 1 else level) .malformed
  | .mapping .mapping es => do
      checkSources (level + 1) es
      let taken ← takenBy (level + 1) es
      return .mapping (toMapping (taken ++ (← own (level + 1) es)))
  | .mapping .set es => do
      checkSources (level + 1) es
      let taken ← takenBy (level + 1) es
      return .set ((toMapping (taken ++ (← own (level + 1) es))).map Prod.fst)
  | .mapping .timestamp es =>
      match defaultText es with
      | .ok _ => noValue level .notText
      | .error fault => noValue level fault
  | .mapping tag es =>
      if isCollectionTag tag then noValue (level + 1) .malformed
      else if isIdleTag tag then noValue level .malformed
      else
        match defaultText es with
        | .ok text => textValue level tag text
        | .error fault => noValue level fault
  | .again isMapping => return .again isMapping

def values (level : Nat) : List Node → Build (List Datum)
  | [] => return []
  | n :: rest => do
      let v ← value level n
      return v :: (← values level rest)

/-- The value of a key, which has to be fit for one. The mark of a default value is a
text here. -/
def key (level : Nat) : Node → Build Datum
  | .scalar .default text => return .text text
  | .scalar tag text =>
      if isCollectionTag tag then noValue level .malformed else textValue level tag text
  | .mapping .default es =>
      match defaultText es with
      | .ok text => return .text text
      | .error fault => noValue level fault
  | n => do
      let k ← value level n
      if k.isHashable then return k else noValue level .malformed

/-- The entries that a mapping has itself. -/
def own (level : Nat) : List (Node × Node) → Build (List (Datum × Datum))
  | [] => return []
  | (k, v) :: rest =>
      if k.tag = .merge then own level rest
      else do
        let k ← key level k
        let v ← value level v
        return (k, v) :: (← own level rest)

/-- The entries that a mapping takes over from others. -/
def takenBy (level : Nat) : List (Node × Node) → Build (List (Datum × Datum))
  | [] => return []
  | (k, v) :: rest =>
      if k.tag = .merge then do
        let first ← taken level v
        return first ++ (← takenBy level rest)
      else takenBy level rest

/-- What is taken over from a node; nothing from what is no mapping. Of several mappings,
the first wins. -/
def taken (level : Nat) : Node → Build (List (Datum × Datum))
  | .mapping _ es => do
      let others ← takenBy level es
      return others ++ (← own level es)
  | .sequence _ items => takenFromAll level items
  | _ => return []

def takenFromAll (level : Nat) : List Node → Build (List (Datum × Datum))
  | [] => return []
  | .mapping _ es :: rest => do
      let others ← takenBy level es
      let mine ← own level es
      return (← takenFromAll level rest) ++ others ++ mine
  | _ :: rest => takenFromAll level rest

/-- A list of mappings of one entry each, as pairs. -/
def pairs (level : Nat) : List Node → Build (List Datum)
  | [] => return []
  | .mapping _ [(k, v)] :: rest => do
      let k ← value level k
      let v ← value level v
      return .tuple [k, v] :: (← pairs level rest)
  | _ :: _ => do
      note level .malformed
      return []

end

end Node

/-- The value of a text; null if the text is empty. -/
def read (text : List Char) : Except Fault Datum := do
  match ← Node.ofText text with
  | none => return .null
  | some root =>
      match (root.value 0).run none with
      | (d, none) => return d
      | (_, some (_, fault)) => throw fault

end QueryLint.Yaml
