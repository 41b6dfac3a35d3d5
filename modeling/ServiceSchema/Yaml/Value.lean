/-
The value of a document.

Tags decide what a node is: the core tags name scalars, lists, mappings, sets and
lists of pairs, and no other tag is known. A merge key takes over the entries of
other mappings, which the mapping's own entries override.

The value and its faults are found separately. Faults are looked for level by
level, since a collection is filled only after everything beside it has been made:
of two faults the one that is less deep wins. An alias that leads back into its own
node has no finite value; it is unrolled a fixed number of times, deeper than
anything that reads the value looks.
-/
import ServiceSchema.Yaml.Node
import ServiceSchema.Yaml.Scalar

set_option autoImplicit false

namespace ServiceSchema.Yaml

/-- The value of a document. -/
inductive Value where
  | null
  | bool (value : Bool)
  | int (value : Int)
  | real (value : Number.Binary64)
  | text (value : String)
  | bytes (value : List Nat)
  | date
  | timestamp
  | list (items : List Value)
  | pair (first second : Value)
  | set (items : List Value)
  | mapping (entries : List (Value × Value))
deriving Inhabited

namespace Value

/-- The word for the type of a value. -/
def typeName : Value → String
  | null => "NoneType"
  | bool _ => "bool"
  | int _ => "int"
  | real _ => "float"
  | text _ => "str"
  | bytes _ => "bytes"
  | date => "date"
  | timestamp => "datetime"
  | list _ => "list"
  | pair .. => "tuple"
  | set _ => "set"
  | mapping _ => "dict"

/-- The value of the last entry whose key is the text `key`. -/
def find? (key : String) (entries : List (Value × Value)) : Option Value :=
  entries.foldl (fun found (k, v) => match k with
    | text s => if s = key then some v else found
    | _ => found) none

end Value

/-! ## Types of nodes -/

/-- The types that tags name. -/
inductive NodeType where
  | scalar (type : ScalarType)
  | list
  | mapping
  | set
  | pairs
  | unknown
deriving DecidableEq, Inhabited, Repr

/-- The type that a full tag names. -/
def NodeType.ofTag (tag : String) : NodeType :=
  let start := "tag:yaml.org,2002:".toList
  if start.isPrefixOf tag.toList then
    match String.ofList (tag.toList.drop start.length) with
    | "null" => .scalar .null
    | "bool" => .scalar .bool
    | "int" => .scalar .int
    | "float" => .scalar .real
    | "str" => .scalar .text
    | "binary" => .scalar .binary
    | "timestamp" => .scalar .timestamp
    | "merge" => .scalar .merge
    | "value" => .scalar .default
    | "seq" => .list
    | "map" => .mapping
    | "set" => .set
    | "omap" | "pairs" => .pairs
    | _ => .unknown
  else .unknown

/-- The type of a node that is no alias. -/
def Node.type : Node → NodeType
  | .scalar _ (.named tag) _ _ | .sequence _ (.named tag) _ | .mapping _ (.named tag) _ => .ofTag tag
  | .scalar _ .absent plain text => .scalar (if plain then plainType text else .text)
  | .scalar _ .untyped _ text => .scalar (plainType text)
  | .sequence .. => .list
  | .mapping .. => .mapping
  | .reference _ => .unknown

mutual

/-- The nodes with an anchor, at any depth. -/
def Node.anchored : Node → List (String × Node)
  | .scalar anchor tag plain text =>
    (anchor.map fun a => (a, Node.scalar anchor tag plain text)).toList
  | .sequence anchor tag items =>
    (anchor.map fun a => (a, Node.sequence anchor tag items)).toList ++ anchoredItems items
  | .mapping anchor tag entries =>
    (anchor.map fun a => (a, Node.mapping anchor tag entries)).toList ++ anchoredEntries entries
  | .reference _ => []

/-- The nodes with an anchor in a list. -/
def anchoredItems : List Node → List (String × Node)
  | [] => []
  | item :: rest => item.anchored ++ anchoredItems rest

/-- The nodes with an anchor in the entries of a mapping. -/
def anchoredEntries : List (Node × Node) → List (String × Node)
  | [] => []
  | entry :: rest => entry.1.anchored ++ entry.2.anchored ++ anchoredEntries rest

end

mutual

/-- The number of nodes. -/
def Node.count : Node → Nat
  | .sequence _ _ items => 1 + countItems items
  | .mapping _ _ entries => 1 + countEntries entries
  | _ => 1

/-- The number of nodes in a list. -/
def countItems : List Node → Nat
  | [] => 0
  | item :: rest => item.count + countItems rest

/-- The number of nodes in the entries of a mapping. -/
def countEntries : List (Node × Node) → Nat
  | [] => 0
  | entry :: rest => entry.1.count + entry.2.count + countEntries rest

end

/-- The nodes by anchor. -/
abbrev Anchors := List (String × Node)

/-- The node that an alias stands for; other nodes stand for themselves. -/
def Anchors.target (anchors : Anchors) : Node → Node
  | .reference name => (anchors.lookup name).getD .blank
  | node => node

/-! ## Mappings -/

/-- A key without its special meaning. -/
def plainKey : Node → Node
  | .scalar anchor tag plain text =>
    if (Node.scalar anchor tag plain text).type = .scalar .default then
      .scalar anchor .absent false text
    else .scalar anchor tag plain text
  | node => node

/-- The entries of a mapping after its merge keys have been followed: those merged in, the
first of a list of mappings last, then its own. A mapping that merges itself adds nothing. -/
def mergedEntries (anchors : Anchors) :
    Nat → List (Node × Node) → Except Fault (List (Node × Node))
  | 0, _ => .ok []
  | fuel + 1, entries => do
    let isMerge (entry : Node × Node) : Bool := (anchors.target entry.1).type = .scalar .merge
    let mapping (node : Node) : Except Fault (List (Node × Node)) :=
      match anchors.target node with
      | .mapping _ _ entries => mergedEntries anchors fuel entries
      | _ => .error (.malformed .merge)
    let merged ← (entries.filter isMerge).mapM fun (_, value) =>
      match anchors.target value with
      | .mapping .. => mapping value
      | .sequence _ _ items => do
        let parts ← items.mapM mapping
        return parts.reverse.flatten
      | _ => throw (.malformed .merge)
    let own := (entries.filter (!isMerge ·)).map fun (key, value) => (plainKey key, value)
    -- of two entries with one key the later counts, so own entries come last
    return merged.flatten ++ own

/-! ## Faults -/

/-- The text of a node that is to be a scalar. A mapping counts as the value under its key `=`, and
so does that value; a document with fewer nodes than `fuel` leads back to a mapping when the fuel
is used up. -/
def scalarText (anchors : Anchors) : Nat → Node → Except Fault String
  | 0, _ => .error (.scalar .endless)
  | fuel + 1, node =>
    match anchors.target node with
    | .scalar _ _ _ text => .ok text
    | .mapping _ _ entries =>
      match entries.find? fun (key, _) => (anchors.target key).type = .scalar .default with
      | some (_, value) => scalarText anchors fuel value
      | none => .error (.malformed .wrongKind)
    | _ => .error (.malformed .wrongKind)

/-- The value of a scalar of a type. -/
def scalarValue (type : ScalarType) (s : String) : Except Fault Value :=
  match type with
  | .null => .ok .null
  | .bool => (boolValue s).mapError .scalar |>.map .bool
  | .int => (intValue s).mapError .scalar |>.map .int
  | .real => (realValue s).mapError .scalar |>.map .real
  | .text => .ok (.text s)
  | .binary => match base64Value? s with
    | some bytes => .ok (.bytes bytes)
    | none => .error (.malformed .wrongKind)
  | .timestamp => (dateValue s).mapError .scalar |>.map fun hasTime =>
    if hasTime then .timestamp else .date
  | .merge | .default | .indicator => .error (.malformed .unknownTag)

/-- Whether a type marks entries and has no values. -/
def ScalarType.isMark : ScalarType → Bool
  | merge | default | indicator => true
  | _ => false

/-- The value of a node of a scalar type. -/
def nodeValue (anchors : Anchors) (fuel : Nat) (type : ScalarType) (node : Node) :
    Except Fault Value :=
  if type.isMark then .error (.malformed .unknownTag)
  else do
    let text ← scalarText anchors fuel node
    match type, node with
    -- a date is not read off the text that was found, but off what the node itself holds
    | .timestamp, .mapping .. => throw (.scalar .noText)
    | _, _ => scalarValue type text

/-- A collection, which is filled later. -/
def isCollection (type : NodeType) : Bool :=
  match type with
  | .list | .mapping | .set | .pairs => true
  | _ => false

/-- The fault of making a node without filling it. -/
def makingFault? (anchors : Anchors) (fuel : Nat) (node : Node) : Option Fault :=
  match node.type with
  | .scalar type =>
    match nodeValue anchors fuel type node with
    | .error fault => some fault
    | .ok _ => none
  | .unknown => some (.malformed .unknownTag)
  | _ => none

/-- A step of filling a collection. -/
inductive Task where
  /-- Makes a node; a key has to be hashable. -/
  | make (node : Node) (isKey : Bool)
  /-- Finds an item that the collection cannot hold. -/
  | misfit
deriving Inhabited

/-- What makes an entry of a mapping. -/
def entryTasks (entry : Node × Node) : List Task := [.make entry.1 true, .make entry.2 false]

/-- What makes an item of a list of pairs: a mapping with one entry. -/
def pairTasks (anchors : Anchors) (item : Node) : List Task :=
  match anchors.target item with
  | .mapping _ _ [(key, value)] => [.make key false, .make value false]
  | _ => [.misfit]

/-- What fills a collection. -/
def contents (anchors : Anchors) (fuel : Nat) (node : Node) : Except Fault (List Task) :=
  match node.type, node with
  | .list, .sequence _ _ items => .ok (items.map (.make · false))
  | .mapping, .mapping _ _ entries | .set, .mapping _ _ entries => do
    return (← mergedEntries anchors fuel entries).flatMap entryTasks
  | .pairs, .sequence _ _ items => .ok (items.flatMap (pairTasks anchors))
  | _, _ => .error (.malformed .wrongKind)

/-- Carries tasks out in order: the first fault, or the anchors that were seen and the collections
that are to be filled. -/
def makeAll (anchors : Anchors) (fuel : Nat) :
    List Task → List String → Except Fault (List String × List Node)
  | [], seen => .ok (seen, [])
  | .misfit :: _, _ => .error (.malformed .wrongKind)
  | .make node isKey :: rest, seen => do
    let made := anchors.target node
    let name := match made with
      | .scalar anchor .. | .sequence anchor .. | .mapping anchor .. => anchor
      | .reference _ => none
    let known := name.any seen.contains
    -- a node that was made before is not made again, and neither are its faults
    if !known then
      if let some fault := makingFault? anchors fuel made then throw fault
    -- lists and mappings have no hash, even when they are empty
    if isKey && isCollection made.type then throw (.malformed .unhashableKey)
    let seen := if known then seen else name.toList ++ seen
    let (seen, later) ← makeAll anchors fuel rest seen
    return (seen, if !known && isCollection made.type then made :: later else later)

/-- The first fault of filling collections one after another. -/
def fillingFault? (anchors : Anchors) (depth : Nat) : Nat → List String → List Node → Option Fault
  | 0, _, _ => none
  | _ + 1, _, [] => none
  | fuel + 1, seen, node :: queue =>
    let made : Except Fault (List String × List Node) := do
      makeAll anchors depth (← contents anchors depth node) seen
    match made with
    | .error fault => some fault
    -- what was just made is filled after all that is waiting already
    | .ok (seen, later) => fillingFault? anchors depth fuel seen (queue ++ later)

/-! ## Values -/

/-- How often an alias is followed into the node that holds it. -/
def unrolling : Nat := 8

/-- The keys of a set: of equal texts the first one. -/
def distinct (values : List Value) : List Value :=
  (values.foldl (fun (kept, texts) v => match v with
    | .text s => if texts.contains s then (kept, texts) else (v :: kept, s :: texts)
    | v => (v :: kept, texts)) (([] : List Value), ([] : List String))).1.reverse

/-- The value of a node of a document without faults. `path` holds the anchors that are being
followed. -/
def Node.value (anchors : Anchors) (depth : Nat) : Nat → List String → Node → Value
  | 0, _, _ => .null
  | fuel + 1, path, node =>
    let path := match node with
      | .reference name => name :: path
      | _ => path
    let within : Bool := match node with
      | .reference name => unrolling < path.count name
      | _ => false
    if within then .null
    else
      let made := anchors.target node
      let value := value anchors depth fuel path
      match made.type, made with
      | .list, .sequence _ _ items => .list (items.map value)
      | .mapping, .mapping _ _ entries =>
        match mergedEntries anchors depth entries with
        | .ok entries => .mapping (entries.map fun (k, v) => (value k, value v))
        | .error _ => .null
      | .set, .mapping _ _ entries =>
        match mergedEntries anchors depth entries with
        | .ok entries => .set (distinct (entries.map fun (k, _) => value k))
        | .error _ => .null
      | .pairs, .sequence _ _ items =>
        .list (items.map fun item => match anchors.target item with
          | .mapping _ _ [(k, v)] => .pair (value k) (value v)
          | _ => .null)
      | .scalar type, _ =>
        match nodeValue anchors depth type made with
        | .ok v => v
        | .error _ => .null
      | _, _ => .null

/-- What reads texts: it gives a value or says what is wrong with a text. -/
abbrev Reader := String → Except Fault Value

/-- The value of a text. An empty text is nothing. -/
def load (text : String) : Except Fault Value := do
  match ← read text with
  | none => return .null
  | some root =>
    let anchors := root.anchored
    let depth := root.count + 1
    let (seen, later) ← makeAll anchors depth [.make root false] []
    match fillingFault? anchors depth (depth * depth + 1) seen later with
    -- a mapping fills each node at most once, which bounds the number of rounds
    | some fault => throw fault
    | none => return root.value anchors depth ((unrolling + 1) * depth) []

end ServiceSchema.Yaml
