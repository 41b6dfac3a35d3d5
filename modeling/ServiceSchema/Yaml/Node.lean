/-
Document trees.

A document is a tree of scalars, sequences and mappings. A node carries the tag it
was given, if any, and its anchor; an alias stands for the node that bears its
anchor, which may be the node that holds the alias. Anchors are unique, so the tree
together with the nodes by anchor determines the document.

The reader is a descent over the tokens. What may stand where is decided by the
next token alone; every call passes a token or leads to one that does, which bounds
the descent.
-/
import ServiceSchema.Yaml.Token

set_option autoImplicit false

namespace ServiceSchema.Yaml

/-- The tag that a node was given. -/
inductive Tag where
  /-- None: a plain scalar is typed by its text, anything else by its form. -/
  | absent
  /-- The tag `!`: a scalar is typed by its text even if it is quoted. -/
  | untyped
  /-- A full tag. -/
  | named (name : String)
deriving DecidableEq, Inhabited, Repr

/-- A node of a document. -/
inductive Node where
  | scalar (anchor : Option String) (tag : Tag) (plain : Bool) (text : String)
  | sequence (anchor : Option String) (tag : Tag) (items : List Node)
  | mapping (anchor : Option String) (tag : Tag) (entries : List (Node × Node))
  | reference (anchor : String)
deriving Inhabited

/-- The empty scalar, which stands for a node that is left out. -/
def Node.blank : Node := .scalar none .absent true ""

/-- The tokens that are left and the anchors that have occurred. -/
structure Reading where
  tokens : List Token
  anchors : List String := []

namespace Reading

/-- The next token, if it could be read. -/
def head (r : Reading) : Token := r.tokens.headD .unread

/-- The reading after the next token. -/
def tail (r : Reading) : Reading := { r with tokens := r.tokens.tail }

/-- Refuses the next token, because none of its kind may stand here or because it could not be
read. -/
def refuse {α : Type} (r : Reading) : Except Fault α :=
  .error (.malformed (if r.tokens.isEmpty then .unread else .order))

/-- The reading after an anchor, which must not have occurred. -/
def bind (r : Reading) : Option String → Except Fault Reading
  | none => .ok r
  | some name =>
    if r.anchors.contains name then .error (.malformed .duplicateAnchor)
    else .ok { r with anchors := name :: r.anchors }

/-- The anchor and tag in front of a node, in either order. -/
def properties (r : Reading) : (Option String × Option (Option String × String)) × Reading :=
  match r.tokens with
  | .anchor name :: .tag handle suffix :: rest =>
    ((some name, some (handle, suffix)), { r with tokens := rest })
  | .tag handle suffix :: .anchor name :: rest =>
    ((some name, some (handle, suffix)), { r with tokens := rest })
  | .anchor name :: rest => ((some name, none), { r with tokens := rest })
  | .tag handle suffix :: rest => ((none, some (handle, suffix)), { r with tokens := rest })
  | _ => ((none, none), r)

end Reading

/-- The handles that every document knows. -/
def defaultHandles : List (String × String) := [("!", "!"), ("!!", "tag:yaml.org,2002:")]

/-- The tag that a handle and a suffix stand for. -/
def resolveTag (handles : List (String × String)) :
    Option (Option String × String) → Except Fault Tag
  | none => .ok .absent
  | some (none, suffix) => .ok (if suffix = "!" then .untyped else .named suffix)
  | some (some handle, suffix) =>
    match handles.lookup handle with
    | none => .error (.malformed .tag)
    | some expansion =>
      let name := expansion ++ suffix
      .ok (if name = "!" then .untyped else .named name)

/-- The anchor and the tag in front of a node. Unless there are both, it has to be known that the
other one does not follow. -/
def readProperties (handles : List (String × String)) (r : Reading) :
    Except Fault ((Option String × Tag) × Reading) :=
  let ((anchor, words), r) := r.properties
  if r.tokens.isEmpty && (anchor.isNone || words.isNone) then r.refuse
  else do return ((anchor, ← resolveTag handles words), r)

open Reading in
mutual

/-- The node at the front of the tokens. `block` says whether it may be a block collection,
`indentless` whether it may be a sequence that is not indented under its key. -/
def readNode (handles : List (String × String)) :
    Nat → Bool → Bool → Reading → Except Fault (Node × Reading)
  | 0, _, _, r => r.refuse
  | fuel + 1, block, indentless, r =>
    match r.head with
    | .reference name =>
      if r.anchors.contains name then .ok (.reference name, r.tail)
      else .error (.malformed .undefinedAlias)
    | _ => do
      let ((anchor, tag), r) ← readProperties handles r
      match r.head with
      | .unread => r.refuse
      | .scalar text plain =>
        let r ← r.bind anchor
        return (.scalar anchor tag plain text, r.tail)
      | .flowSequenceStart =>
        let r ← r.bind anchor
        let (items, r) ← readFlowItems handles fuel true r.tail
        return (.sequence anchor tag items, r)
      | .flowMappingStart =>
        let r ← r.bind anchor
        let (entries, r) ← readFlowEntries handles fuel true r.tail
        return (.mapping anchor tag entries, r)
      | token =>
        if token = .blockEntry ∧ indentless then
          let r ← r.bind anchor
          let (items, r) ← readIndentlessItems handles fuel r
          return (.sequence anchor tag items, r)
        else if token = .blockSequenceStart ∧ block then
          let r ← r.bind anchor
          let (items, r) ← readBlockItems handles fuel r.tail
          return (.sequence anchor tag items, r)
        else if token = .blockMappingStart ∧ block then
          let r ← r.bind anchor
          let (entries, r) ← readBlockEntries handles fuel r.tail
          return (.mapping anchor tag entries, r)
        else if anchor.isSome ∨ tag ≠ .absent then
          let r ← r.bind anchor
          return (.scalar anchor tag (tag = .absent) "", r)
        else r.refuse

/-- The items of a block sequence up to its end. -/
def readBlockItems (handles : List (String × String)) :
    Nat → Reading → Except Fault (List Node × Reading)
  | 0, r => r.refuse
  | fuel + 1, r =>
    match r.head with
    | .blockEntry => do
      let r := r.tail
      let (item, r) ←
        if [.blockEntry, .blockEnd].contains r.head then pure (.blank, r)
        else readNode handles fuel true false r
      let (items, r) ← readBlockItems handles fuel r
      return (item :: items, r)
    | .blockEnd => .ok ([], r.tail)
    | _ => r.refuse

/-- The items of a sequence that is not indented under its key. -/
def readIndentlessItems (handles : List (String × String)) :
    Nat → Reading → Except Fault (List Node × Reading)
  | 0, r => r.refuse
  | fuel + 1, r =>
    match r.head with
    | .blockEntry => do
      let r := r.tail
      let (item, r) ←
        if [.blockEntry, .key, .value, .blockEnd].contains r.head then pure (.blank, r)
        else readNode handles fuel true false r
      let (items, r) ← readIndentlessItems handles fuel r
      return (item :: items, r)
    | _ => .ok ([], r)

/-- The entries of a block mapping up to its end. -/
def readBlockEntries (handles : List (String × String)) :
    Nat → Reading → Except Fault (List (Node × Node) × Reading)
  | 0, r => r.refuse
  | fuel + 1, r =>
    match r.head with
    | .key => do
      let r := r.tail
      let (key, r) ←
        if [.key, .value, .blockEnd].contains r.head then pure (.blank, r)
        else readNode handles fuel true true r
      let (value, r) ← readBlockValue handles fuel r
      let (entries, r) ← readBlockEntries handles fuel r
      return ((key, value) :: entries, r)
    | .blockEnd => .ok ([], r.tail)
    | _ => r.refuse

/-- The value of a block mapping entry, which may be left out. -/
def readBlockValue (handles : List (String × String)) :
    Nat → Reading → Except Fault (Node × Reading)
  | 0, r => r.refuse
  | fuel + 1, r =>
    match r.head with
    | .value =>
      let r := r.tail
      if [.key, .value, .blockEnd].contains r.head then .ok (.blank, r)
      else readNode handles fuel true true r
    | _ => .ok (.blank, r)

/-- The items of a flow sequence up to its bracket. An entry with a key or a colon is a mapping
of one entry. -/
def readFlowItems (handles : List (String × String)) :
    Nat → Bool → Reading → Except Fault (List Node × Reading)
  | 0, _, r => r.refuse
  | fuel + 1, first, r => do
    if r.head = .flowSequenceEnd then return ([], r.tail)
    if !first ∧ r.head ≠ .flowEntry then r.refuse
    let r := if first then r else r.tail
    if r.head = .flowSequenceEnd then return ([], r.tail)
    let (item, r) ←
      if r.head = .key then do
        let r := r.tail
        let (key, r) ←
          if [.value, .flowEntry, .flowSequenceEnd].contains r.head then pure (.blank, r)
          else readNode handles fuel false false r
        let (value, r) ← readFlowValue handles fuel .flowSequenceEnd r
        pure (.mapping none .absent [(key, value)], r)
      else readNode handles fuel false false r
    let (items, r) ← readFlowItems handles fuel false r
    return (item :: items, r)

/-- The entries of a flow mapping up to its bracket. -/
def readFlowEntries (handles : List (String × String)) :
    Nat → Bool → Reading → Except Fault (List (Node × Node) × Reading)
  | 0, _, r => r.refuse
  | fuel + 1, first, r => do
    if r.head = .flowMappingEnd then return ([], r.tail)
    if !first ∧ r.head ≠ .flowEntry then r.refuse
    let r := if first then r else r.tail
    if r.head = .flowMappingEnd then return ([], r.tail)
    let (entry, r) ←
      if r.head = .key then do
        let r := r.tail
        let (key, r) ←
          if [.value, .flowEntry, .flowMappingEnd].contains r.head then pure (.blank, r)
          else readNode handles fuel false false r
        let (value, r) ← readFlowValue handles fuel .flowMappingEnd r
        pure ((key, value), r)
      else do
        let (key, r) ← readNode handles fuel false false r
        pure ((key, .blank), r)
    let (entries, r) ← readFlowEntries handles fuel false r
    return (entry :: entries, r)

/-- The value of an entry between flow brackets, which may be left out. -/
def readFlowValue (handles : List (String × String)) :
    Nat → Token → Reading → Except Fault (Node × Reading)
  | 0, _, r => r.refuse
  | fuel + 1, close, r =>
    match r.head with
    | .value =>
      let r := r.tail
      if r.head = .flowEntry ∨ r.head = close then .ok (.blank, r)
      else readNode handles fuel false false r
    | _ => .ok (.blank, r)

end

/-- The handles that the directives at the front declare, and the tokens after them. There may
be one version, which must be 1, and one declaration of each handle. -/
def readDirectives : List Token → Bool → List (String × String) →
    Except Fault (List (String × String) × List Token)
  | .directive (.version major) :: rest, versionSeen, handles =>
    if versionSeen ∨ major ≠ 1 then .error (.malformed .directive)
    else readDirectives rest true handles
  | .directive (.tagHandle handle expansion) :: rest, versionSeen, handles =>
    if (handles.lookup handle).isSome then .error (.malformed .directive)
    else readDirectives rest versionSeen ((handle, expansion) :: handles)
  | .directive .other :: rest, versionSeen, handles => readDirectives rest versionSeen handles
  | rest, _, handles => .ok (handles ++ defaultHandles, rest)

/-- The document at the start of the tokens, none if there is only the end of the text, and the
tokens after it. A document starts with its content, or with directives and a separator. -/
def readDocument (tokens : List Token) : Except Fault (Option Node × List Token) := do
  let fuel := 4 * tokens.length + 8
  match tokens.headD .unread with
  | .streamEnd => return (none, tokens)
  | .directive _ | .documentStart =>
    let (handles, tokens) ← readDirectives tokens false []
    if tokens.headD .unread ≠ .documentStart then Reading.refuse { tokens }
    let tokens := tokens.tail
    match tokens.headD .unread with
    | .directive _ | .documentStart | .documentEnd | .streamEnd => return (some .blank, tokens)
    | _ =>
      let (node, r) ← readNode handles fuel true false { tokens }
      return (some node, r.tokens)
  | _ =>
    let (node, r) ← readNode defaultHandles fuel true false { tokens }
    return (some node, r.tokens)

/-- What follows the only document of a text: ends of it, and nothing else. -/
def readEnd (tokens : List Token) : Except Fault Unit := do
  let rest := tokens.dropWhile (· = .documentEnd)
  match rest.headD .unread with
  | .streamEnd => return ()
  | .directive _ | .documentStart =>
    let (_, rest) ← readDirectives rest false []
    if rest.headD .unread ≠ .documentStart then Reading.refuse { tokens := rest }
    throw (.malformed .severalDocuments)
  | _ => Reading.refuse { tokens := rest }

/-- The document of a text, none if the text is empty. The tokens may end with a fault, which
counts when nothing is refused before the next token is asked for. -/
def read (text : String) : Except Fault (Option Node) :=
  let (tokens, fault) := tokens text
  let document : Except Fault (Option Node) := do
    let (node, rest) ← readDocument tokens
    readEnd rest
    return node
  match fault, document with
  | some fault, .error (.malformed .unread) => .error fault
  | _, document => document

end ServiceSchema.Yaml
