/-
What can be wrong with a YAML text.

A text is **malformed** when it breaks the rules of the language, its tags or its
anchors. It can also be well formed and still hold a scalar whose declared type
has no such value: an impossible date, a number without digits. The two are kept
apart because only the first is a fault of the document as a document.
-/

set_option autoImplicit false

namespace ServiceSchema.Yaml

/-- The rule that a malformed text breaks. -/
inductive Malformation where
  /-- A character that no document may hold. -/
  | unprintable
  /-- A character that starts no token. -/
  | unexpectedCharacter
  /-- A simple key that no colon follows. -/
  | missingColon
  /-- A sequence entry, key or value where none may stand. -/
  | misplacedIndicator
  /-- A directive that cannot be read, repeats another or asks for another version. -/
  | directive
  /-- An anchor or alias without a proper name. -/
  | anchorName
  /-- A tag that cannot be read or whose handle is not declared. -/
  | tag
  /-- The header of a block scalar. -/
  | blockHeader
  /-- A quoted scalar that is not closed, or cut by a document separator. -/
  | unclosedQuote
  /-- An escape that does not exist. -/
  | escape
  /-- Tokens in an order that no document has. -/
  | order
  /-- The end of the tokens that could be read. -/
  | unread
  /-- A second document. -/
  | severalDocuments
  /-- An alias whose anchor has not occurred. -/
  | undefinedAlias
  /-- An anchor that occurs twice. -/
  | duplicateAnchor
  /-- A tag for which no kind of value is known. -/
  | unknownTag
  /-- A collection where its tag asks for a scalar, or the other way round. -/
  | wrongKind
  /-- A list, mapping or set used as a key. -/
  | unhashableKey
  /-- A merge key with something else than mappings. -/
  | merge
deriving DecidableEq, Inhabited, Repr

/-- What a text that breaks a rule does. -/
def Malformation.reason : Malformation → String
  | unprintable => "special characters are not allowed"
  | unexpectedCharacter => "a character cannot start any token"
  | missingColon => "a key has no colon"
  | misplacedIndicator => "an entry, key or value is not allowed in its place"
  | directive => "a directive cannot be read"
  | anchorName => "an anchor or alias has no proper name"
  | tag => "a tag cannot be read"
  | blockHeader => "the header of a block scalar cannot be read"
  | unclosedQuote => "a quoted scalar is not closed"
  | escape => "an escape is unknown"
  | order => "a token is not expected in its place"
  | unread => "a token cannot be read"
  | severalDocuments => "there is more than one document"
  | undefinedAlias => "an alias has no anchor"
  | duplicateAnchor => "an anchor occurs twice"
  | unknownTag => "a tag is unknown"
  | wrongKind => "a node is not of the kind that its tag asks for"
  | unhashableKey => "a key is a collection"
  | merge => "a merge key has something else than mappings"

/-- Why a well-formed scalar has no value of its type. -/
inductive ScalarFault where
  /-- The text is no value of the type; the message says why. -/
  | invalid (message : String)
  /-- The number is beyond what the type can hold. -/
  | overflow (message : String)
  /-- The text names no boolean. -/
  | unknownWord
  /-- The number has no characters. -/
  | emptyNumber
  /-- The text does not look like a date. -/
  | noDate
  /-- A mapping stands where the text of a date belongs. -/
  | noText
  /-- The text of a mapping is that of the mapping itself. -/
  | endless
deriving DecidableEq, Inhabited, Repr

/-- What is wrong with a text. -/
inductive Fault where
  | malformed (rule : Malformation)
  | scalar (fault : ScalarFault)
deriving DecidableEq, Inhabited, Repr

end ServiceSchema.Yaml
