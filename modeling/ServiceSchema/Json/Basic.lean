/-
JSON values.

Objects are lists of entries, so that the order in which a document lists its
keys is part of the value: the written text depends on it. Numbers keep the
distinction that their text makes, whole numbers of any size on one side and
numbers of double precision on the other.
-/
import ServiceSchema.Json.Table
import ServiceSchema.Number.Binary64

set_option autoImplicit false

namespace ServiceSchema

/-- A JSON value. -/
inductive Json where
  | null
  | bool (value : Bool)
  | int (value : Int)
  | real (value : Number.Binary64)
  | text (value : String)
  | list (items : List Json)
  | object (entries : List (String × Json))
deriving Inhabited

namespace Json

/-- The object that a table of values is. -/
def ofTable (t : Table Json) : Json := object t.entries

/-- A list of texts. -/
def texts (items : List String) : Json := list (items.map text)

/-- The entries of an object, and none for other values. -/
def entries : Json → List (String × Json)
  | object entries => entries
  | _ => []

/-- The value of the last entry under a key. -/
def get? (value : Json) (key : String) : Option Json :=
  value.entries.reverse.lookup key

end Json

end ServiceSchema
