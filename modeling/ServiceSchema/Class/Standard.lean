/-
The classes and type constructors that every universe knows.

A program can mention the builtin classes, a few classes of the standard
collections and dates, and the abstract collections. Beside them stand the generic
aliases, each a second name for one of these classes, and the special forms, which
are no classes. The tables here fix the names.
-/
import ServiceSchema.Class.Id

set_option autoImplicit false

namespace ServiceSchema

namespace StandardClass

/-- A builtin class. -/
def builtin (name : String) : StandardClass := ⟨"builtins", name⟩

/-- A class of the standard collections. -/
def collection (name : String) : StandardClass := ⟨"collections", name⟩

/-- An abstract collection. -/
def abstract (name : String) : StandardClass := ⟨"collections.abc", name⟩

/-- The class that stands for any type at all. -/
def any : StandardClass := ⟨"typing", "Any"⟩

/-- The class that generic classes descend from. -/
def generic : StandardClass := ⟨"typing", "Generic"⟩

/-- The class that enumerations descend from. -/
def enumeration : StandardClass := ⟨"enum", "Enum"⟩

/-- The class that validated models descend from. -/
def model : StandardClass := ⟨"pydantic.main", "BaseModel"⟩

/-- The class of the value that stands for nothing. -/
def none : StandardClass := builtin "NoneType"

/-- The class that every class descends from. -/
def object : StandardClass := builtin "object"

/-- The builtin classes that an expression can mention. -/
def builtinNames : List String :=
  ["ArithmeticError", "AssertionError", "AttributeError", "BaseException", "BaseExceptionGroup",
   "BlockingIOError", "BrokenPipeError", "BufferError", "BytesWarning", "ChildProcessError",
   "ConnectionAbortedError", "ConnectionError", "ConnectionRefusedError", "ConnectionResetError",
   "DeprecationWarning", "EOFError", "EncodingWarning", "Exception", "ExceptionGroup",
   "FileExistsError", "FileNotFoundError", "FloatingPointError", "FutureWarning", "GeneratorExit",
   "ImportError", "ImportWarning", "IndentationError", "IndexError", "InterruptedError",
   "IsADirectoryError", "KeyError", "KeyboardInterrupt", "LookupError", "MemoryError",
   "ModuleNotFoundError", "NameError", "NotADirectoryError", "NotImplementedError", "OSError",
   "OverflowError", "PendingDeprecationWarning", "PermissionError", "ProcessLookupError",
   "RecursionError", "ReferenceError", "ResourceWarning", "RuntimeError", "RuntimeWarning",
   "StopAsyncIteration", "StopIteration", "SyntaxError", "SyntaxWarning", "SystemError",
   "SystemExit", "TabError", "TimeoutError", "TypeError", "UnboundLocalError",
   "UnicodeDecodeError", "UnicodeEncodeError", "UnicodeError", "UnicodeTranslateError",
   "UnicodeWarning", "UserWarning", "ValueError", "Warning", "ZeroDivisionError", "bool",
   "bytearray", "bytes", "classmethod", "complex", "dict", "enumerate", "filter", "float",
   "frozenset", "int", "list", "map", "memoryview", "object", "property", "range", "reversed",
   "set", "slice", "staticmethod", "str", "super", "tuple", "type", "zip"]

/-- The builtin functions that an expression can mention. -/
def builtinFunctions : List String :=
  ["abs", "aiter", "all", "anext", "any", "ascii", "bin", "breakpoint", "callable", "chr",
   "compile", "delattr", "dir", "divmod", "eval", "exec", "format", "getattr", "globals",
   "hasattr", "hash", "hex", "id", "input", "isinstance", "issubclass", "iter", "len", "locals",
   "max", "min", "next", "oct", "open", "ord", "pow", "print", "repr", "round", "setattr",
   "sorted", "sum", "vars"]

/-- The names of the abstract collections. -/
def abstractNames : List String :=
  ["Awaitable", "Coroutine", "AsyncIterable", "AsyncIterator", "AsyncGenerator", "Hashable",
   "Iterable", "Iterator", "Generator", "Reversible", "Sized", "Container", "Callable",
   "Collection", "Set", "MutableSet", "Mapping", "MutableMapping", "MappingView", "KeysView",
   "ItemsView", "ValuesView", "Sequence", "MutableSequence", "ByteString"]

/-- The classes outside of the builtin ones that a program can mention. -/
def libraryClasses : List StandardClass :=
  [any, ⟨"datetime", "date"⟩, ⟨"datetime", "datetime"⟩]
    ++ ["deque", "OrderedDict", "defaultdict"].map collection ++ abstractNames.map abstract

/-- Every standard class that a program can mention. -/
def all : List StandardClass := libraryClasses ++ builtinNames.map builtin ++ [none]

/-- The concrete classes that can be given type parameters. -/
def genericClasses : List StandardClass :=
  ["list", "tuple", "set", "frozenset", "dict", "type", "enumerate"].map builtin
    ++ ["deque", "OrderedDict", "defaultdict"].map collection

/-- A class that can be given type parameters. -/
def isGeneric (cls : StandardClass) : Bool :=
  cls.module == "collections.abc" || genericClasses.contains cls

end StandardClass

/-! ## Aliases and special forms -/

/-- A generic alias: a second name for a class, under which it takes type parameters. -/
structure GenericAlias where
  name : String
  origin : StandardClass
deriving DecidableEq, Inhabited, Repr

/-- The generic aliases. -/
def GenericAlias.all : List GenericAlias :=
  [("List", "list"), ("Tuple", "tuple"), ("Set", "set"), ("FrozenSet", "frozenset"),
   ("Dict", "dict"), ("Type", "type")].map (fun (name, cls) => ⟨name, .builtin cls⟩)
  ++ [("Sequence", "Sequence"), ("MutableSequence", "MutableSequence"), ("Iterable", "Iterable"),
   ("Collection", "Collection"), ("AbstractSet", "Set"), ("MutableSet", "MutableSet"),
   ("Mapping", "Mapping"), ("MutableMapping", "MutableMapping"), ("Iterator", "Iterator"),
   ("Generator", "Generator"), ("Callable", "Callable"), ("Hashable", "Hashable"),
   ("Awaitable", "Awaitable")].map (fun (name, cls) => ⟨name, .abstract cls⟩)
  ++ [("Deque", "deque"), ("DefaultDict", "defaultdict")].map
    (fun (name, cls) => ⟨name, .collection cls⟩)

/-- The special forms of type expressions. -/
inductive SpecialForm where
  | classVar
  | final
  | required
  | notRequired
  | optional
  | union
  | literal
  | self
  | never
  | literalText
deriving DecidableEq, Inhabited, Repr

namespace SpecialForm

/-- The word for a special form. -/
def word : SpecialForm → String
  | classVar => "ClassVar"
  | final => "Final"
  | required => "Required"
  | notRequired => "NotRequired"
  | optional => "Optional"
  | union => "Union"
  | literal => "Literal"
  | self => "Self"
  | never => "Never"
  | literalText => "LiteralString"

/-- All special forms. -/
def all : List SpecialForm :=
  [classVar, final, required, notRequired, optional, union, literal, self, never, literalText]

end SpecialForm

end ServiceSchema
