/-
The library that every program can rely on.

A class of the library is known by its lineage, its documentation and its public
attributes. The functions of the abstract collections are written in the language,
like those of any class; those of the other classes are not. Documentation that only
shows how instances are made is left out.
-/
import ServiceSchema.Class.NativeTable

set_option autoImplicit false

namespace ServiceSchema

/-- A class of the library. -/
structure LibraryClass where
  /-- The classes that it descends from, itself first. -/
  lineage : List StandardClass
  documentation : Option String := none
  members : List (String × Member) := []
  /-- Attributes that a class of this lineage has, but its instances do not. -/
  metaNames : List String := []
deriving Inhabited

namespace Library

/-! ## Kinds of class -/

/-- A builtin class, with the classes that it descends from beside the root of all classes. -/
def builtin (name : String) (above documentation : List String)
    (members : List (String × Member) := []) : String × LibraryClass :=
  (name, { lineage := (name :: above).map .builtin ++ [.object]
           documentation := documentation? documentation, members })

/-- An exception, with the exceptions that it descends from beside the common ones. -/
def exception (name : String) (above documentation : List String)
    (members : List (String × Member) := []) : String × LibraryClass :=
  builtin name (above ++ ["Exception", "BaseException"]) documentation members

/-- An abstract collection, with the ones that it descends from. -/
def abstract (name : String) (above documentation : List String)
    (members : List (String × Member) := []) : String × LibraryClass :=
  (name, { lineage := (name :: above).map .abstract ++ [.object]
           documentation := documentation? documentation, members, metaNames := ["register"] })

/-- A function that is written in the language. -/
def function (name line : String) (documentation : List String) : String × Member :=
  (name, .function
    { name, parameters := parameters line, documentation := documentation? documentation })

/-! ## Builtin classes -/

/-- The class that every class descends from. -/
def root : LibraryClass where
  lineage := [.object]
  documentation := documentation?
    ["The base class of the class hierarchy.",
     "",
     "When called, it accepts no arguments and returns a new featureless",
     "instance that has no instance attributes and cannot be given any.",
     ""]
  metaNames := ["mro"]

/-- The other builtin classes that are no exceptions. -/
def builtinClasses : List (String × LibraryClass) :=
  [builtin "bool" ["int"] [],
   builtin "bytearray" [] [] byteArrayAttributes,
   builtin "bytes" [] [] byteAttributes,
   builtin "classmethod" [] [],
   builtin "complex" []
     ["Create a complex number from a real part and an optional imaginary part.",
      "",
      "This is equivalent to (real + imag*1j) where imag defaults to 0."]
     complexAttributes,
   builtin "dict" [] [] dictAttributes,
   builtin "enumerate" []
     ["Return an enumerate object.",
      "",
      "  iterable",
      "    an object supporting iteration",
      "",
      "The enumerate object yields pairs containing a count (from start, which",
      "defaults to zero) and a value yielded by the iterable argument.",
      "",
      "enumerate is useful for obtaining an indexed list:",
      "    (0, seq[0]), (1, seq[1]), (2, seq[2]), ..."],
   builtin "filter" [] [],
   builtin "float" []
     ["Convert a string or number to a floating point number, if possible."]
     floatAttributes,
   builtin "frozenset" [] [] frozenSetAttributes,
   builtin "int" [] [] intAttributes,
   builtin "list" []
     ["Built-in mutable sequence.",
      "",
      "If no argument is given, the constructor creates a new empty list.",
      "The argument must be an iterable if specified."]
     listAttributes,
   builtin "map" [] [],
   builtin "memoryview" []
     ["Create a new memoryview object which references the given object."]
     memoryViewAttributes,
   builtin "property" [] [] propertyAttributes,
   builtin "range" [] [] rangeAttributes,
   builtin "reversed" [] ["Return a reverse iterator over the values of the given sequence."],
   builtin "set" [] [] setAttributes,
   builtin "slice" [] [] sliceAttributes,
   builtin "staticmethod" [] [],
   builtin "str" [] [] textAttributes,
   builtin "super" [] [],
   builtin "tuple" []
     ["Built-in immutable sequence.",
      "",
      "If no argument is given, the constructor returns an empty tuple.",
      "If iterable is specified the tuple is initialized from iterable's items.",
      "",
      "If the argument is a tuple, the return value is the same object."]
     tupleAttributes,
   builtin "type" [] [] typeAttributes,
   builtin "zip" [] [],
   builtin "NoneType" [] []]

/-- The builtin exceptions. -/
def exceptions : List (String × LibraryClass) :=
  [exception "ArithmeticError" [] ["Base class for arithmetic errors."],
   exception "AssertionError" [] ["Assertion failed."],
   exception "AttributeError" []
     ["Attribute not found."]
     (slots "member" "AttributeError" ["name", "obj"]),
   builtin "BaseException" [] ["Common base class for all exceptions"]
     (unsigned "BaseException" ["with_traceback", "add_note"]
       ++ slots "attribute" "BaseException" ["args"]),
   builtin "BaseExceptionGroup" ["BaseException"]
     ["A combination of multiple unrelated exceptions."]
     (unsigned "BaseExceptionGroup" ["derive", "split", "subgroup"]
       ++ slots "member" "BaseExceptionGroup" ["message", "exceptions"]),
   exception "BlockingIOError" ["OSError"] ["I/O operation would block."],
   exception "BrokenPipeError" ["ConnectionError", "OSError"] ["Broken pipe."],
   exception "BufferError" [] ["Buffer error."],
   exception "BytesWarning" ["Warning"]
     ["Base class for warnings about bytes and buffer related problems, mostly",
      "related to conversion from str or comparing to str."],
   exception "ChildProcessError" ["OSError"] ["Child process error."],
   exception "ConnectionAbortedError" ["ConnectionError", "OSError"] ["Connection aborted."],
   exception "ConnectionError" ["OSError"] ["Connection error."],
   exception "ConnectionRefusedError" ["ConnectionError", "OSError"] ["Connection refused."],
   exception "ConnectionResetError" ["ConnectionError", "OSError"] ["Connection reset."],
   exception "DeprecationWarning" ["Warning"]
     ["Base class for warnings about deprecated features."],
   exception "EOFError" [] ["Read beyond end of file."],
   exception "EncodingWarning" ["Warning"] ["Base class for warnings about encodings."],
   builtin "Exception" ["BaseException"] ["Common base class for all non-exit exceptions."],
   exception "ExceptionGroup" ["BaseExceptionGroup"] [],
   exception "FileExistsError" ["OSError"] ["File already exists."],
   exception "FileNotFoundError" ["OSError"] ["File not found."],
   exception "FloatingPointError" ["ArithmeticError"] ["Floating point operation failed."],
   exception "FutureWarning" ["Warning"]
     ["Base class for warnings about constructs that will change semantically",
      "in the future."],
   builtin "GeneratorExit" ["BaseException"] ["Request that a generator exit."],
   exception "ImportError" []
     ["Import can't find module, or can't find name in module."]
     (slots "member" "ImportError" ["msg", "name", "path"]),
   exception "ImportWarning" ["Warning"]
     ["Base class for warnings about probable mistakes in module imports"],
   exception "IndentationError" ["SyntaxError"] ["Improper indentation."],
   exception "IndexError" ["LookupError"] ["Sequence index out of range."],
   exception "InterruptedError" ["OSError"] ["Interrupted by signal."],
   exception "IsADirectoryError" ["OSError"] ["Operation doesn't work on directories."],
   exception "KeyError" ["LookupError"] ["Mapping key not found."],
   builtin "KeyboardInterrupt" ["BaseException"] ["Program interrupted by user."],
   exception "LookupError" [] ["Base class for lookup errors."],
   exception "MemoryError" [] ["Out of memory."],
   exception "ModuleNotFoundError" ["ImportError"] ["Module not found."],
   exception "NameError" [] ["Name not found globally."] (slots "member" "NameError" ["name"]),
   exception "NotADirectoryError" ["OSError"] ["Operation only works on directories."],
   exception "NotImplementedError" ["RuntimeError"]
     ["Method or function hasn't been implemented yet."],
   exception "OSError" [] ["Base class for I/O related errors."]
     (slots "member" "OSError" ["errno", "strerror", "filename", "filename2"]
       ++ slots "attribute" "OSError" ["characters_written"]),
   exception "OverflowError" ["ArithmeticError"] ["Result too large to be represented."],
   exception "PendingDeprecationWarning" ["Warning"]
     ["Base class for warnings about features which will be deprecated",
      "in the future."],
   exception "PermissionError" ["OSError"] ["Not enough permissions."],
   exception "ProcessLookupError" ["OSError"] ["Process not found."],
   exception "RecursionError" ["RuntimeError"] ["Recursion limit exceeded."],
   exception "ReferenceError" [] ["Weak ref proxy used after referent went away."],
   exception "ResourceWarning" ["Warning"] ["Base class for warnings about resource usage."],
   exception "RuntimeError" [] ["Unspecified run-time error."],
   exception "RuntimeWarning" ["Warning"]
     ["Base class for warnings about dubious runtime behavior."],
   exception "StopAsyncIteration" [] ["Signal the end from iterator.__anext__()."],
   exception "StopIteration" []
     ["Signal the end from iterator.__next__()."]
     (slots "member" "StopIteration" ["value"]),
   exception "SyntaxError" [] ["Invalid syntax."]
     (slots "member" "SyntaxError" ["msg", "filename", "lineno", "offset", "text",
          "end_lineno", "end_offset", "print_file_and_line"]),
   exception "SyntaxWarning" ["Warning"] ["Base class for warnings about dubious syntax."],
   exception "SystemError" []
     ["Internal error in the Python interpreter.",
      "",
      "Please report this to the Python maintainer, along with the traceback,",
      "the Python version, and the hardware/OS platform and version."],
   builtin "SystemExit" ["BaseException"]
     ["Request to exit from the interpreter."]
     (slots "member" "SystemExit" ["code"]),
   exception "TabError" ["IndentationError", "SyntaxError"]
     ["Improper mixture of spaces and tabs."],
   exception "TimeoutError" ["OSError"] ["Timeout expired."],
   exception "TypeError" [] ["Inappropriate argument type."],
   exception "UnboundLocalError" ["NameError"]
     ["Local name referenced but not bound to a value."],
   exception "UnicodeDecodeError" ["UnicodeError", "ValueError"]
     ["Unicode decoding error."]
     (slots "member" "UnicodeDecodeError" ["encoding", "object", "start", "end", "reason"]),
   exception "UnicodeEncodeError" ["UnicodeError", "ValueError"]
     ["Unicode encoding error."]
     (slots "member" "UnicodeEncodeError" ["encoding", "object", "start", "end", "reason"]),
   exception "UnicodeError" ["ValueError"] ["Unicode related error."],
   exception "UnicodeTranslateError" ["UnicodeError", "ValueError"]
     ["Unicode translation error."]
     (slots "member" "UnicodeTranslateError" ["encoding", "object", "start", "end",
          "reason"]),
   exception "UnicodeWarning" ["Warning"]
     ["Base class for warnings about Unicode related problems, mostly",
      "related to conversion problems."],
   exception "UserWarning" ["Warning"] ["Base class for warnings generated by user code."],
   exception "ValueError" [] ["Inappropriate argument value (of correct type)."],
   exception "Warning" [] ["Base class for warning categories."],
   exception "ZeroDivisionError" ["ArithmeticError"]
     ["Second argument to a division or modulo operation was zero."]]

/-! ## Abstract collections -/

/-- The abstract collections. -/
def abstractClasses : List (String × LibraryClass) :=
  [abstract "Awaitable" [] [],
   abstract "Coroutine" ["Awaitable"] []
     [function "send" "self value"
        ["Send a value into the coroutine.",
         "        Return next yielded value or raise StopIteration.",
         "        "],
      function "throw" "self typ val= tb="
        ["Raise an exception in the coroutine.",
         "        Return next yielded value or raise StopIteration.",
         "        "],
      function "close" "self" ["Raise GeneratorExit inside coroutine.", "        "]],
   abstract "AsyncIterable" [] [],
   abstract "AsyncIterator" ["AsyncIterable"] [],
   abstract "AsyncGenerator" ["AsyncIterator", "AsyncIterable"] []
     [function "asend" "self value"
        ["Send a value into the asynchronous generator.",
         "        Return next yielded value or raise StopAsyncIteration.",
         "        "],
      function "athrow" "self typ val= tb="
        ["Raise an exception in the asynchronous generator.",
         "        Return next yielded value or raise StopAsyncIteration.",
         "        "],
      function "aclose" "self" ["Raise GeneratorExit inside coroutine.", "        "]],
   abstract "Hashable" [] [],
   abstract "Iterable" [] [],
   abstract "Iterator" ["Iterable"] [],
   abstract "Generator" ["Iterator", "Iterable"] []
     [function "send" "self value"
        ["Send a value into the generator.",
         "        Return next yielded value or raise StopIteration.",
         "        "],
      function "throw" "self typ val= tb="
        ["Raise an exception in the generator.",
         "        Return next yielded value or raise StopIteration.",
         "        "],
      function "close" "self" ["Raise GeneratorExit inside generator.", "        "]],
   abstract "Reversible" ["Iterable"] [],
   abstract "Sized" [] [],
   abstract "Container" [] [],
   abstract "Callable" [] [],
   abstract "Collection" ["Sized", "Iterable", "Container"] [],
   abstract "Set" ["Collection", "Sized", "Iterable", "Container"]
     ["A set is a finite, iterable container.",
      "",
      "    This class provides concrete generic implementations of all",
      "    methods except for __contains__, __iter__ and __len__.",
      "",
      "    To override the comparisons (presumably for speed, as the",
      "    semantics are fixed), redefine __le__ and __ge__,",
      "    then the other operations will automatically follow suit.",
      "    "]
     [function "isdisjoint" "self other" ["Return True if two sets have a null intersection."]],
   abstract "MutableSet" ["Set", "Collection", "Sized", "Iterable", "Container"]
     ["A mutable set is a finite, iterable container.",
      "",
      "    This class provides concrete generic implementations of all",
      "    methods except for __contains__, __iter__, __len__,",
      "    add(), and discard().",
      "",
      "    To override the comparisons (presumably for speed, as the",
      "    semantics are fixed), all you have to do is redefine __le__ and",
      "    then the other operations will automatically follow suit.",
      "    "]
     [function "add" "self value" ["Add an element."],
      function "discard" "self value"
        ["Remove an element.  Do not raise an exception if absent."],
      function "remove" "self value" ["Remove an element. If not a member, raise a KeyError."],
      function "pop" "self" ["Return the popped value.  Raise KeyError if empty."],
      function "clear" "self" ["This is slow (creates N new iterators!) but effective."]],
   abstract "Mapping" ["Collection", "Sized", "Iterable", "Container"]
     ["A Mapping is a generic container for associating key/value",
      "    pairs.",
      "",
      "    This class provides concrete generic implementations of all",
      "    methods except for __getitem__, __iter__, and __len__.",
      "    "]
     [function "get" "self key default="
        ["D.get(k[,d]) -> D[k] if k in D, else d.  d defaults to None."],
      function "keys" "self" ["D.keys() -> a set-like object providing a view on D's keys"],
      function "items" "self" ["D.items() -> a set-like object providing a view on D's items"],
      function "values" "self" ["D.values() -> an object providing a view on D's values"]],
   abstract "MutableMapping" ["Mapping", "Collection", "Sized", "Iterable", "Container"]
     ["A MutableMapping is a generic container for associating",
      "    key/value pairs.",
      "",
      "    This class provides concrete generic implementations of all",
      "    methods except for __getitem__, __setitem__, __delitem__,",
      "    __iter__, and __len__.",
      "    "]
     [function "pop" "self key default="
        ["D.pop(k[,d]) -> v, remove specified key and return the corresponding value.",
         "          If key is not found, d is returned if given, otherwise KeyError is raised.",
         "        "],
      function "popitem" "self"
        ["D.popitem() -> (k, v), remove and return some (key, value) pair",
         "           as a 2-tuple; but raise KeyError if D is empty.",
         "        "],
      function "clear" "self" ["D.clear() -> None.  Remove all items from D."],
      function "update" "self other= **kwds"
        [" D.update([E, ]**F) -> None.  Update D from mapping/iterable E and F.",
         "            If E present and has a .keys() method, does:     for k in E: D[k] = E[k]",
         "            If E present and lacks .keys() method, does:     for (k, v) in E: D[k] = v",
         "            In either case, this is followed by: for k, v in F.items(): D[k] = v",
         "        "],
      function "setdefault" "self key default="
        ["D.setdefault(k[,d]) -> D.get(k,d), also set D[k]=d if k not in D"]],
   abstract "MappingView" ["Sized"] [],
   abstract "KeysView" ["MappingView", "Set", "Collection", "Sized", "Iterable", "Container"] [],
   abstract "ItemsView" ["MappingView", "Set", "Collection", "Sized", "Iterable", "Container"] [],
   abstract "ValuesView" ["MappingView", "Collection", "Sized", "Iterable", "Container"] [],
   abstract "Sequence" ["Reversible", "Collection", "Sized", "Iterable", "Container"]
     ["All the operations on a read-only sequence.",
      "",
      "    Concrete subclasses must override __new__ or __init__,",
      "    __getitem__, and __len__.",
      "    "]
     [function "index" "self value start= stop="
        ["S.index(value, [start, [stop]]) -> integer -- return first index of value.",
         "           Raises ValueError if the value is not present.",
         "",
         "           Supporting start and stop arguments is optional, but",
         "           recommended.",
         "        "],
      function "count" "self value"
        ["S.count(value) -> integer -- return number of occurrences of value"]],
   abstract "MutableSequence" ["Sequence", "Reversible", "Collection", "Sized", "Iterable",
      "Container"]
     ["All the operations on a read-write sequence.",
      "",
      "    Concrete subclasses must provide __new__ or __init__,",
      "    __getitem__, __setitem__, __delitem__, __len__, and insert().",
      "    "]
     [function "insert" "self index value"
        ["S.insert(index, value) -- insert value before index"],
      function "append" "self value"
        ["S.append(value) -- append value to the end of the sequence"],
      function "clear" "self" ["S.clear() -> None -- remove all items from S"],
      function "reverse" "self" ["S.reverse() -- reverse *IN PLACE*"],
      function "extend" "self values"
        ["S.extend(iterable) -- extend sequence by appending elements from the iterable"],
      function "pop" "self index="
        ["S.pop([index]) -> item -- remove and return item at index (default last).",
         "           Raise IndexError if list is empty or index is out of range.",
         "        "],
      function "remove" "self value"
        ["S.remove(value) -- remove first occurrence of value.",
         "           Raise ValueError if the value is not present.",
         "        "]],
   abstract "ByteString" ["Sequence", "Reversible", "Collection", "Sized", "Iterable",
      "Container"]
     ["This unifies bytes and bytearray.",
      "",
      "    XXX Should add all their methods.",
      "    "]]

/-! ## The library -/

/-- The classes outside of these that a program can mention or descend from. What a model offers to
its callers belongs to another library, and is left out. -/
def otherClasses : List (StandardClass × LibraryClass) :=
  [(.any, {
      lineage := [.any, .object]
      documentation := documentation?
        ["Special type indicating an unconstrained type.",
         "",
         "    - Any is compatible with every type.",
         "    - Any assumed to have all methods.",
         "    - All values assumed to be instances of Any.",
         "",
         "    Note that all the above statements are true from the point of view of",
         "    static type checkers. At runtime, Any should not be used with instance",
         "    checks.",
         "    "] }),
   (.generic, {
      lineage := [.generic, .object] }),
   (.enumeration, {
      lineage := [.enumeration, .object] }),
   (⟨"datetime", "date"⟩, {
      lineage := [⟨"datetime", "date"⟩, .object]
      members := dateAttributes }),
   (⟨"datetime", "datetime"⟩, {
      lineage := [⟨"datetime", "datetime"⟩, ⟨"datetime", "date"⟩, .object]
      members := dateTimeAttributes }),
   (.collection "deque", {
      lineage := [.collection "deque", .object]
      members := dequeAttributes }),
   (.collection "OrderedDict", {
      lineage := [.collection "OrderedDict", .builtin "dict", .object]
      documentation := documentation? ["Dictionary that remembers insertion order"]
      members := orderedDictAttributes }),
   (.collection "defaultdict", {
      lineage := [.collection "defaultdict", .builtin "dict", .object]
      members := defaultDictAttributes }),
   (.model, {
      lineage := [.model, .object]
      metaNames := ["register"] })]

end Library

/-- What is known of a class of the library; of any other one, that it is a class. -/
def standardLibrary (cls : StandardClass) : LibraryClass :=
  let known? :=
    if cls = .object then some Library.root
    else if cls.module = "builtins" then
      Library.builtinClasses.lookup cls.name <|> Library.exceptions.lookup cls.name
    else if cls.module = "collections.abc" then Library.abstractClasses.lookup cls.name
    else Library.otherClasses.lookup cls
  known?.getD { lineage := [cls, .object] }

end ServiceSchema
