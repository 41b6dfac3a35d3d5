/-
Attributes of the classes that the language itself provides.

The functions of these classes are not written in the language. Some tell their
parameters, and can be described like any other function; others do not. The tables
list the public attributes of each class: its functions with their parameters and
the lines of their documentation, the names of the functions without parameters, and
the places for values.
-/
import ServiceSchema.Class.Declaration

set_option autoImplicit false

namespace ServiceSchema.Library

/-! ## Functions -/

/-- The parameter that a word tells: stars stand before what takes all further arguments, and an
equals sign after what has a default. -/
def parameter (kind : ParameterKind) (word : String) : Parameter :=
  let letters := word.toList.filter fun c => c != '*' && c != '='
  { name := String.ofList letters
    hasDefault := word.toList.contains '='
    kind := match word.toList with
      | '*' :: '*' :: _ => .restKeyword
      | '*' :: _ => .restPositional
      | _ => kind }

/-- The parameters that a line of words tells. Those after a lone star are given by name only. -/
def parameters (line : String) : List Parameter :=
  let words := ((line.toList.splitOn ' ').filter (!·.isEmpty)).map String.ofList
  (words.takeWhile (· != "*")).map (parameter .positional)
    ++ ((words.dropWhile (· != "*")).drop 1).map (parameter .keyword)

/-- Documentation with the given lines, if there are any. -/
def documentation? (lines : List String) : Option String :=
  if lines.isEmpty then none else some (String.intercalate "\n" lines)

/-- A function of the language that tells its parameters. -/
def native (name line : String) (documentation : List String) : String × Member :=
  (name, .static
    { name, parameters := parameters line, documentation := documentation? documentation })

/-- Functions of a class that do not tell their parameters. -/
def unsigned (owner : String) (names : List String) : List (String × Member) :=
  names.map fun name => (name, .unsigned name
    ("no signature found for builtin <method " ++ Text.quoted name ++ " of " ++ Text.quoted owner
      ++ " objects>"))

/-- Functions of a class whose parameters cannot be told. -/
def unreadable (owner : String) (names : List String) : List (String × Member) :=
  names.map fun name => (name, .unsigned name
    ("<method " ++ Text.quoted name ++ " of " ++ Text.quoted owner
      ++ " objects> builtin has invalid signature"))

/-- Functions that are bound to a class and do not tell their parameters. -/
def unsignedBound (names : List String) : List (String × Member) :=
  names.map fun name => (name, .unsigned name
    ("no signature found for builtin <built-in method " ++ name ++ " of type object>"))

/-! ## Values -/

/-- Places for the values of a class, which are shown as being of a kind. -/
def slots (kind owner : String) (names : List String) : List (String × Member) :=
  names.map fun name => (name, .slot ((owner.splitOn ".").getLastD "") name
    ("<" ++ kind ++ " " ++ Text.quoted name ++ " of " ++ Text.quoted owner ++ " objects>"))

/-- Values of a class that cannot be called. -/
def values (names : List String) : List (String × Member) :=
  names.map fun name => (name, .constant (.function name))

/-! ## Classes -/

/-- The attributes of `bytearray`. -/
def byteArrayAttributes : List (String × Member) :=
  [native "append" "self item"
     ["Append a single item to the end of the bytearray.",
      "",
      "  item",
      "    The item to be appended."],
   native "center" "self width fillchar="
     ["Return a centered string of length width.",
      "",
      "Padding is done using the specified fill character."],
   native "clear" "self" ["Remove all items from the bytearray."],
   native "copy" "self" ["Return a copy of B."],
   native "decode" "self encoding= errors="
     ["Decode the bytearray using the codec registered for encoding.",
      "",
      "  encoding",
      "    The encoding with which to decode the bytearray.",
      "  errors",
      "    The error handling scheme to use for the handling of decoding errors.",
      "    The default is 'strict' meaning that decoding errors raise a",
      "    UnicodeDecodeError. Other possible values are 'ignore' and 'replace'",
      "    as well as any other name registered with codecs.register_error that",
      "    can handle UnicodeDecodeErrors."],
   native "expandtabs" "self tabsize="
     ["Return a copy where all tab characters are expanded using spaces.",
      "",
      "If tabsize is not given, a tab size of 8 characters is assumed."],
   native "extend" "self iterable_of_ints"
     ["Append all the items from the iterator or sequence to the end of the bytearray.",
      "",
      "  iterable_of_ints",
      "    The iterable of items to append."],
   native "fromhex" "string"
     ["Create a bytearray object from a string of hexadecimal numbers.",
      "",
      "Spaces between two numbers are accepted.",
      "Example: bytearray.fromhex('B9 01EF') -> bytearray(b'\\\\xb9\\\\x01\\\\xef')"],
   native "insert" "self index item"
     ["Insert a single item into the bytearray before the given index.",
      "",
      "  index",
      "    The index where the value is to be inserted.",
      "  item",
      "    The item to be inserted."],
   native "join" "self iterable_of_bytes"
     ["Concatenate any number of bytes/bytearray objects.",
      "",
      "The bytearray whose method is called is inserted in between each pair.",
      "",
      "The result is returned as a new bytearray object."],
   native "ljust" "self width fillchar="
     ["Return a left-justified string of length width.",
      "",
      "Padding is done using the specified fill character."],
   native "lstrip" "self bytes="
     ["Strip leading bytes contained in the argument.",
      "",
      "If the argument is omitted or None, strip leading ASCII whitespace."],
   native "maketrans" "frm to"
     ["Return a translation table useable for the bytes or bytearray translate method.",
      "",
      "The returned table will be one where each byte in frm is mapped to the byte at",
      "the same position in to.",
      "",
      "The bytes objects frm and to must be of the same length."],
   native "partition" "self sep"
     ["Partition the bytearray into three parts using the given separator.",
      "",
      "This will search for the separator sep in the bytearray. If the separator is",
      "found, returns a 3-tuple containing the part before the separator, the",
      "separator itself, and the part after it as new bytearray objects.",
      "",
      "If the separator is not found, returns a 3-tuple containing the copy of the",
      "original bytearray object and two empty bytearray objects."],
   native "pop" "self index="
     ["Remove and return a single item from B.",
      "",
      "  index",
      "    The index from where to remove the item.",
      "    -1 (the default value) means remove the last item.",
      "",
      "If no index argument is given, will pop the last item."],
   native "remove" "self value"
     ["Remove the first occurrence of a value in the bytearray.",
      "",
      "  value",
      "    The value to remove."],
   native "replace" "self old new count="
     ["Return a copy with all occurrences of substring old replaced by new.",
      "",
      "  count",
      "    Maximum number of occurrences to replace.",
      "    -1 (the default value) means replace all occurrences.",
      "",
      "If the optional argument count is given, only the first count occurrences are",
      "replaced."],
   native "removeprefix" "self prefix"
     ["Return a bytearray with the given prefix string removed if present.",
      "",
      "If the bytearray starts with the prefix string, return",
      "bytearray[len(prefix):].  Otherwise, return a copy of the original",
      "bytearray."],
   native "removesuffix" "self suffix"
     ["Return a bytearray with the given suffix string removed if present.",
      "",
      "If the bytearray ends with the suffix string and that suffix is not",
      "empty, return bytearray[:-len(suffix)].  Otherwise, return a copy of",
      "the original bytearray."],
   native "reverse" "self" ["Reverse the order of the values in B in place."],
   native "rjust" "self width fillchar="
     ["Return a right-justified string of length width.",
      "",
      "Padding is done using the specified fill character."],
   native "rpartition" "self sep"
     ["Partition the bytearray into three parts using the given separator.",
      "",
      "This will search for the separator sep in the bytearray, starting at the end.",
      "If the separator is found, returns a 3-tuple containing the part before the",
      "separator, the separator itself, and the part after it as new bytearray",
      "objects.",
      "",
      "If the separator is not found, returns a 3-tuple containing two empty bytearray",
      "objects and the copy of the original bytearray object."],
   native "rsplit" "self sep= maxsplit="
     ["Return a list of the sections in the bytearray, using sep as the delimiter.",
      "",
      "  sep",
      "    The delimiter according which to split the bytearray.",
      "    None (the default value) means split on ASCII whitespace characters",
      "    (space, tab, return, newline, formfeed, vertical tab).",
      "  maxsplit",
      "    Maximum number of splits to do.",
      "    -1 (the default value) means no limit.",
      "",
      "Splitting is done starting at the end of the bytearray and working to the front."],
   native "rstrip" "self bytes="
     ["Strip trailing bytes contained in the argument.",
      "",
      "If the argument is omitted or None, strip trailing ASCII whitespace."],
   native "split" "self sep= maxsplit="
     ["Return a list of the sections in the bytearray, using sep as the delimiter.",
      "",
      "  sep",
      "    The delimiter according which to split the bytearray.",
      "    None (the default value) means split on ASCII whitespace characters",
      "    (space, tab, return, newline, formfeed, vertical tab).",
      "  maxsplit",
      "    Maximum number of splits to do.",
      "    -1 (the default value) means no limit."],
   native "splitlines" "self keepends="
     ["Return a list of the lines in the bytearray, breaking at line boundaries.",
      "",
      "Line breaks are not included in the resulting list unless keepends is given and",
      "true."],
   native "strip" "self bytes="
     ["Strip leading and trailing bytes contained in the argument.",
      "",
      "If the argument is omitted or None, strip leading and trailing ASCII whitespace."],
   native "translate" "self table delete="
     ["Return a copy with each character mapped by the given translation table.",
      "",
      "  table",
      "    Translation table, which must be a bytes object of length 256.",
      "",
      "All characters occurring in the optional argument delete are removed.",
      "The remaining characters are mapped through the given translation table."],
   native "zfill" "self width"
     ["Pad a numeric string with zeros on the left, to fill a field of the given width.",
      "",
      "The original string is never truncated."]]
    ++ unsigned "bytearray" ["capitalize", "count", "endswith", "find", "index", "isalnum",
       "isalpha", "isascii", "isdigit", "islower", "isspace", "istitle", "isupper", "lower",
       "rfind", "rindex", "startswith", "swapcase", "title", "upper"]
    ++ unreadable "bytearray" ["hex"]

/-- The attributes of `bytes`. -/
def byteAttributes : List (String × Member) :=
  [native "center" "self width fillchar="
     ["Return a centered string of length width.",
      "",
      "Padding is done using the specified fill character."],
   native "decode" "self encoding= errors="
     ["Decode the bytes using the codec registered for encoding.",
      "",
      "  encoding",
      "    The encoding with which to decode the bytes.",
      "  errors",
      "    The error handling scheme to use for the handling of decoding errors.",
      "    The default is 'strict' meaning that decoding errors raise a",
      "    UnicodeDecodeError. Other possible values are 'ignore' and 'replace'",
      "    as well as any other name registered with codecs.register_error that",
      "    can handle UnicodeDecodeErrors."],
   native "expandtabs" "self tabsize="
     ["Return a copy where all tab characters are expanded using spaces.",
      "",
      "If tabsize is not given, a tab size of 8 characters is assumed."],
   native "fromhex" "string"
     ["Create a bytes object from a string of hexadecimal numbers.",
      "",
      "Spaces between two numbers are accepted.",
      "Example: bytes.fromhex('B9 01EF') -> b'\\\\xb9\\\\x01\\\\xef'."],
   native "join" "self iterable_of_bytes"
     ["Concatenate any number of bytes objects.",
      "",
      "The bytes whose method is called is inserted in between each pair.",
      "",
      "The result is returned as a new bytes object.",
      "",
      "Example: b'.'.join([b'ab', b'pq', b'rs']) -> b'ab.pq.rs'."],
   native "ljust" "self width fillchar="
     ["Return a left-justified string of length width.",
      "",
      "Padding is done using the specified fill character."],
   native "lstrip" "self bytes="
     ["Strip leading bytes contained in the argument.",
      "",
      "If the argument is omitted or None, strip leading  ASCII whitespace."],
   native "maketrans" "frm to"
     ["Return a translation table useable for the bytes or bytearray translate method.",
      "",
      "The returned table will be one where each byte in frm is mapped to the byte at",
      "the same position in to.",
      "",
      "The bytes objects frm and to must be of the same length."],
   native "partition" "self sep"
     ["Partition the bytes into three parts using the given separator.",
      "",
      "This will search for the separator sep in the bytes. If the separator is found,",
      "returns a 3-tuple containing the part before the separator, the separator",
      "itself, and the part after it.",
      "",
      "If the separator is not found, returns a 3-tuple containing the original bytes",
      "object and two empty bytes objects."],
   native "replace" "self old new count="
     ["Return a copy with all occurrences of substring old replaced by new.",
      "",
      "  count",
      "    Maximum number of occurrences to replace.",
      "    -1 (the default value) means replace all occurrences.",
      "",
      "If the optional argument count is given, only the first count occurrences are",
      "replaced."],
   native "removeprefix" "self prefix"
     ["Return a bytes object with the given prefix string removed if present.",
      "",
      "If the bytes starts with the prefix string, return bytes[len(prefix):].",
      "Otherwise, return a copy of the original bytes."],
   native "removesuffix" "self suffix"
     ["Return a bytes object with the given suffix string removed if present.",
      "",
      "If the bytes ends with the suffix string and that suffix is not empty,",
      "return bytes[:-len(prefix)].  Otherwise, return a copy of the original",
      "bytes."],
   native "rjust" "self width fillchar="
     ["Return a right-justified string of length width.",
      "",
      "Padding is done using the specified fill character."],
   native "rpartition" "self sep"
     ["Partition the bytes into three parts using the given separator.",
      "",
      "This will search for the separator sep in the bytes, starting at the end. If",
      "the separator is found, returns a 3-tuple containing the part before the",
      "separator, the separator itself, and the part after it.",
      "",
      "If the separator is not found, returns a 3-tuple containing two empty bytes",
      "objects and the original bytes object."],
   native "rsplit" "self sep= maxsplit="
     ["Return a list of the sections in the bytes, using sep as the delimiter.",
      "",
      "  sep",
      "    The delimiter according which to split the bytes.",
      "    None (the default value) means split on ASCII whitespace characters",
      "    (space, tab, return, newline, formfeed, vertical tab).",
      "  maxsplit",
      "    Maximum number of splits to do.",
      "    -1 (the default value) means no limit.",
      "",
      "Splitting is done starting at the end of the bytes and working to the front."],
   native "rstrip" "self bytes="
     ["Strip trailing bytes contained in the argument.",
      "",
      "If the argument is omitted or None, strip trailing ASCII whitespace."],
   native "split" "self sep= maxsplit="
     ["Return a list of the sections in the bytes, using sep as the delimiter.",
      "",
      "  sep",
      "    The delimiter according which to split the bytes.",
      "    None (the default value) means split on ASCII whitespace characters",
      "    (space, tab, return, newline, formfeed, vertical tab).",
      "  maxsplit",
      "    Maximum number of splits to do.",
      "    -1 (the default value) means no limit."],
   native "splitlines" "self keepends="
     ["Return a list of the lines in the bytes, breaking at line boundaries.",
      "",
      "Line breaks are not included in the resulting list unless keepends is given and",
      "true."],
   native "strip" "self bytes="
     ["Strip leading and trailing bytes contained in the argument.",
      "",
      "If the argument is omitted or None, strip leading and trailing ASCII whitespace."],
   native "translate" "self table delete="
     ["Return a copy with each character mapped by the given translation table.",
      "",
      "  table",
      "    Translation table, which must be a bytes object of length 256.",
      "",
      "All characters occurring in the optional argument delete are removed.",
      "The remaining characters are mapped through the given translation table."],
   native "zfill" "self width"
     ["Pad a numeric string with zeros on the left, to fill a field of the given width.",
      "",
      "The original string is never truncated."]]
    ++ unsigned "bytes" ["capitalize", "count", "endswith", "find", "index", "isalnum",
       "isalpha", "isascii", "isdigit", "islower", "isspace", "istitle", "isupper", "lower",
       "rfind", "rindex", "startswith", "swapcase", "title", "upper"]
    ++ unreadable "bytes" ["hex"]

/-- The attributes of `complex`. -/
def complexAttributes : List (String × Member) :=
  [native "conjugate" "self"
     ["Return the complex conjugate of its argument. (3-4j).conjugate() == 3+4j."]]
    ++ slots "member" "complex" ["real", "imag"]

/-- The attributes of `dict`. -/
def dictAttributes : List (String × Member) :=
  [native "get" "self key default="
     ["Return the value for key if key is in the dictionary, else default."],
   native "setdefault" "self key default="
     ["Insert key with a value of default if key is not in the dictionary.",
      "",
      "Return the value for key if key is in the dictionary, else default."],
   native "popitem" "self"
     ["Remove and return a (key, value) pair as a 2-tuple.",
      "",
      "Pairs are returned in LIFO (last-in, first-out) order.",
      "Raises KeyError if the dict is empty."],
   native "fromkeys" "iterable value="
     ["Create a new dictionary with keys from iterable and values set to value."]]
    ++ unsigned "dict" ["keys", "items", "values", "update", "clear", "copy"]
    ++ unreadable "dict" ["pop"]

/-- The attributes of `float`. -/
def floatAttributes : List (String × Member) :=
  [native "conjugate" "self" ["Return self, the complex conjugate of any float."],
   native "as_integer_ratio" "self"
     ["Return integer ratio.",
      "",
      "Return a pair of integers, whose ratio is exactly equal to the original float",
      "and with a positive denominator.",
      "",
      "Raise OverflowError on infinities and a ValueError on NaNs.",
      "",
      ">>> (10.0).as_integer_ratio()",
      "(10, 1)",
      ">>> (0.0).as_integer_ratio()",
      "(0, 1)",
      ">>> (-.25).as_integer_ratio()",
      "(-1, 4)"],
   native "fromhex" "string"
     ["Create a floating-point number from a hexadecimal string.",
      "",
      ">>> float.fromhex('0x1.ffffp10')",
      "2047.984375",
      ">>> float.fromhex('-0x1p-1074')",
      "-5e-324"],
   native "hex" "self"
     ["Return a hexadecimal representation of a floating-point number.",
      "",
      ">>> (-0.1).hex()",
      "'-0x1.999999999999ap-4'",
      ">>> 3.14159.hex()",
      "'0x1.921f9f01b866ep+1'"],
   native "is_integer" "self" ["Return True if the float is an integer."]]
    ++ slots "attribute" "float" ["real", "imag"]

/-- The attributes of `frozenset`. -/
def frozenSetAttributes : List (String × Member) :=
  [native "issubset" "self other" ["Test whether every element in the set is in other."],
   native "issuperset" "self other" ["Test whether every element in other is in the set."]]
    ++ unsigned "frozenset" ["copy", "difference", "intersection", "isdisjoint",
       "symmetric_difference", "union"]

/-- The attributes of `int`. -/
def intAttributes : List (String × Member) :=
  [native "bit_length" "self"
     ["Number of bits necessary to represent self in binary.",
      "",
      ">>> bin(37)",
      "'0b100101'",
      ">>> (37).bit_length()",
      "6"],
   native "bit_count" "self"
     ["Number of ones in the binary representation of the absolute value of self.",
      "",
      "Also known as the population count.",
      "",
      ">>> bin(13)",
      "'0b1101'",
      ">>> (13).bit_count()",
      "3"],
   native "to_bytes" "self length= byteorder= * signed="
     ["Return an array of bytes representing an integer.",
      "",
      "  length",
      "    Length of bytes object to use.  An OverflowError is raised if the",
      "    integer is not representable with the given number of bytes.  Default",
      "    is length 1.",
      "  byteorder",
      "    The byte order used to represent the integer.  If byteorder is 'big',",
      "    the most significant byte is at the beginning of the byte array.  If",
      "    byteorder is 'little', the most significant byte is at the end of the",
      "    byte array.  To request the native byte order of the host system, use",
      "    `sys.byteorder' as the byte order value.  Default is to use 'big'.",
      "  signed",
      "    Determines whether two's complement is used to represent the integer.",
      "    If signed is False and a negative integer is given, an OverflowError",
      "    is raised."],
   native "from_bytes" "bytes byteorder= * signed="
     ["Return the integer represented by the given array of bytes.",
      "",
      "  bytes",
      "    Holds the array of bytes to convert.  The argument must either",
      "    support the buffer protocol or be an iterable object producing bytes.",
      "    Bytes and bytearray are examples of built-in objects that support the",
      "    buffer protocol.",
      "  byteorder",
      "    The byte order used to represent the integer.  If byteorder is 'big',",
      "    the most significant byte is at the beginning of the byte array.  If",
      "    byteorder is 'little', the most significant byte is at the end of the",
      "    byte array.  To request the native byte order of the host system, use",
      "    `sys.byteorder' as the byte order value.  Default is to use 'big'.",
      "  signed",
      "    Indicates whether two's complement is used to represent the integer."],
   native "as_integer_ratio" "self"
     ["Return integer ratio.",
      "",
      "Return a pair of integers, whose ratio is exactly equal to the original int",
      "and with a positive denominator.",
      "",
      ">>> (10).as_integer_ratio()",
      "(10, 1)",
      ">>> (-10).as_integer_ratio()",
      "(-10, 1)",
      ">>> (0).as_integer_ratio()",
      "(0, 1)"]]
    ++ unsigned "int" ["conjugate"]
    ++ slots "attribute" "int" ["real", "imag", "numerator", "denominator"]

/-- The attributes of `list`. -/
def listAttributes : List (String × Member) :=
  [native "clear" "self" ["Remove all items from list."],
   native "copy" "self" ["Return a shallow copy of the list."],
   native "append" "self object" ["Append object to the end of the list."],
   native "insert" "self index object" ["Insert object before index."],
   native "extend" "self iterable" ["Extend list by appending elements from the iterable."],
   native "pop" "self index="
     ["Remove and return item at index (default last).",
      "",
      "Raises IndexError if list is empty or index is out of range."],
   native "remove" "self value"
     ["Remove first occurrence of value.",
      "",
      "Raises ValueError if the value is not present."],
   native "index" "self value start= stop="
     ["Return first index of value.",
      "",
      "Raises ValueError if the value is not present."],
   native "count" "self value" ["Return number of occurrences of value."],
   native "reverse" "self" ["Reverse *IN PLACE*."],
   native "sort" "self * key= reverse="
     ["Sort the list in ascending order and return None.",
      "",
      "The sort is in-place (i.e. the list itself is modified) and stable (i.e. the",
      "order of two equal elements is maintained).",
      "",
      "If a key function is given, apply it once to each list item and sort them,",
      "ascending or descending, according to their function values.",
      "",
      "The reverse flag can be set to sort in descending order."]]

/-- The attributes of `memoryview`. -/
def memoryViewAttributes : List (String × Member) :=
  [native "release" "self" ["Release the underlying buffer exposed by the memoryview object."],
   native "tobytes" "self order="
     ["Return the data in the buffer as a byte string.",
      "",
      "Order can be \x7b'C', 'F', 'A'\x7d. When order is 'C' or 'F', the data of the",
      "original array is converted to C or Fortran order. For contiguous views,",
      "'A' returns an exact copy of the physical memory. In particular, in-memory",
      "Fortran order is preserved. For non-contiguous views, the data is converted",
      "to C first. order=None is the same as order='C'."],
   native "tolist" "self" ["Return the data in the buffer as a list of elements."],
   native "toreadonly" "self" ["Return a readonly version of the memoryview."]]
    ++ unreadable "memoryview" ["hex", "cast"]
    ++ slots "attribute" "memoryview" ["obj", "nbytes", "readonly", "itemsize", "format",
       "ndim", "shape", "strides", "suboffsets", "c_contiguous", "f_contiguous", "contiguous"]

/-- The attributes of `property`. -/
def propertyAttributes : List (String × Member) :=
  unsigned "property" ["getter", "setter", "deleter"]
    ++ slots "member" "property" ["fget", "fset", "fdel"]

/-- The attributes of `range`. -/
def rangeAttributes : List (String × Member) :=
  unsigned "range" ["count", "index"]
    ++ slots "member" "range" ["start", "stop", "step"]

/-- The attributes of `set`. -/
def setAttributes : List (String × Member) :=
  [native "issubset" "self other" ["Test whether every element in the set is in other."],
   native "issuperset" "self other" ["Test whether every element in other is in the set."]]
    ++ unsigned "set" ["add", "clear", "copy", "discard", "difference", "difference_update",
       "intersection", "intersection_update", "isdisjoint", "pop", "remove",
       "symmetric_difference", "symmetric_difference_update", "union", "update"]

/-- The attributes of `slice`. -/
def sliceAttributes : List (String × Member) :=
  unsigned "slice" ["indices"]
    ++ slots "member" "slice" ["start", "stop", "step"]

/-- The attributes of `str`. -/
def textAttributes : List (String × Member) :=
  [native "encode" "self encoding= errors="
     ["Encode the string using the codec registered for encoding.",
      "",
      "  encoding",
      "    The encoding in which to encode the string.",
      "  errors",
      "    The error handling scheme to use for encoding errors.",
      "    The default is 'strict' meaning that encoding errors raise a",
      "    UnicodeEncodeError.  Other possible values are 'ignore', 'replace' and",
      "    'xmlcharrefreplace' as well as any other name registered with",
      "    codecs.register_error that can handle UnicodeEncodeErrors."],
   native "replace" "self old new count="
     ["Return a copy with all occurrences of substring old replaced by new.",
      "",
      "  count",
      "    Maximum number of occurrences to replace.",
      "    -1 (the default value) means replace all occurrences.",
      "",
      "If the optional argument count is given, only the first count occurrences are",
      "replaced."],
   native "split" "self sep= maxsplit="
     ["Return a list of the substrings in the string, using sep as the separator string.",
      "",
      "  sep",
      "    The separator used to split the string.",
      "",
      "    When set to None (the default value), will split on any whitespace",
      "    character (including \\n \\r \\t \\f and spaces) and will discard",
      "    empty strings from the result.",
      "  maxsplit",
      "    Maximum number of splits.",
      "    -1 (the default value) means no limit.",
      "",
      "Splitting starts at the front of the string and works to the end.",
      "",
      "Note, str.split() is mainly useful for data that has been intentionally",
      "delimited.  With natural text that includes punctuation, consider using",
      "the regular expression module."],
   native "rsplit" "self sep= maxsplit="
     ["Return a list of the substrings in the string, using sep as the separator string.",
      "",
      "  sep",
      "    The separator used to split the string.",
      "",
      "    When set to None (the default value), will split on any whitespace",
      "    character (including \\n \\r \\t \\f and spaces) and will discard",
      "    empty strings from the result.",
      "  maxsplit",
      "    Maximum number of splits.",
      "    -1 (the default value) means no limit.",
      "",
      "Splitting starts at the end of the string and works to the front."],
   native "join" "self iterable"
     ["Concatenate any number of strings.",
      "",
      "The string whose method is called is inserted in between each given string.",
      "The result is returned as a new string.",
      "",
      "Example: '.'.join(['ab', 'pq', 'rs']) -> 'ab.pq.rs'"],
   native "capitalize" "self"
     ["Return a capitalized version of the string.",
      "",
      "More specifically, make the first character have upper case and the rest lower",
      "case."],
   native "casefold" "self"
     ["Return a version of the string suitable for caseless comparisons."],
   native "title" "self"
     ["Return a version of the string where each word is titlecased.",
      "",
      "More specifically, words start with uppercased characters and all remaining",
      "cased characters have lower case."],
   native "center" "self width fillchar="
     ["Return a centered string of length width.",
      "",
      "Padding is done using the specified fill character (default is a space)."],
   native "expandtabs" "self tabsize="
     ["Return a copy where all tab characters are expanded using spaces.",
      "",
      "If tabsize is not given, a tab size of 8 characters is assumed."],
   native "partition" "self sep"
     ["Partition the string into three parts using the given separator.",
      "",
      "This will search for the separator in the string.  If the separator is found,",
      "returns a 3-tuple containing the part before the separator, the separator",
      "itself, and the part after it.",
      "",
      "If the separator is not found, returns a 3-tuple containing the original string",
      "and two empty strings."],
   native "ljust" "self width fillchar="
     ["Return a left-justified string of length width.",
      "",
      "Padding is done using the specified fill character (default is a space)."],
   native "lower" "self" ["Return a copy of the string converted to lowercase."],
   native "lstrip" "self chars="
     ["Return a copy of the string with leading whitespace removed.",
      "",
      "If chars is given and not None, remove characters in chars instead."],
   native "rjust" "self width fillchar="
     ["Return a right-justified string of length width.",
      "",
      "Padding is done using the specified fill character (default is a space)."],
   native "rstrip" "self chars="
     ["Return a copy of the string with trailing whitespace removed.",
      "",
      "If chars is given and not None, remove characters in chars instead."],
   native "rpartition" "self sep"
     ["Partition the string into three parts using the given separator.",
      "",
      "This will search for the separator in the string, starting at the end. If",
      "the separator is found, returns a 3-tuple containing the part before the",
      "separator, the separator itself, and the part after it.",
      "",
      "If the separator is not found, returns a 3-tuple containing two empty strings",
      "and the original string."],
   native "splitlines" "self keepends="
     ["Return a list of the lines in the string, breaking at line boundaries.",
      "",
      "Line breaks are not included in the resulting list unless keepends is given and",
      "true."],
   native "strip" "self chars="
     ["Return a copy of the string with leading and trailing whitespace removed.",
      "",
      "If chars is given and not None, remove characters in chars instead."],
   native "swapcase" "self"
     ["Convert uppercase characters to lowercase and lowercase characters to uppercase."],
   native "translate" "self table"
     ["Replace each character in the string using the given translation table.",
      "",
      "  table",
      "    Translation table, which must be a mapping of Unicode ordinals to",
      "    Unicode ordinals, strings, or None.",
      "",
      "The table must implement lookup/indexing via __getitem__, for instance a",
      "dictionary or list.  If this operation raises LookupError, the character is",
      "left untouched.  Characters mapped to None are deleted."],
   native "upper" "self" ["Return a copy of the string converted to uppercase."],
   native "removeprefix" "self prefix"
     ["Return a str with the given prefix string removed if present.",
      "",
      "If the string starts with the prefix string, return string[len(prefix):].",
      "Otherwise, return a copy of the original string."],
   native "removesuffix" "self suffix"
     ["Return a str with the given suffix string removed if present.",
      "",
      "If the string ends with the suffix string and that suffix is not empty,",
      "return string[:-len(suffix)]. Otherwise, return a copy of the original",
      "string."],
   native "isascii" "self"
     ["Return True if all characters in the string are ASCII, False otherwise.",
      "",
      "ASCII characters have code points in the range U+0000-U+007F.",
      "Empty string is ASCII too."],
   native "islower" "self"
     ["Return True if the string is a lowercase string, False otherwise.",
      "",
      "A string is lowercase if all cased characters in the string are lowercase and",
      "there is at least one cased character in the string."],
   native "isupper" "self"
     ["Return True if the string is an uppercase string, False otherwise.",
      "",
      "A string is uppercase if all cased characters in the string are uppercase and",
      "there is at least one cased character in the string."],
   native "istitle" "self"
     ["Return True if the string is a title-cased string, False otherwise.",
      "",
      "In a title-cased string, upper- and title-case characters may only",
      "follow uncased characters and lowercase characters only cased ones."],
   native "isspace" "self"
     ["Return True if the string is a whitespace string, False otherwise.",
      "",
      "A string is whitespace if all characters in the string are whitespace and there",
      "is at least one character in the string."],
   native "isdecimal" "self"
     ["Return True if the string is a decimal string, False otherwise.",
      "",
      "A string is a decimal string if all characters in the string are decimal and",
      "there is at least one character in the string."],
   native "isdigit" "self"
     ["Return True if the string is a digit string, False otherwise.",
      "",
      "A string is a digit string if all characters in the string are digits and there",
      "is at least one character in the string."],
   native "isnumeric" "self"
     ["Return True if the string is a numeric string, False otherwise.",
      "",
      "A string is numeric if all characters in the string are numeric and there is at",
      "least one character in the string."],
   native "isalpha" "self"
     ["Return True if the string is an alphabetic string, False otherwise.",
      "",
      "A string is alphabetic if all characters in the string are alphabetic and there",
      "is at least one character in the string."],
   native "isalnum" "self"
     ["Return True if the string is an alpha-numeric string, False otherwise.",
      "",
      "A string is alpha-numeric if all characters in the string are alpha-numeric and",
      "there is at least one character in the string."],
   native "isidentifier" "self"
     ["Return True if the string is a valid Python identifier, False otherwise.",
      "",
      "Call keyword.iskeyword(s) to test whether string s is a reserved identifier,",
      "such as \"def\" or \"class\"."],
   native "isprintable" "self"
     ["Return True if the string is printable, False otherwise.",
      "",
      "A string is printable if all of its characters are considered printable in",
      "repr() or if it is empty."],
   native "zfill" "self width"
     ["Pad a numeric string with zeros on the left, to fill a field of the given width.",
      "",
      "The string is never truncated."]]
    ++ unsigned "str" ["count", "find", "index", "rfind", "rindex", "startswith", "endswith",
       "format", "format_map"]
    ++ [("maketrans", .unsigned "maketrans"
      "<built-in method maketrans of type object> builtin has invalid signature")]

/-- The attributes of `tuple`. -/
def tupleAttributes : List (String × Member) :=
  [native "index" "self value start= stop="
     ["Return first index of value.",
      "",
      "Raises ValueError if the value is not present."],
   native "count" "self value" ["Return number of occurrences of value."]]

/-- The attributes of `type`. -/
def typeAttributes : List (String × Member) :=
  [native "mro" "self" ["Return a type's method resolution order."]]

/-- The attributes of `date`. -/
def dateAttributes : List (String × Member) :=
  [native "fromtimestamp" "timestamp"
     ["Create a date from a POSIX timestamp.",
      "",
      "The timestamp is a number, e.g. created via time.time(), that is interpreted",
      "as local time."]]
    ++ unsigned "datetime.date" ["ctime", "strftime", "timetuple", "isocalendar", "isoformat",
       "isoweekday", "toordinal", "weekday", "replace"]
    ++ unsignedBound ["fromordinal", "fromisoformat", "fromisocalendar", "today"]
    ++ slots "attribute" "datetime.date" ["year", "month", "day"]
    ++ values ["min", "max", "resolution"]

/-- The attributes of `datetime`. -/
def dateTimeAttributes : List (String × Member) :=
  [native "now" "tz="
     ["Returns new datetime object representing current time local to tz.",
      "",
      "  tz",
      "    Timezone object.",
      "",
      "If no tz is specified, uses local timezone."]]
    ++ unsigned "datetime.datetime" ["date", "time", "timetz", "ctime", "timetuple",
       "timestamp", "utctimetuple", "isoformat", "utcoffset", "tzname", "dst", "replace",
       "astimezone"]
    ++ unsignedBound ["utcnow", "fromtimestamp", "utcfromtimestamp", "strptime", "combine",
       "fromisoformat"]
    ++ slots "attribute" "datetime.datetime" ["hour", "minute", "second", "microsecond",
       "tzinfo", "fold"]
    ++ values ["min", "max", "resolution"]

/-- The attributes of `deque`. -/
def dequeAttributes : List (String × Member) :=
  unsigned "collections.deque" ["append", "appendleft", "clear", "copy", "count",
       "extend", "extendleft", "index", "insert", "pop", "popleft", "remove", "reverse",
       "rotate"]
    ++ slots "attribute" "collections.deque" ["maxlen"]

/-- The attributes of `OrderedDict`. -/
def orderedDictAttributes : List (String × Member) :=
  [native "fromkeys" "iterable value="
     ["Create a new ordered dictionary with keys from iterable and values set to value."],
   native "setdefault" "self key default="
     ["Insert key with a value of default if key is not in the dictionary.",
      "",
      "Return the value for key if key is in the dictionary, else default."],
   native "popitem" "self last="
     ["Remove and return a (key, value) pair from the dictionary.",
      "",
      "Pairs are returned in LIFO order if last is true or FIFO order if false."],
   native "move_to_end" "self key last="
     ["Move an existing element to the end (or beginning if last is false).",
      "",
      "Raise KeyError if the element does not exist."]]
    ++ unsigned "collections.OrderedDict" ["keys", "values", "items", "update", "clear",
       "copy"]
    ++ unreadable "collections.OrderedDict" ["pop"]

/-- The attributes of `defaultdict`. -/
def defaultDictAttributes : List (String × Member) :=
  unsigned "collections.defaultdict" ["copy"]
    ++ slots "member" "collections.defaultdict" ["default_factory"]

end ServiceSchema.Library
