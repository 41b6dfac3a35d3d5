/-
Classes by name.

A class is named by the module that it is found in and a way of attributes, with a
colon between them. Modules can only be found in the universe and in the library
that every universe knows.
-/
import ServiceSchema.Class.Enumeration

set_option autoImplicit false

namespace ServiceSchema

/-- Why a text leads to no class. -/
inductive TargetError where
  /-- The text has no module or no attribute. -/
  | malformed (text : String)
  /-- The name of the module starts with a dot. -/
  | relative (module : String)
  /-- The module cannot be found, for this reason. -/
  | noModule (module reason : String)
  | noAttribute (module name : String)
  /-- The attribute is no class. -/
  | notClass (text : String)
deriving DecidableEq, Inhabited, Repr

/-- The wording of an error. -/
def TargetError.message : TargetError → String
  | malformed text => "expected 'module:ClassName', got " ++ Text.quoted text
  | relative module =>
    "the 'package' argument is required to perform a relative import for " ++ Text.quoted module
  | noModule module reason => "Cannot import " ++ Text.quoted module ++ ": " ++ reason
  | noAttribute module name => Text.quoted module ++ " has no attribute " ++ Text.quoted name
  | notClass text => Text.quoted text ++ " is not a class"

/-- The module and the way of attributes in a text: what stands before the first colon and what stands
after it. -/
def splitTarget (text : String) : Except TargetError (String × String) :=
  let module := text.toList.takeWhile (· ≠ ':')
  let way := (text.toList.dropWhile (· ≠ ':')).drop 1
  if module.isEmpty || way.isEmpty then .error (.malformed text)
  else .ok (String.ofList module, String.ofList way)

/-- The parts of a name between its dots. -/
def dottedParts (name : String) : List String := (name.toList.splitOn '.').map String.ofList

/-- The modules that every universe knows. -/
def libraryModules : List String :=
  ["builtins"] ++ (StandardClass.libraryClasses.map (·.module)).eraseDups

/-- Why a module cannot be found: the first of its parents is missing, or the last of those that are
there has no modules of its own. The parts of the name are in reverse. -/
def missingModule (known : List String) : List String → String
  | [] => ""
  | part :: parents =>
    let parent := String.intercalate "." parents.reverse
    let missing := "No module named "
      ++ Text.quoted (String.intercalate "." (part :: parents).reverse)
    if parents.isEmpty then missing
    else if known.contains parent then missing ++ "; " ++ Text.quoted parent ++ " is not a package"
    else missingModule known parents

/-- What a way of attributes leads to. -/
inductive Found where
  | module (name : String)
  | cls (id : ClassId)
  | value
deriving DecidableEq, Inhabited, Repr

/-- The attributes that every class has beside those that it declares. -/
def commonAttributes : List String :=
  ["__name__", "__qualname__", "__module__", "__dict__", "__init__", "__eq__", "__hash__",
   "__repr__", "__str__", "mro"]

namespace Universe

/-- Whether an attribute holds anything. -/
def isSomething : Member → Bool
  | .constant .none => false
  | _ => true

/-- The attribute of a class. -/
def classAttribute? (u : Universe) (id : ClassId) (name : String) : Option Found :=
  if (u.memberOf? id name).isSome then some .value
  else match u.attribute? id name with
    | some member => if isSomething member then some .value else none
    | none => if commonAttributes.contains name then some .value else none

/-- The attribute of a module. -/
def moduleAttribute? (u : Universe) (module name : String) : Option Found :=
  let library : List StandardClass :=
    StandardClass.libraryClasses ++ StandardClass.builtinNames.map StandardClass.builtin
  let declared := if module = u.module then u.find? name else none
  let standard := (library.find? fun c => c.module == module && c.name == name).map ClassId.standard
  match declared <|> standard with
  | some id => some (.cls id)
  | none =>
    if name = "__name__" || (module == "builtins" && StandardClass.builtinFunctions.contains name) then
      some .value
    else none

/-- The attribute of anything. -/
def foundAttribute? (u : Universe) (name : String) : Found → Option Found
  | .module module => u.moduleAttribute? module name
  | .cls id => u.classAttribute? id name
  | .value => none

/-- The class that a text leads to. -/
def target (u : Universe) (text : String) : Except TargetError ClassId := do
  let (module, way) ← splitTarget text
  let known := u.module :: libraryModules
  if module.toList.head? = some '.' then throw (.relative module)
  if !known.contains module then
    throw (.noModule module (missingModule known (dottedParts module).reverse))
  match (dottedParts way).foldlM (fun found name => u.foundAttribute? name found)
      (Found.module module) with
  | none => throw (.noAttribute module way)
  | some (.cls id) => return id
  | some _ => throw (.notClass text)

end Universe

end ServiceSchema
