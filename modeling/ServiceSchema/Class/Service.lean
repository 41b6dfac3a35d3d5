/-
Services.

A service class is described by its public functions, one method for each. The
functions of an ancestor come before those of its descendants. A function that is
declared again keeps the place of the first declaration and is described as the
class itself sees it; the place is that of the method which is listed under the same
name.
-/
import ServiceSchema.Class.Fields

set_option autoImplicit false

namespace ServiceSchema

/-! ## Parameters -/

/-- Where a parameter travels and what it means: what the first marker in its metadata says. -/
def Annotation.marker : Annotation → Location × String
  | annotated _ metadata =>
    (metadata.findSome? fun
      | .text _ => Option.none
      | .location l => some (l, "")
      | .param l description => some (l, description)).getD (.unspecified, "")
  | _ => (.unspecified, "")

/-- Whether a parameter is described. The receiver is not, nor is what takes all further
arguments. -/
def Parameter.isDescribed (p : Parameter) : Bool :=
  !(["self", "cls"].contains p.name) && (p.kind == .positional || p.kind == .keyword)

/-- The field that describes a parameter. -/
def Parameter.toField (u : Universe) (hints : Table Annotation) (p : Parameter) :
    Except ModelError Field :=
  let hint := (hints.get? p.name).getD .any
  let (location, description) := hint.marker
  match hint.toSignature u with
  | .error e => .error (.signature e)
  | .ok type =>
    Field.make? p.name (some type) (.ofBool (!p.hasDefault && !hint.strip.isOptional)) location
      description

/-- The parameters of a function that is bound to its class: the first one takes the class and is
left out, unless it takes all further arguments. A function that cannot take the class by position
has none. -/
def Function.boundSignature? (f : Function) : Option (List Parameter) :=
  match f.signature with
  | [] => none
  | p :: rest =>
    match p.kind with
    | .positional => some rest
    | .restPositional => some (p :: rest)
    | _ => none

namespace Universe

/-! ## Methods -/

/-- The path of a function: that of its route, else one made from the names of service and
function. -/
def endpointPath (service : String) (f : Function) : String :=
  match f.route with
  | some ⟨_, some path⟩ => if path = "" then "/" ++ service ++ "/" ++ f.name else path
  | _ => "/" ++ service ++ "/" ++ f.name

/-- The HTTP method of a function. -/
def httpMethod (f : Function) : String :=
  match f.route with
  | some route => route.httpMethod
  | none => "POST"

/-- The method that describes a function with the parameters that it is called with. All
annotations of the function are evaluated, also that of a parameter which is left out. -/
def functionMethod (u : Universe) (service : String) (f : Function)
    (signature? : Option (List Parameter)) : Reading Method := do
  let hints ← u.functionHints f
  match signature? with
  | none => .fail .noReceiver
  | some signature =>
    let built : Except ModelError Method := do
      let parameters ← (signature.filter (·.isDescribed)).mapM (Parameter.toField u hints)
      match ((hints.get? resultKey).getD .noneClass).toSignature u with
      | .error e => .error (.signature e)
      | .ok result =>
        Method.make? service f.name (some result) parameters 0 [{ path := endpointPath service f }]
          (httpMethod f) f.describe
    match built with
    | .ok method => return method
    | .error e => .fail (.model e)

/-- The method that describes the attribute of a class. -/
def attributeMethod (u : Universe) (id : ClassId) (service name : String) : Reading Method :=
  match u.attribute? id name with
  | some (.function f) | some (.static f) => u.functionMethod service f (some f.signature)
  | some (.bound f) => u.functionMethod service f f.boundSignature?
  | some (.unsigned _ message) => .fail (.unsigned message)
  | some (.slot owner slot text) => do
    .report Log.warning builderSource ("Could not evaluate annotations of " ++ owner ++ "." ++ slot
      ++ ": " ++ text ++ " is not a module, class, method, or function.")
    .fail (.notCallableText text)
  | some (.constant _) | none => .fail .notCallable

/-- The names of the public functions among the attributes of a class. -/
def publicFunctions (attributes : Table Member) : List String :=
  attributes.entries.filterMap fun
    | (name, .function _) => if isPrivate name then none else some name
    | _ => none

/-- The names of the public functions along the lineage of a class, from the farthest ancestor on;
a name occurs once for each class that defines it. What every class descends from does not count. -/
def declaredFunctions (u : Universe) (id : ClassId) : List String :=
  ((u.lineage id).reverse.filter (· != .standard .object)).flatMap fun c =>
    publicFunctions (u.ownAttributes c)

/-! ## Services -/

/-- The methods that are listed so far, and the names of the functions they were made for. -/
structure MethodList where
  seen : List String := []
  methods : List Method := []

/-- Lists the method of a function. A name that occurs again replaces the method of that name. -/
def addMethod (u : Universe) (id : ClassId) (service : String) (listed : MethodList)
    (name : String) : Reading MethodList :=
  if listed.seen.contains name then
    -- methods are found under the names of their functions, not of the attributes
    match listed.methods.findIdx? (·.name == name) with
    | none => .fail .unlistedMethod
    | some place => do
      let method ← u.attributeMethod id service name
      return { listed with methods := listed.methods.set place method }
  else do
    let method ← u.attributeMethod id service name
    return ⟨listed.seen ++ [name], listed.methods ++ [method]⟩

/-- The service that a class describes, under the given name or under that of the class. -/
def service (u : Universe) (target : Annotation) (name : Option String) : Reading Service :=
  match target with
  | .cls id => do
    let name := match name with
      | some name => if name = "" then u.shortName id else name
      | none => u.shortName id
    let listed ← (u.declaredFunctions id).foldlM (u.addMethod id name) {}
    .report Log.debug builderSource
      ("Service " ++ name ++ ": " ++ Nat.repr listed.methods.length ++ " method(s)")
    return { name, methods := listed.methods, description := u.describe id }
  | target => .fail (.notClass (target.source u))

end Universe

end ServiceSchema
