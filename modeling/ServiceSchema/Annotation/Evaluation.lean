/-
Evaluation of references.

A reference by name is evaluated at a place: its names mean what they mean in the
module of the place, else what the class around it binds, else the builtin classes
and functions. Inside an annotation every reference is replaced by what it denotes,
and unions are formed anew. A reference that leads back to itself stays as it is.

Not everything that a name means is a type. Class variables and constants are none,
although the annotations of a class may be written so, and a form that lacks its
arguments is none either.
-/
import ServiceSchema.Annotation.Expression
import ServiceSchema.Annotation.Source

set_option autoImplicit false

namespace ServiceSchema

/-- What the names of an expression mean. -/
abbrev Scope := String → Option Annotation

/-- A place where an annotation is written: a module, and what the class around it binds. -/
structure Place where
  module : String
  bound : Table Member := .empty

/-- The body of a class. -/
def ClassDeclaration.place (c : ClassDeclaration) : Place := ⟨c.module, c.attributes⟩

/-- What a name means everywhere. -/
def builtinName? (name : String) : Option Annotation :=
  if StandardClass.builtinNames.contains name then some (.cls (.standard (.builtin name)))
  else if StandardClass.builtinFunctions.contains name then some (.function name)
  else none

namespace Universe

/-- What a name means in a module. -/
def moduleName? (u : Universe) (module name : String) : Option Annotation :=
  (if module = u.module then (u.find? name).map .cls else none) <|> u.names module name

/-- What names mean at a place. Where a reference is tied to a module, its names take the place of
those that the class binds. -/
def scope (u : Universe) (place : Place) (tied : Option String) : Scope := fun name =>
  let around := match tied with
    | some module => u.moduleName? module name
    | none => (place.bound.get? name).map (·.meaning)
  u.moduleName? place.module name <|> around <|> builtinName? name

end Universe

/-- The attribute of an annotation. -/
def Universe.attributeOf? (u : Universe) (a : Annotation) (name : String) :
    Except AnnotationFault Annotation :=
  match a with
  | .cls id =>
    match u.memberOf? id name <|> (u.attribute? id name).map (·.meaning) with
    | some a => .ok a
    | none => .error .noAttribute
  | _ => .error .noAttribute

/-- The refusal of a tuple, which shows its first hundred characters. -/
def Universe.tupleFault (u : Universe) (reason : String) (items : List Annotation) :
    AnnotationFault :=
  let shown := Annotation.tupleSource u items
  .notType (reason ++ " Got " ++ (shown.take 100).toString ++ ".")

/-! ## Types among annotations -/

namespace SpecialForm

/-- Whether a form says how a name may be used, beside its type. -/
def isQualifier : SpecialForm → Bool
  | classVar | final => true
  | _ => false

/-- Whether a form is a type without any arguments. -/
def isComplete : SpecialForm → Bool
  | self | never | literalText => true
  | _ => false

/-- What is said where a form is given more than one argument, if it takes a single one. -/
def singleReason? : SpecialForm → Option String
  | classVar => some "typing.ClassVar accepts only single type."
  | final => some "typing.Final accepts only single type."
  | required => some "Required accepts only a single type."
  | notRequired => some "NotRequired accepts only a single type."
  | optional => some "typing.Optional requires a single type."
  | _ => none

end SpecialForm

namespace Annotation

/-- Whether an annotation says how a name may be used. -/
def isQualifier : Annotation → Bool
  | form f | applied (.form f) _ => f.isQualifier
  | _ => false

/-- The annotation, if it can stand for a type; what says how a name may be used can only where that
is allowed. -/
def asOperand (u : Universe) (allowed : Bool) (a : Annotation) :
    Except AnnotationFault Annotation :=
  match a with
  | form f =>
    if f.isComplete || (f.isQualifier && allowed) then .ok a
    else .error (.notType ("Plain " ++ a.source u ++ " is not valid as type argument"))
  | applied (.form f) _ =>
    if f.isQualifier && !allowed then
      .error (.notType (a.source u ++ " is not valid as type argument"))
    else .ok a
  | a => .ok a

/-- The value that a literal type lists for an annotation, if it is a plain one. -/
def literalValue? : Annotation → Option LiteralValue
  | none => some (.plain .null)
  | text s => some (.plain (.text s))
  | value v => some (.plain v)
  | member enumeration name => some (.member enumeration name)
  | _ => Option.none

end Annotation

/-- An annotation with arguments between brackets. -/
def Universe.subscript (u : Universe) (head : Annotation) (arguments : List Annotation) :
    Except AnnotationFault Annotation :=
  match head with
  | .cls (.declared index) =>
    if (u.classes[index]?).any (·.isGeneric) then head.applyTo? arguments
    else .error (.notType
      ("type " ++ Text.quoted (u.shortName (.declared index)) ++ " is not subscriptable"))
  | .form .literal =>
    match arguments.mapM (·.literalValue?) with
    | some values => .ok (.literalOf values)
    | none => head.applyTo? arguments
  | .form f =>
    match f.singleReason?, arguments with
    | some reason, first :: second :: rest =>
      .error (u.tupleFault reason (first :: second :: rest))
    | _, arguments =>
      if f.isComplete then .error (.notType (head.source u ++ " is not subscriptable"))
      else do head.applyTo? (← arguments.mapM (·.asOperand u false))
  | .generic _ => do head.applyTo? (← arguments.mapM (·.asOperand u false))
  | head => head.applyTo? arguments

/-! ## Expressions -/

namespace Expression

mutual

/-- What an expression denotes. -/
def evaluate (u : Universe) (scope : Scope) : Expression → Except AnnotationFault Annotation
  | name s =>
    match scope s with
    | some a => .ok a
    | none => .error (.undefinedName s)
  | member e s => do u.attributeOf? (← evaluate u scope e) s
  | index e arguments => do
    let head ← evaluate u scope e
    u.subscript head (← evaluateAll u scope arguments)
  | either e e' => do
    let a ← evaluate u scope e
    a.join? (← evaluate u scope e')
  | negative e => do
    match ← evaluate u scope e with
    | .value (.int n) => return .value (.int (-n))
    | a => .error (.notType ("bad operand type for unary -: " ++ Text.quoted a.operandClass))
  | constant v => .ok (.ofValue v)
  | dots => .ok .ellipsis
  | tuple items => do
    throw (u.tupleFault "Forward references must evaluate to types." (← evaluateAll u scope items))

/-- What expressions denote. -/
def evaluateAll (u : Universe) (scope : Scope) :
    List Expression → Except AnnotationFault (List Annotation)
  | [] => .ok []
  | e :: rest => do
    let a ← evaluate u scope e
    return a :: (← evaluateAll u scope rest)

end

end Expression

namespace Annotation

/-- A type that gets its metadata back. Plain values and the three dots belong to no module and take
none. -/
def annotateAgain (type : Annotation) (metadata : List Marker) :
    Except AnnotationFault Annotation :=
  match type with
  | value _ | ellipsis => .error .noAttribute
  | type => .ok (annotate type metadata)

/-- A text among the arguments of a standard class as the reference that it is. -/
def readText : Annotation → Except AnnotationFault Annotation
  | text s => (Expression.ofText? s).map fun _ => forward s Option.none
  | a => .ok a

mutual

/-- The annotation with every reference replaced by what `read` makes of it. The truth value tells
where it may be said how a name is used: inside metadata it may, among arguments it may not. -/
def replaceWith (read : Bool → String → Option String → Except AnnotationFault Annotation) :
    Bool → Annotation → Except AnnotationFault Annotation
  | allowed, forward s module => read allowed s module
  | _, applied head arguments => do
    match head with
    | .cls (.standard _) => let _ ← arguments.mapM readText
    | _ => pure ()
    return applied head (← replaceAllWith read arguments)
  | _, union members => return unionOf (← replaceAllWith read members)
  | _, joined members => do joinAll? (← replaceAllWith read members)
  | _, annotated type metadata => do annotateAgain (← replaceWith read true type) metadata
  | allowed, text s => read allowed s Option.none
  | _, a => .ok a

/-- The annotations with every reference replaced. -/
def replaceAllWith (read : Bool → String → Option String → Except AnnotationFault Annotation) :
    List Annotation → Except AnnotationFault (List Annotation)
  | [] => .ok []
  | a :: rest => do
    let a ← replaceWith read false a
    return a :: (← replaceAllWith read rest)

end

/-- What a reference denotes at a place. The number bounds the references that lead from one to the
next, and `seen` lists them; `around` is the module that one of them is tied to. -/
def evaluateReference (u : Universe) (place : Place) :
    Nat → List String → Option String → Bool → String → Option String →
      Except AnnotationFault Annotation
  | 0, _, _, _, s, tied => .ok (forward s tied)
  | fuel + 1, seen, around, allowed, s, tied =>
    -- a reference that is being read already stays, else reading would not end
    if seen.contains s then .ok (forward s tied)
    else do
      let around := tied <|> around
      let a ← (← Expression.ofText? s).evaluate u (u.scope place around)
      let type ← a.asOperand u allowed
      replaceWith (evaluateReference u place fuel (s :: seen) around) allowed type.asType

/-- What a reference denotes that no other one leads to. -/
def readReference (u : Universe) (place : Place) (allowed : Bool) (s : String)
    (tied : Option String) : Except AnnotationFault Annotation :=
  evaluateReference u place (s.length + 1) [] Option.none allowed s tied

/-- The annotation with every reference evaluated at a place, where a type is expected. -/
def evaluate (u : Universe) (place : Place) (a : Annotation) :
    Except AnnotationFault Annotation :=
  replaceWith (readReference u place) false a.asType

/-- The same for an annotation of a class, which may also be a text that says how a name is used. -/
def evaluateHint (u : Universe) (place : Place) (a : Annotation) :
    Except AnnotationFault Annotation :=
  match a with
  | text s => readReference u place true s Option.none
  | a => a.evaluate u place

end Annotation

end ServiceSchema
