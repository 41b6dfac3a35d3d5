/-
The types that the annotations of a class or function mean.

The annotations along the lineage of a class are evaluated from the farthest
ancestor on, each in the body of the class that makes it; a later annotation of a
name replaces an earlier one in place. If one of them mentions a name that means
nothing, or something that is no type, none of them is evaluated and a warning is
reported. A text that is no expression is a failure.
-/
import ServiceSchema.Annotation.Evaluation
import ServiceSchema.Class.Description
import ServiceSchema.Log.Event
import ServiceSchema.Annotation.Signature

set_option autoImplicit false

namespace ServiceSchema

/-- Why something cannot be read off a class. -/
inductive ClassError where
  /-- A part of the result cannot be built. -/
  | model (error : ModelError)
  /-- An annotation cannot be evaluated. -/
  | unevaluated (fault : AnnotationFault)
  /-- There is nothing to resolve. -/
  | noDescriptor
  /-- Something else stands where a class belongs. -/
  | notClass (source : String)
  /-- An attribute hides a method and cannot be called. -/
  | notCallable
  /-- The same, and the attribute is shown as a text. -/
  | notCallableText (text : String)
  /-- An attribute hides a method and does not tell its parameters. -/
  | unsigned (message : String)
  /-- An attribute hides a method that is listed under another name. -/
  | unlistedMethod
  /-- A function that is bound to its class has no parameter that takes it. -/
  | noReceiver
  /-- A method has no result type. -/
  | noResult
deriving DecidableEq, Inhabited, Repr

/-- The wording of a class error, empty where reports show no wording. -/
def ClassError.message : ClassError → String
  | model error => error.message
  | noDescriptor => "type descriptor must not be None"
  | notClass source => "service_from_class() expects a class, got " ++ source
  | noReceiver => "invalid method signature"
  | notCallableText text => text ++ " is not a callable object"
  | unsigned message => message
  | _ => ""

/-- The wording of a fault that leaves annotations unevaluated, and nothing for a failure. -/
def AnnotationFault.warning? : AnnotationFault → Option String
  | undefinedName name => some ("name " ++ Text.quoted name ++ " is not defined")
  | notType reason => some reason
  | _ => none

/-- A computation that reads classes. -/
abbrev Reading := Log.Traced ClassError

/-- The part of the program that resolves classes. -/
def resolverSource : String := "schemadoc.spec.resolvers"

/-- The part of the program that assembles specifications. -/
def builderSource : String := "schemadoc.spec.builder"

/-- The evaluated annotations, or the raw ones with a warning if they cannot be evaluated. -/
def evaluatedOr (source owner : String) (raw : Table Annotation)
    (evaluated : Except AnnotationFault (Table Annotation)) : Reading (Table Annotation) :=
  match evaluated with
  | .ok hints => return hints
  | .error fault =>
    match fault.warning? with
    | some reason => do
      .report Log.warning source ("Could not evaluate annotations of " ++ owner ++ ": " ++ reason)
      return raw
    -- all other faults end the reading
    | none => .fail (.unevaluated fault)

/-- The annotations with each one evaluated, added to a table. -/
def addEvaluated (evaluate : Annotation → Except AnnotationFault Annotation)
    (hints : Table Annotation) (annotations : List (String × Annotation)) :
    Except AnnotationFault (Table Annotation) :=
  annotations.foldlM (fun t (name, a) => do return t.set name (← evaluate a)) hints

/-- The annotations added to a table as they are. -/
def addRaw (hints : Table Annotation) (annotations : List (String × Annotation)) :
    Table Annotation :=
  annotations.foldl (fun t (name, a) => t.set name a) hints

/-! ## Classes -/

/-- The annotation as a typed mapping of a module keeps it. -/
def Annotation.tiedTo (module : String) : Annotation → Annotation
  | .text s => .forward s (some module)
  | a => a.asType

/-- The annotations that a class keeps. A typed mapping takes in those of its bases; the number
bounds the length of a chain of them. -/
def Universe.keptAnnotations (u : Universe) :
    Nat → ClassDeclaration → List (String × Annotation)
  | fuel, c =>
    match c.kind with
    | .typedDict _ =>
      let inherited := match fuel with
        | 0 => []
        | fuel + 1 => (c.bases.filterMap u.declaration?).flatMap (u.keptAnnotations fuel)
      (addRaw (addRaw .empty inherited)
        (c.fields.map fun f => (f.name, f.type.tiedTo c.module))).entries
    | .namedTuple => c.fields.map fun f => (f.name, f.type.asType)
    | _ => c.fields.map fun f => (f.name, f.type)

/-- The annotations that a class keeps, by name. -/
def Universe.annotations (u : Universe) (c : ClassDeclaration) : List (String × Annotation) :=
  u.keptAnnotations u.classes.length c

/-- The types that the annotations along the lineage of a class mean, by name. -/
def Universe.hints (u : Universe) (id : ClassId) : Reading (Table Annotation) :=
  let ancestors := (u.ancestors id).reverse
  evaluatedOr resolverSource (u.fullName id)
    (ancestors.foldl (fun t c => addRaw t (u.annotations c)) .empty)
    (ancestors.foldlM (fun t c => addEvaluated (·.evaluateHint u c.place) t (u.annotations c))
      .empty)

/-! ## Functions -/

/-- The name under which the result type of a function is kept. -/
def resultKey : String := "return"

/-- The annotations of a function: those of its parameters, then that of its result. -/
def Function.annotations (f : Function) : List (String × Annotation) :=
  f.signature.filterMap (fun p => p.type.map (p.name, ·))
    ++ f.result.toList.map (resultKey, ·)

/-- The types that the annotations of a function mean, by name. -/
def Universe.functionHints (u : Universe) (f : Function) : Reading (Table Annotation) :=
  evaluatedOr builderSource f.name (addRaw .empty f.annotations)
    (addEvaluated (·.evaluate u { module := u.module }) .empty f.annotations)

end ServiceSchema
