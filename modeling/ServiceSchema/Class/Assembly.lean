/-
Assembling a specification.

The walk starts from the types that services and exceptions mention and resolves one
class after another, in the order in which their names are first mentioned. What a
struct mentions is walked after everything that was mentioned before it. A name is
walked once, and so is a class: the walk ends because every class that it resolves
leaves the list of those that are still pending.
-/
import ServiceSchema.Class.Resolver
import ServiceSchema.Class.Service

set_option autoImplicit false

namespace ServiceSchema

/-- Every class that a signature can remember. -/
def Universe.allClasses (u : Universe) : List ClassId :=
  (List.range u.classes.length).map .declared ++ StandardClass.all.map .standard

/-- The signatures that a struct mentions. -/
def Struct.signatures (s : Struct) : List Signature := s.fields.map (·.type) ++ s.oneOf

/-- How far the walk over the types of a specification has come. -/
structure Assembly where
  structs : Table Struct := .empty
  enums : Table Enumeration := .empty
  exceptions : List Struct := []
  /-- The names that were mentioned. -/
  visited : List String := []
  /-- What was mentioned and is not walked yet. -/
  queue : List Signature := []
  /-- The classes that are not resolved yet. -/
  pending : List ClassId := []

namespace Assembly

/-! ## Mentions -/

/-- Takes in a signature that points at a definition, unless its name was mentioned before. -/
def mention (a : Assembly) (s : Signature) : Assembly :=
  if a.visited.contains s.name then a
  else { a with visited := a.visited ++ [s.name], queue := a.queue ++ [s] }

/-- Takes in everything that a signature points at. -/
def enqueue (a : Assembly) (s : Signature) : Assembly := s.references.foldl mention a

/-- Takes in everything that signatures point at. -/
def enqueueAll (a : Assembly) (signatures : List Signature) : Assembly :=
  signatures.foldl enqueue a

/-- Taking in a signature resolves no class. -/
theorem pending_mention (a : Assembly) (s : Signature) : (a.mention s).pending = a.pending := by
  unfold mention; split <;> rfl

/-- Taking in what a signature points at resolves no class. -/
theorem pending_enqueue (a : Assembly) (s : Signature) : (a.enqueue s).pending = a.pending := by
  unfold enqueue
  induction s.references generalizing a with
  | nil => rfl
  | cons r rest ih => rw [List.foldl_cons, ih, pending_mention]

/-- Taking in what signatures point at resolves no class. -/
theorem pending_enqueueAll (a : Assembly) (signatures : List Signature) :
    (a.enqueueAll signatures).pending = a.pending := by
  unfold enqueueAll
  induction signatures generalizing a with
  | nil => rfl
  | cons s rest ih => rw [List.foldl_cons, ih, pending_enqueue]

/-- Takes in the types of a method. Every method has to have a result type. -/
def enqueueMethod (a : Assembly) (m : Method) : Reading Assembly :=
  let a := a.enqueueAll (m.parameters.map (·.type))
  match m.returnType with
  | some result => return a.enqueue result
  | none => .fail .noResult

/-! ## The walk -/

/-- Takes in the answer for a class. -/
def absorb (a : Assembly) (answer : Option Definition) : Assembly :=
  match answer with
  | none => a
  | some (.enum e) => { a with enums := a.enums.setNew e.name e }
  | some (.struct s) =>
    { a with structs := a.structs.setNew s.name s }.enqueueAll s.signatures

/-- Taking in an answer resolves no further class. -/
theorem pending_absorb (a : Assembly) (answer : Option Definition) :
    (a.absorb answer).pending = a.pending := by
  unfold absorb
  match answer with
  | none => rfl
  | some (.enum _) => rfl
  | some (.struct _) => exact pending_enqueueAll _ _

/-- What is left of the queue is shorter. -/
theorem length_queue_lt {a : Assembly} {s : Signature} {queue : List Signature}
    (h : a.queue = s :: queue) : queue.length < a.queue.length := by
  simp [h]

/-- Fewer classes are pending once one of them is resolved. -/
theorem length_erase_pending_lt {pending : List ClassId} {id : ClassId} (h : id ∈ pending) :
    (pending.erase id).length < pending.length := by
  have := List.length_pos_of_mem h
  rw [List.length_erase_of_mem h]
  omega

/-- Reports a warning. -/
def warn (message : String) : Reading Unit := .report Log.warning builderSource message

/-- Reports an answer that leaves a reference dangling or contradicts its kind. -/
def remark (u : Universe) (s : Signature) (id : ClassId) : Option Definition → Reading Unit
  | none => warn ("Resolver chain declined " ++ Annotation.source u (.cls id))
  | some (.enum _) => return ()
  | some (.struct _) =>
    if s.kind = .enum then
      warn (Text.quoted s.name ++ " resolved to a struct but is referenced as an enum")
    else return ()

/-- Walks everything that is mentioned. A class that is not pending was resolved before. -/
def walk (u : Universe) (resolver : Resolver) (a : Assembly) : Reading Assembly :=
  match hq : a.queue with
  | [] => return a
  | s :: queue =>
    have : queue.length < a.queue.length := length_queue_lt hq
    match s.descriptor with
    | none => do
      warn ("No descriptor for " ++ s.kind.word ++ " " ++ Text.quoted s.name
        ++ "; leaving it unresolved")
      walk u resolver { a with queue }
    | some id =>
      if hp : id ∈ a.pending then do
        have : (a.pending.erase id).length < a.pending.length := length_erase_pending_lt hp
        let answer ← resolver.resolve u (.cls id)
        -- the kind of the reference is compared with the answer only for a warning
        remark u s id answer
        walk u resolver ({ a with queue, pending := a.pending.erase id }.absorb answer)
      else walk u resolver { a with queue }
termination_by (a.pending.length, a.queue.length)
decreasing_by
  · exact Prod.Lex.right _ this
  · exact Prod.Lex.left _ _ (by rw [pending_absorb]; exact this)
  · exact Prod.Lex.right _ this

/-- Resolves an exception; only those that are structs count. -/
def addException (u : Universe) (resolver : Resolver) (a : Assembly) (target : Annotation) :
    Reading Assembly := do
  match ← resolver.resolve u target with
  | some (.struct s) =>
    return { a with exceptions := a.exceptions ++ [s] }.enqueueAll s.signatures
  | _ => return a

end Assembly

namespace Universe

/-- The resolver that counts: the given one, unless there is none or it is an empty chain. -/
def effectiveResolver (resolver : Option Resolver) : Resolver :=
  match resolver with
  | some resolver => if resolver.members.isEmpty then .default else resolver
  | none => .default

/-- The specification of services and exceptions, with every struct and enum that can be reached
from them. -/
def specification (u : Universe) (services : List Service) (resolver : Option Resolver)
    (exceptions : List Annotation) : Reading Specification := do
  let resolver := effectiveResolver resolver
  let start : Assembly := { pending := u.allClasses }
  let a ← (services.flatMap (·.methods)).foldlM Assembly.enqueueMethod start
  -- exceptions are mentioned after all methods, so their types come last
  let a ← exceptions.foldlM (Assembly.addException u resolver) a
  let a ← a.walk u resolver
  .report Log.info builderSource
    ("Built specification: " ++ Nat.repr services.length ++ " service(s), "
      ++ Nat.repr a.structs.size ++ " struct(s), " ++ Nat.repr a.enums.size ++ " enum(s)")
  return { services, enums := a.enums.values, structs := a.structs.values
           exceptions := a.exceptions }

end Universe

end ServiceSchema
