/-
Events and computations that report them.

A traced computation lists the events that it reported, oldest first, beside its
outcome. Events that precede a failure are kept, so that a reader of the log sees
what led to it. One traced computation after another reports the events of the
first and then those of the second.
-/

set_option autoImplicit false

namespace ServiceSchema.Log

/-- How much an event matters: the larger the number, the more. -/
abbrev Severity := Nat

/-- Details for the search of a fault. -/
def debug : Severity := 10

/-- What a run did. -/
def info : Severity := 20

/-- Something that may be a mistake. -/
def warning : Severity := 30

/-- A failure. -/
def error : Severity := 40

/-- A failure that ends the run. -/
def critical : Severity := 50

/-- Something worth telling, and the part of the program that tells it. -/
structure Event where
  severity : Severity
  source : String
  message : String
deriving DecidableEq, Inhabited, Repr

/-- A computation that reports events and may fail. -/
structure Traced (ε α : Type) where
  /-- What the computation reported, oldest first. -/
  events : List Event := []
  /-- The value, or why there is none. -/
  outcome : Except ε α

namespace Traced

variable {ε α β : Type}

/-- Runs a computation and then, unless it failed, another one. -/
def andThen (x : Traced ε α) (f : α → Traced ε β) : Traced ε β :=
  match x.outcome with
  | .error e => ⟨x.events, .error e⟩
  | .ok a => ⟨x.events ++ (f a).events, (f a).outcome⟩

instance : Monad (Traced ε) where
  pure a := { outcome := .ok a }
  bind := andThen

/-- The failure of a computation. -/
def fail (e : ε) : Traced ε α := { outcome := .error e }

/-- A computation that reports nothing. -/
def ofExcept (x : Except ε α) : Traced ε α := { outcome := x }

/-- A computation with its failure put in other words. -/
def mapError {ε' : Type} (f : ε → ε') (x : Traced ε α) : Traced ε' α :=
  ⟨x.events, x.outcome.mapError f⟩

/-- Reports an event. -/
def report (severity : Severity) (source message : String) : Traced ε Unit :=
  { events := [⟨severity, source, message⟩], outcome := .ok () }

/-- Reports events, oldest first. -/
def reportAll (events : List Event) : Traced ε Unit := { events, outcome := .ok () }

/-- The messages of the warnings, oldest first. -/
def warnings (x : Traced ε α) : List String :=
  (x.events.filter (·.severity == warning)).map (·.message)

end Traced

end ServiceSchema.Log
