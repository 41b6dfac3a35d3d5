/-
The identity of a class.

A signature that was read off a class remembers which class it was; the walk over
a specification resolves that class later. A class is either one of the classes
every universe knows, identified by the module that defines it and its name, or
one that the universe declares, identified by its position among the declarations.
-/

set_option autoImplicit false

namespace ServiceSchema

/-- A class that every universe knows. -/
structure StandardClass where
  /-- The module that defines the class. -/
  module : String
  /-- The name of the class in its module. -/
  name : String
deriving DecidableEq, Inhabited, Repr

/-- The identity of a class. -/
inductive ClassId where
  | standard (cls : StandardClass)
  | declared (index : Nat)
deriving DecidableEq, Inhabited, Repr

/-- The full name of a class: qualified by its module, except for builtin classes. -/
def qualifiedName (module name : String) : String :=
  if module = "" ∨ module = "builtins" then name else module ++ "." ++ name

end ServiceSchema
