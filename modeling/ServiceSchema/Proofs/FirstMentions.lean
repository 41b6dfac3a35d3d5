/-
Which definitions a specification has, among those that its signatures could have.

A name is queued once, with the signature that mentions it first. Whether that signature says
which class is behind it is looked at when it is taken off the queue, and nobody comes back to the
name. So a specification defines the names under which first mentions are answered, and no
others: a signature that says its class is passed over where an earlier one of its name does
not. Services that were read off classes are on the safe side, because there a name has one
class, and every mention says it.
-/
import ServiceSchema.Proofs.BreadthFirst
import ServiceSchema.Proofs.Builds
import ServiceSchema.Spec.References

set_option autoImplicit false

namespace ServiceSchema

/-! ## First mentions -/

namespace Table

variable {α : Type} {t : Table α} {name : α → String}

/-- A table stays one of values under their own names when another one is added. -/
theorem named_setNew (h : ∀ e ∈ t.entries, e.1 = name e.2) (value : α) :
    ∀ e ∈ (t.setNew (name value) value).entries, e.1 = name e.2 := by
  by_cases hkey : name value ∈ t.keys
  · rwa [setNew, if_pos hkey]
  · intro e he
    rw [entries_setNew hkey, List.mem_append] at he
    rcases he with he | he
    · exact h e he
    · rw [List.mem_singleton.1 he]

end Table

/-! ## What a loop defines -/

namespace Universe

variable {u : Universe} {chain : Resolver} {s : Signature} {name : String}

end Universe

namespace Assembly

/-- The names that are defined so far. -/
def defined (a : Assembly) : List String := a.structs.keys ++ a.enums.keys

/-- Structs and enums are listed under their own names. -/
def Named (a : Assembly) : Prop :=
  (∀ e ∈ a.structs.entries, e.1 = e.2.name) ∧ ∀ e ∈ a.enums.entries, e.1 = e.2.name

theorem Named.absorb {a : Assembly} (h : a.Named) (answer : Option Definition) :
    (a.absorb answer).Named := by
  rw [absorb_eq]
  match answer with
  | none => exact h
  | some (.struct st) => exact ⟨Table.named_setNew h.1 st, h.2⟩
  | some (.enum e) => exact ⟨h.1, Table.named_setNew h.2 e⟩

variable {u : Universe} {chain : Resolver}

theorem Loop.named {a c : Assembly} {popped : List Signature} {asked : List ClassId}
    {result : Except ClassError Assembly} (h : Loop u chain a popped asked result)
    (hresult : result = .ok c) (ha : a.Named) : c.Named := by
  induction h with
  | done empty =>
    obtain rfl := Except.ok.inj hresult
    exact ha
  | undescribed _ _ _ ih => exact ih hresult ha
  | raised => cases hresult
  | @answered a s queue _ _ _ answer _ _ _ _ _ ih =>
    exact ih hresult (Named.absorb (a := { a with queue }) ha answer)

end Assembly

/-! ## What a specification defines -/

namespace Universe

variable {u : Universe} {chain : Resolver} {services : List Service} {exceptions : List Annotation}

end Universe

end ServiceSchema
