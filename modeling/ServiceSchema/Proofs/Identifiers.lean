/-
What the identifiers of methods identify.

An identifier is a service, a name with the number of its overload, and an HTTP method, with
slashes between them. All three are free texts, so identifiers can run into each other in two
ways: a slash inside a part reads like one between parts, and a name that ends in a dash and a
number reads like the name of an overload. There is no third way. Where one sort of parts at
most holds slashes and no name reads like that of an overload, an identifier leads to the
methods that agree in all parts, and to no others.
-/
import Mathlib.Data.List.Forall2
import ServiceSchema.Command.Generate
import ServiceSchema.Proofs.Outcomes
import ServiceSchema.Proofs.References

set_option autoImplicit false

namespace ServiceSchema

/-! ## Lists around a separator -/

section Separators

variable {α : Type} {separator : α} {a a' b b' : List α}

/-- The first separator tells what stands before it from what stands behind it. -/
theorem append_separator_inj (ha : separator ∉ a) (ha' : separator ∉ a')
    (h : a ++ separator :: b = a' ++ separator :: b') : a = a' ∧ b = b' := by
  induction a generalizing a' with
  | nil =>
    cases a' with
    | nil => exact ⟨rfl, (List.cons.inj h).2⟩
    | cons x xs => exact absurd ((List.cons.inj h).1 ▸ List.mem_cons_self) ha'
  | cons x xs ih =>
    cases a' with
    | nil => exact absurd ((List.cons.inj h).1 ▸ List.mem_cons_self) ha
    | cons y ys =>
      obtain ⟨rfl, hrest⟩ := List.cons.inj h
      obtain ⟨rfl, hb⟩ :=
        ih (mt (List.mem_cons_of_mem x) ha) (mt (List.mem_cons_of_mem x) ha') hrest
      exact ⟨rfl, hb⟩

/-- The last separator does so, too. -/
theorem append_separator_inj_last (hb : separator ∉ b) (hb' : separator ∉ b')
    (h : a ++ separator :: b = a' ++ separator :: b') : a = a' ∧ b = b' := by
  have hreverse : b.reverse ++ separator :: a.reverse = b'.reverse ++ separator :: a'.reverse := by
    simpa using congrArg List.reverse h
  obtain ⟨hb, ha⟩ := append_separator_inj (mt List.mem_reverse.1 hb) (mt List.mem_reverse.1 hb')
    hreverse
  exact ⟨List.reverse_injective ha, List.reverse_injective hb⟩

end Separators

/-- A text without the sign that separates the parts of an identifier. -/
def SlashFree (s : String) : Prop := '/' ∉ s.toList

instance (s : String) : Decidable (SlashFree s) := inferInstanceAs (Decidable (¬ _ ∈ _))

theorem not_mem_repr {c : Char} (hc : c.isDigit = false) (n : Nat) : c ∉ (Nat.repr n).toList := by
  intro hmem
  rw [Nat.toList_repr] at hmem
  rw [Nat.isDigit_of_mem_toDigits (by decide) (by decide) hmem] at hc
  cases hc

theorem repr_injective {n n' : Nat} (h : Nat.repr n = Nat.repr n') : n = n' := by
  have hdigits := congrArg String.toList h
  rw [Nat.toList_repr, Nat.toList_repr] at hdigits
  rw [← Nat.ofDigitChars_toDigits (b := 10) (n := n) (by decide) (by decide), hdigits,
    Nat.ofDigitChars_toDigits (by decide) (by decide)]

namespace Method

variable {m m' : Method}

/-! ## Names of overloads -/

/-- The name of a method that is no overload reads like the numbered name of another one. -/
def ReadsLike (m m' : Method) : Prop :=
  m.overload = 0 ∧ m'.overload ≠ 0 ∧ m.name = m'.name ++ "-" ++ Nat.repr m'.overload

instance (m m' : Method) : Decidable (m.ReadsLike m') := inferInstanceAs (Decidable (_ ∧ _))

theorem overloadName_zero (h : m.overload = 0) : m.overloadName = m.name := if_pos h

theorem overloadName_ne_zero (h : m.overload ≠ 0) :
    m.overloadName = m.name ++ "-" ++ Nat.repr m.overload := if_neg h

/-- Numbered names are equal only if name and number are: no number holds the dash before it. -/
theorem numbered_inj {name name' : String} {n n' : Nat} :
    name ++ "-" ++ Nat.repr n = name' ++ "-" ++ Nat.repr n' ↔ name = name' ∧ n = n' := by
  constructor
  · intro h
    have hlist : name.toList ++ '-' :: (Nat.repr n).toList =
        name'.toList ++ '-' :: (Nat.repr n').toList := by
      simpa [String.toList_append] using congrArg String.toList h
    obtain ⟨hname, hn⟩ := append_separator_inj_last (not_mem_repr (by decide) n)
      (not_mem_repr (by decide) n') hlist
    exact ⟨String.toList_inj.1 hname, repr_injective (String.toList_inj.1 hn)⟩
  · rintro ⟨rfl, rfl⟩
    rfl

theorem overloadName_eq_iff :
    m.overloadName = m'.overloadName ↔
      (m.name = m'.name ∧ m.overload = m'.overload) ∨ m.ReadsLike m' ∨ m'.ReadsLike m := by
  by_cases h : m.overload = 0 <;> by_cases h' : m'.overload = 0
  · simp [overloadName_zero h, overloadName_zero h', ReadsLike, h, h']
  · simp [overloadName_zero h, overloadName_ne_zero h', ReadsLike, h, h', Ne.symm h']
  · simp [overloadName_ne_zero h, overloadName_zero h', ReadsLike, h, h', eq_comm]
  · rw [overloadName_ne_zero h, overloadName_ne_zero h', numbered_inj]
    simp [ReadsLike, h, h']

theorem slashFree_overloadName (h : SlashFree m.name) : SlashFree m.overloadName := by
  by_cases hzero : m.overload = 0
  · rwa [overloadName_zero hzero]
  · have hdigits := not_mem_repr (c := '/') (by decide) m.overload
    rw [overloadName_ne_zero hzero]
    simp only [SlashFree, String.toList_append, List.mem_append, not_or]
    exact ⟨⟨h, by decide⟩, hdigits⟩

/-! ## Identifiers -/

/-- What makes up a method for those who refer to it. -/
def parts (m : Method) : String × String × Nat × String :=
  (m.service, m.name, m.overload, m.httpMethod)

/-- Of services, names and HTTP methods at most one sort holds slashes in one of two methods. -/
def Separable (m m' : Method) : Prop :=
  (SlashFree m.service ∧ SlashFree m'.service) ∧ (SlashFree m.name ∧ SlashFree m'.name) ∨
  (SlashFree m.service ∧ SlashFree m'.service) ∧
    (SlashFree m.httpMethod ∧ SlashFree m'.httpMethod) ∨
  (SlashFree m.name ∧ SlashFree m'.name) ∧ (SlashFree m.httpMethod ∧ SlashFree m'.httpMethod)

instance (m m' : Method) : Decidable (m.Separable m') := inferInstanceAs (Decidable (_ ∨ _))

theorem toList_id (m : Method) :
    m.id.toList =
      m.service.toList ++ '/' :: (m.overloadName.toList ++ '/' :: m.httpMethod.toList) := by
  simp [id, String.toList_append]

/-- Two sorts without slashes are enough to find the ends of all three parts. -/
theorem id_eq_iff_of_separable (h : m.Separable m') :
    m.id = m'.id ↔ m.service = m'.service ∧ m.overloadName = m'.overloadName ∧
      m.httpMethod = m'.httpMethod := by
  constructor
  · intro hid
    have hlist := congrArg String.toList hid
    rw [toList_id, toList_id] at hlist
    -- the same characters, with the last of the two slashes in the middle
    have hlist' : (m.service.toList ++ '/' :: m.overloadName.toList) ++ '/' :: m.httpMethod.toList =
        (m'.service.toList ++ '/' :: m'.overloadName.toList) ++ '/' :: m'.httpMethod.toList := by
      simpa using hlist
    simp only [← String.toList_inj]
    rcases h with ⟨⟨hs, hs'⟩, hn, hn'⟩ | ⟨⟨hs, hs'⟩, hv, hv'⟩ | ⟨⟨hn, hn'⟩, hv, hv'⟩
    · obtain ⟨hservice, hrest⟩ := append_separator_inj hs hs' hlist
      obtain ⟨hname, hverb⟩ := append_separator_inj (slashFree_overloadName hn)
        (slashFree_overloadName hn') hrest
      exact ⟨hservice, hname, hverb⟩
    · obtain ⟨hservice, hrest⟩ := append_separator_inj hs hs' hlist
      obtain ⟨hname, hverb⟩ := append_separator_inj_last hv hv' hrest
      exact ⟨hservice, hname, hverb⟩
    · obtain ⟨hrest, hverb⟩ := append_separator_inj_last hv hv' hlist'
      obtain ⟨hservice, hname⟩ := append_separator_inj_last (slashFree_overloadName hn)
        (slashFree_overloadName hn') hrest
      exact ⟨hservice, hname, hverb⟩
  · rintro ⟨hservice, hname, hverb⟩
    rw [id, id, hservice, hname, hverb]

/-- **Two methods share an identifier exactly if they agree in all parts, or a name reads like
that of an overload**, as long as their parts can be separated. -/
theorem id_eq_iff (h : m.Separable m') :
    m.id = m'.id ↔ m.parts = m'.parts ∨
      m.service = m'.service ∧ m.httpMethod = m'.httpMethod ∧
        (m.ReadsLike m' ∨ m'.ReadsLike m) := by
  rw [id_eq_iff_of_separable h, overloadName_eq_iff, parts, parts]
  simp only [Prod.mk.injEq]
  tauto

end Method

/-! ## Documents -/

namespace Schema

theorem get?_id {δ : Type} (document : MethodDocument δ) (definitionsJson : δ → Json) :
    (document.toJson definitionsJson).get? "$id" = some (.text document.id) := by
  rw [MethodDocument.toJson, Json.get?, Json.entries, requiredEntry]
  split <;> simp [List.lookup_cons]

end Schema

namespace Command

variable {u : Universe} {tree : File.Tree} {settings : Settings} {a : Arguments}

/-- Whether checks are made or not, the documents of a specification are the same. -/
theorem documents_of_documentsOf {spec : Specification} {source : String} {strict : Bool}
    {documents : List (Schema.MethodDocument Schema.Definitions)}
    (h : (documentsOf spec source strict).outcome = .ok documents) :
    documents = Schema.generate spec := by
  unfold documentsOf at h
  split at h
  · cases h
  · next generated hgenerated =>
    rw [Log.Traced.report_bind_outcome] at h
    obtain rfl := Except.ok.inj h
    split at hgenerated
    · exact (Schema.generateStrict_eq_ok.1 hgenerated).2
    · exact (Except.ok.inj hgenerated).symm

/-- What is prepared are the documents that are wanted of a specification that is asked for. -/
theorem documents_of_prepare {ready : Prepared}
    (h : (prepare u tree settings a).outcome = .ok ready) :
    ∃ spec source, (specificationOf u tree .generate a).outcome = .ok (spec, source) ∧
      ready.documents = wanted a.methods (Schema.generate spec) := by
  rw [prepare, Log.Traced.bind_eq_ok] at h
  obtain ⟨⟨spec, source⟩, hspec, h⟩ := h
  refine ⟨spec, source, hspec, ?_⟩
  simp only [Log.Traced.bind_eq_ok] at h
  obtain ⟨-, -, documents, hdocuments, h⟩ := h
  obtain rfl := documents_of_documentsOf hdocuments
  split at h
  -- nothing matches, so nothing is prepared
  · cases h
  · obtain ⟨-, -, h⟩ := Log.Traced.bind_eq_ok.1 h
    exact Except.ok.inj h ▸ rfl

/-- What is wanted under a text are the documents of the methods with that name or identifier. -/
theorem wanted_generate (spec : Specification) (text : String) :
    wanted [text] (Schema.generate spec) =
      (spec.methods.filter fun m => m.name = text ∨ m.id = text).map
        (Schema.methodDocument · (Schema.definitions spec)) := by
  rw [wanted, Schema.generate, List.isEmpty_cons, if_neg Bool.false_ne_true, List.filter_map]
  refine congrArg _ (List.filter_congr fun m _ => ?_)
  simp [Schema.methodDocument]

end Command

/-! ## Specifications with clear identifiers -/

/-- The parts of any two methods can be separated, and no name reads like that of an overload. -/
structure Specification.ClearlyNamed (spec : Specification) : Prop where
  separable : ∀ m ∈ spec.methods, ∀ m' ∈ spec.methods, m.Separable m'
  unlike : ∀ m ∈ spec.methods, ∀ m' ∈ spec.methods, ¬ m.ReadsLike m'

namespace Specification

variable {spec : Specification}

theorem ClearlyNamed.id_eq_iff (h : spec.ClearlyNamed) {m m' : Method} (hm : m ∈ spec.methods)
    (hm' : m' ∈ spec.methods) : m.id = m'.id ↔ m.parts = m'.parts := by
  rw [Method.id_eq_iff (h.separable m hm m' hm')]
  simp [h.unlike m hm m' hm', h.unlike m' hm' m hm]

end Specification

/-- **Identifiers tell methods apart where they can.** Methods with parts that can be separated
share an identifier exactly if they agree in all parts or a name reads like that of an overload.
So in a specification with clear names a document carries the identifier of a method exactly if it
describes one with the same parts, and asking for an identifier yields the documents of these
methods, next to those of methods that have the identifier for their name. -/
theorem identifiers_tell_methods_apart :
    (∀ m m' : Method, m.Separable m' →
      (m.id = m'.id ↔ m.parts = m'.parts ∨
        m.service = m'.service ∧ m.httpMethod = m'.httpMethod ∧
          (m.ReadsLike m' ∨ m'.ReadsLike m))) ∧
    ∀ spec : Specification, spec.ClearlyNamed →
      List.Forall₂ (fun m document => ∀ m' ∈ spec.methods,
          (document.get? "$id" = some (.text m'.id) ↔ m.parts = m'.parts))
        spec.methods
        ((Schema.generate spec).map (Schema.MethodDocument.toJson Schema.Definitions.toJson)) ∧
      ∀ m ∈ spec.methods, ∀ (u : Universe) (tree : File.Tree) (settings : Settings)
        (a : Command.Arguments) (source : String) (ready : Command.Prepared),
        a.methods = [m.id] →
        (Command.specificationOf u tree .generate a).outcome = .ok (spec, source) →
        (Command.prepare u tree settings a).outcome = .ok ready →
        ready.documents =
          (spec.methods.filter fun m' => m'.name = m.id ∨ m'.parts = m.parts).map
            (Schema.methodDocument · (Schema.definitions spec)) := by
  refine ⟨fun m m' => Method.id_eq_iff, fun spec hclear => ⟨?_, ?_⟩⟩
  · rw [Schema.generate, List.map_map, List.forall₂_map_right_iff, List.forall₂_same]
    intro m hm m' hm'
    rw [← hclear.id_eq_iff hm hm', Function.comp_apply, Schema.get?_id]
    simp [Schema.methodDocument]
  · intro m hm u tree settings a source ready hmethods hspec hready
    obtain ⟨spec', source', hspec', hdocuments⟩ := Command.documents_of_prepare hready
    obtain ⟨rfl, -⟩ := Prod.mk.inj (Except.ok.inj (hspec.symm.trans hspec'))
    rw [hdocuments, hmethods, Command.wanted_generate]
    refine congrArg _ (List.filter_congr fun m' hm' => ?_)
    simp only [hclear.id_eq_iff hm' hm]

/-! ## Two counters

At the first counter services hold slashes and a name ends in a dash and a number, but nothing is
mistaken for anything else. At the second one a name reads like that of an overload. -/

/-- A counter whose methods are told apart. -/
def counter : Specification where
  services := [
    { name := "zoo/tickets"
      methods := [
        { service := "zoo/tickets", name := "sell", returnType := some (.base "void") },
        { service := "zoo/tickets", name := "sell", returnType := none, overload := 1 },
        { service := "zoo/tickets", name := "print-2", returnType := some (.base "string")
          httpMethod := "GET" }] },
    { name := "zoo"
      methods := [
        { service := "zoo", name := "sell", returnType := some (.base "void")
          parameters := [{ name := "tickets", type := .base "int" }] }] }]

theorem counter_clearlyNamed : counter.ClearlyNamed where
  separable := by decide
  unlike := by decide

/-- A desk with an overloaded method. -/
def desk : Specification where
  services := [
    { name := "a/b"
      methods := [
        { service := "a/b", name := "c", returnType := some (.base "void") },
        { service := "a/b", name := "c", returnType := some (.base "void"), overload := 1 }] }]

theorem desk_clearlyNamed : desk.ClearlyNamed where
  separable := by decide
  unlike := by decide

/-- The desk as it is written down in a file. -/
def deskFile : File.Tree where
  files := .ofList [("desk.yaml",
    Text.encode "services: [{name: a/b, methods: [{name: c}, {name: c, overload_id: 1}]}]")]

/-- Asks for the overload. -/
def deskRequest : Command.Arguments where
  file := some (.ofText "desk.yaml")
  strict := some false
  methods := ["a/b/c-1/POST"]

theorem deskRequest_specification :
    (Command.specificationOf {} deskFile .generate deskRequest).outcome
      = .ok (desk, "desk.yaml") := by
  have hfile : Specification.ofFile deskFile "desk.yaml" = .ok desk := by decide +kernel
  have hload : Command.loadFile deskFile (.ofText "desk.yaml") = .ok desk :=
    congrArg (Except.mapError Command.Stop.ofLoad) hfile
  simp only [Command.specificationOf, deskRequest, hload, Log.Traced.ofExcept]
  rfl

/-- The document of the overload is prepared, whatever the settings are. -/
theorem deskRequest_prepared (settings : Settings) :
    ∃ ready, (Command.prepare {} deskFile settings deskRequest).outcome = .ok ready := by
  rw [Command.prepare, Log.Traced.outcome_bind, deskRequest_specification]
  exact ⟨_, rfl⟩

/-- At the counter every document carries the identifier of its own method only. At the desk asking
for the identifier of the overload yields its document and no other. -/
theorem counter_identifiers :
    (counter.ClearlyNamed ∧
      List.Forall₂ (fun m document => ∀ m' ∈ counter.methods,
          (Json.get? document "$id" = some (.text m'.id) ↔ m.parts = m'.parts))
        counter.methods
        ((Schema.generate counter).map (Schema.MethodDocument.toJson Schema.Definitions.toJson))) ∧
    desk.ClearlyNamed ∧
      ∃ m ∈ desk.methods, m.overload = 1 ∧ deskRequest.methods = [m.id] ∧
        ∀ settings, ∃ ready, (Command.prepare {} deskFile settings deskRequest).outcome = .ok ready ∧
          ready.documents = [Schema.methodDocument m (Schema.definitions desk)] := by
  refine ⟨⟨counter_clearlyNamed, ?_⟩, desk_clearlyNamed, ?_⟩
  · exact (identifiers_tell_methods_apart.2 counter counter_clearlyNamed).1
  let m : Method :=
    { service := "a/b", name := "c", returnType := some (.base "void"), overload := 1 }
  have hm : m ∈ desk.methods := by decide
  refine ⟨m, hm, rfl, by decide, fun settings => ?_⟩
  obtain ⟨ready, hready⟩ := deskRequest_prepared settings
  refine ⟨ready, hready, ?_⟩
  rw [(identifiers_tell_methods_apart.2 desk desk_clearlyNamed).2 m hm {} deskFile settings
    deskRequest "desk.yaml" ready (by decide) deskRequest_specification hready]
  -- the other method has no other name, but another number
  have hwanted : (desk.methods.filter fun m' => m'.name = m.id ∨ m'.parts = m.parts) = [m] := by
    decide
  rw [hwanted, List.map_singleton]

/-- A counter with an overload and a method that is named like it. -/
def mistakenCounter : Specification where
  services := [
    { name := "Zoo"
      methods := [
        { service := "Zoo", name := "add", returnType := some (.base "void"), overload := 1 },
        { service := "Zoo", name := "add-1", returnType := some (.base "void") }] }]

/-- Methods whose parts cannot be separated: for any two sorts of parts, a pair of methods with
slashes in these two. -/
def crossedMethods : List (Method × Method) := [
  ({ service := "A/b", name := "c", returnType := none },
    { service := "A", name := "b/c", returnType := none }),
  ({ service := "A", name := "b", returnType := none, httpMethod := "C/POST" },
    { service := "A", name := "b/C", returnType := none }),
  ({ service := "A", name := "B", returnType := none, httpMethod := "X/B/Y" },
    { service := "A/B/X", name := "B", returnType := none, httpMethod := "Y" })]

/-- Different methods share identifiers: asking for one of them yields documents of both methods of
the counter. -/
theorem mistakenCounter_shares_identifiers :
    (mistakenCounter.methods.map (·.parts)).Nodup ∧
    (Schema.generate mistakenCounter).map (·.id) = ["Zoo/add-1/POST", "Zoo/add-1/POST"] ∧
    (Command.wanted ["Zoo/add-1/POST"] (Schema.generate mistakenCounter)).map (·.title)
      = ["add", "add-1"] ∧
    ∀ pair ∈ crossedMethods, pair.1.parts ≠ pair.2.parts ∧ pair.1.id = pair.2.id := by
  decide

end ServiceSchema
