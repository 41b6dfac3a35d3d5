/-
What a service lists for the functions of its class.

The public functions of a class are met along its lineage, from the farthest ancestor on. A name
that is met for the first time adds the method of its attribute. A name that is met again has its
method made anew, in the place of the first method that is listed under the name. Two things keep
this from doing any harm: an attribute is described as the class itself sees it, so the method is
the same every time, and the place is that of the attribute, as long as attributes and their
functions go by the same names.

They need not. An attribute can hold a function of another name, and the place is looked for
among the names of functions. Then there may be no place, or it may be that of another
attribute. This happens unless, for every name that is met twice, the first attribute that
calls a function of the name is described in the same way.
-/
import ServiceSchema.Proofs.DefinitionTable
import ServiceSchema.Proofs.MethodDocuments

set_option autoImplicit false

namespace ServiceSchema

open Log.Traced

/-! ## Lists and folds -/

section Lists

variable {α β ε : Type}

/-- What is found first does not depend on repetitions. -/
theorem find?_eraseDups (names : List String) (p : String → Bool) :
    names.eraseDups.find? p = names.find? p := by
  induction names using List.reverseRecOn with
  | nil => rfl
  | append_singleton names name ih =>
    rw [eraseDups_concat, List.find?_append]
    split
    · next hname =>
      rw [ih]
      cases hfind : names.find? p with
      | some first => rfl
      | none => simpa using List.find?_eq_none.1 hfind name hname
    · next hname => rw [List.find?_append, ih]

/-- Tests that agree on members which correspond find the same place. -/
theorem findIdx?_eq_of_forall₂ {R : α → β → Prop} {xs : List α} {ys : List β}
    (h : List.Forall₂ R xs ys) {p : α → Bool} {q : β → Bool} (hpq : ∀ x y, R x y → p x = q y) :
    ys.findIdx? q = xs.findIdx? p := by
  have hmap : xs.map p = ys.map q := map_eq_map_of_forall₂ h hpq
  have hplace := congrArg (List.findIdx? id) hmap
  rw [List.findIdx?_map, List.findIdx?_map] at hplace
  exact hplace.symm

/-- A fold is a step after a fold. -/
theorem Log.Traced.foldlM_concat_eq_ok {step : β → α → Log.Traced ε β} {xs : List α} {x : α}
    {b c : β} : ((xs ++ [x]).foldlM step b).outcome = .ok c ↔
      ∃ b', (xs.foldlM step b).outcome = .ok b' ∧ (step b' x).outcome = .ok c := by
  induction xs generalizing b with
  | nil => simp [bind_eq_ok]
  | cons y ys ih =>
    simp only [List.cons_append, List.foldlM_cons, bind_eq_ok, ih]
    constructor
    · rintro ⟨b₁, hb₁, b₂, hb₂, hc⟩
      exact ⟨b₂, ⟨b₁, hb₁, hb₂⟩, hc⟩
    · rintro ⟨b₂, ⟨b₁, hb₁, hb₂⟩, hc⟩
      exact ⟨b₁, hb₁, b₂, hb₂, hc⟩

/-- If a fold fails, one of its steps does. -/
theorem Log.Traced.exists_of_foldlM_eq_error {step : β → α → Log.Traced ε β} {xs : List α} {b : β}
    {e : ε} (h : (xs.foldlM step b).outcome = .error e) :
    ∃ x ∈ xs, ∃ b', (step b' x).outcome = .error e := by
  induction xs generalizing b with
  | nil => cases h
  | cons y ys ih =>
    rw [List.foldlM_cons, outcome_bind, Except.bind_eq_error] at h
    rcases h with hy | ⟨b', -, h⟩
    · exact ⟨y, List.mem_cons_self, b, hy⟩
    · obtain ⟨x, hx, hstep⟩ := ih h
      exact ⟨x, List.mem_cons_of_mem y hx, hstep⟩

/-- What occurs twice occurs again after it did. -/
theorem exists_again {names : List String} {key : String} (h : 2 ≤ names.count key) :
    ∃ before, key ∈ before ∧ before ++ [key] <+: names := by
  have hmem : key ∈ names := List.count_pos_iff.1 (by omega)
  obtain ⟨first, rest, rfl, hfirst⟩ := List.eq_append_cons_of_mem hmem
  rw [List.count_append, List.count_eq_zero_of_not_mem hfirst, List.count_cons_self] at h
  have hrest : key ∈ rest := List.count_pos_iff.1 (by omega)
  obtain ⟨between, after, rfl⟩ := List.append_of_mem hrest
  exact ⟨first ++ key :: between, by simp, after, by simp⟩

end Lists

/-! ## The attributes of a class -/

namespace ClassDeclaration

variable {c : ClassDeclaration} {name : String} {member : Member}

/-- What is bound to nothing leaves no key behind, and the other keys stay in order. -/
theorem sublist_keys_filterMap (entries : List (String × Option Member)) :
    ((entries.filterMap fun (name, member?) => member?.map (name, ·)).map Prod.fst).Sublist
      (entries.map Prod.fst) := by
  induction entries with
  | nil => exact .slnil
  | cons entry entries ih =>
    obtain ⟨name, member?⟩ := entry
    cases member? with
    | none => exact ih.cons name
    | some member => exact ih.cons_cons name

theorem entries_attributes (c : ClassDeclaration) :
    c.attributes.entries =
      (Table.ofList c.bindings).entries.filterMap fun (name, member?) => member?.map (name, ·) :=
  Table.entries_ofList ((sublist_keys_filterMap _).nodup (Table.ofList c.bindings).nodup)

/-- A name is an attribute if it is bound, and not taken off again, by what binds it last. -/
theorem get?_attributes : c.attributes.get? name = some member ↔
    c.bindings.reverse.lookup name = some (some member) := by
  rw [← Table.mem_entries_iff, entries_attributes, List.mem_filterMap, ← Table.mem_entries_ofList]
  constructor
  · rintro ⟨⟨key, member?⟩, hmem, hentry⟩
    obtain ⟨held, rfl, hpair⟩ := Option.map_eq_some_iff.1 hentry
    cases hpair
    exact hmem
  · exact fun hmem => ⟨_, hmem, rfl⟩

/-- **The attributes of a class** keep the order in which their names are bound first, by a function
or by the default of a field, whatever they are bound to last. -/
theorem listsFirst_attributes (c : ClassDeclaration) :
    ListsFirst (c.bindings.map Prod.fst)
      (fun name => ∃ member, c.bindings.reverse.lookup name = some (some member))
      c.attributes.keys := by
  have hall := listsFirst_eraseDups (c.bindings.map Prod.fst)
  rw [← Table.keys_ofList] at hall
  have hpart : c.attributes.keys.Sublist (Table.ofList c.bindings).keys := by
    rw [Table.keys, entries_attributes]
    exact sublist_keys_filterMap _
  refine ⟨hpart.nodup hall.once, fun name => ?_, hall.ordered.sublist hpart⟩
  simp only [← get?_attributes, ← Table.mem_entries_iff]
  constructor
  · intro hname
    obtain ⟨⟨key, member⟩, hmem, rfl⟩ := List.mem_map.1 hname
    exact ⟨((hall.mem_iff key).1 (hpart.subset hname)).1, member, hmem⟩
  · rintro ⟨-, member, hmem⟩
    exact List.mem_map_of_mem hmem

end ClassDeclaration

namespace Universe

variable {u : Universe} {id : ClassId} {service key : String} {listed listed' : MethodList}
  {m : Method}

/-! ## Attributes and their functions -/

/-- The name of the function that a class calls under the name of an attribute. -/
def calledName? (u : Universe) (id : ClassId) (key : String) : Option String :=
  match u.attribute? id key with
  | some (.function f) | some (.static f) | some (.bound f) => some f.name
  | _ => none

/-- The method of an attribute goes by the name of its function. -/
theorem calledName?_of_attributeMethod
    (h : (u.attributeMethod id service key).outcome = .ok m) :
    u.calledName? id key = some m.name := by
  obtain ⟨f, signature, hints, hcalls, -, hdescribes⟩ := describes_attributeMethod h
  rw [hdescribes.name, calledName?]
  cases hcalls with
  | function found => rw [found]
  | static found => rw [found]
  | bound found _ => rw [found]

theorem mem_publicFunctions {attributes : Table Member} :
    key ∈ publicFunctions attributes ↔
      isPrivate key = false ∧ ∃ f, attributes.get? key = some (.function f) := by
  simp only [publicFunctions, List.mem_filterMap, Prod.exists, ← Table.mem_entries_iff]
  constructor
  · rintro ⟨name, member, hmember, hname⟩
    cases member with
    | function f =>
      cases hpublic : isPrivate name with
      | true => simp [hpublic] at hname
      | false =>
        obtain rfl : name = key := by simpa [hpublic] using hname
        exact ⟨hpublic, f, hmember⟩
    | _ => cases hname
  · rintro ⟨hpublic, f, hf⟩
    exact ⟨key, .function f, hf, by simp [hpublic]⟩

/-- A name is met along the lineage if a class on it, other than what every class descends from,
binds the name to a public function. -/
theorem mem_declaredFunctions : key ∈ u.declaredFunctions id ↔
    isPrivate key = false ∧
      ∃ c ∈ u.lineage id, c ≠ .standard .object ∧
        ∃ f, (u.ownAttributes c).get? key = some (.function f) := by
  simp only [declaredFunctions, List.mem_flatMap, List.mem_filter, List.mem_reverse, bne_iff_ne,
    mem_publicFunctions]
  constructor
  · rintro ⟨c, ⟨hc, hroot⟩, hpublic, hf⟩
    exact ⟨hpublic, c, hc, hroot, hf⟩
  · rintro ⟨hpublic, c, hc, hroot, hf⟩
    exact ⟨c, ⟨hc, hroot⟩, hpublic, hf⟩

/-! ## One more function -/

/-- Every listed method is that of the attribute it was listed for. -/
def Faithful (u : Universe) (id : ClassId) (service : String) (listed : MethodList) : Prop :=
  List.Forall₂ (fun key m => (u.attributeMethod id service key).outcome = .ok m)
    listed.seen listed.methods

/-- Of several attributes, the first one that calls a function of a name is described like the
attribute of this name. -/
def FoundAmong (u : Universe) (id : ClassId) (service : String) (names : List String)
    (key : String) : Prop :=
  ∃ other, names.find? (fun other => u.calledName? id other == some key) = some other ∧
    (u.attributeMethod id service other).outcome = (u.attributeMethod id service key).outcome

instance (id : ClassId) (service key : String) (names : List String) :
    Decidable (u.FoundAmong id service names key) :=
  match hfirst : names.find? (fun other => u.calledName? id other == some key) with
  | none => isFalse fun ⟨_, hother, _⟩ => by simp [hfirst] at hother
  | some first =>
    decidable_of_iff ((u.attributeMethod id service first).outcome
        = (u.attributeMethod id service key).outcome) <| by
      simp [FoundAmong, hfirst]

/-- A name that is new is listed with the method of its attribute. -/
theorem addMethod_new (hnew : key ∉ listed.seen)
    (hm : (u.attributeMethod id service key).outcome = .ok m) :
    (u.addMethod id service listed key).outcome
      = .ok ⟨listed.seen ++ [key], listed.methods ++ [m]⟩ :=
  addMethod_eq_ok.2 ⟨m, hm, .inl ⟨hnew, rfl⟩⟩

/-- If an attribute can be described, only a place for its method can be missing. -/
theorem error_of_addMethod {e : ClassError}
    (hm : (u.attributeMethod id service key).outcome = .ok m)
    (h : (u.addMethod id service listed key).outcome = .error e) : e = .unlistedMethod := by
  unfold addMethod at h
  split at h
  · split at h
    · exact (Except.error.inj h).symm
    · rw [outcome_bind, hm] at h
      cases h
  · rw [outcome_bind, hm] at h
    cases h

/-- A name that is met is listed once. -/
theorem seen_addMethod (h : (u.addMethod id service listed key).outcome = .ok listed') :
    listed'.seen = if key ∈ listed.seen then listed.seen else listed.seen ++ [key] := by
  obtain ⟨m, -, ⟨hnew, rfl⟩ | ⟨hold, place, -, rfl⟩⟩ := addMethod_eq_ok.1 h
  · rw [if_neg hnew]
  · rw [if_pos hold]

theorem Faithful.nil : u.Faithful id service {} := List.Forall₂.nil

theorem Faithful.concat (h : u.Faithful id service listed)
    (hm : (u.attributeMethod id service key).outcome = .ok m) :
    u.Faithful id service ⟨listed.seen ++ [key], listed.methods ++ [m]⟩ :=
  List.rel_append h (.cons hm .nil)

/-- The place of a name among the methods is that of the first attribute that calls a function of
this name. -/
theorem Faithful.place_eq (h : u.Faithful id service listed) (key : String) :
    listed.methods.findIdx? (·.name == key)
      = listed.seen.findIdx? (fun other => u.calledName? id other == some key) :=
  findIdx?_eq_of_forall₂ h fun other m hm => by
    rw [calledName?_of_attributeMethod hm]
    rfl

/-- Where the first attribute that calls a function of a name is described like the attribute of
this name, its method is written over by itself. -/
theorem Faithful.addMethod_again_eq (h : u.Faithful id service listed) (hold : key ∈ listed.seen)
    (hm : (u.attributeMethod id service key).outcome = .ok m)
    (hfound : u.FoundAmong id service listed.seen key) :
    (u.addMethod id service listed key).outcome = .ok listed := by
  obtain ⟨other, hother, hsame⟩ := hfound
  rw [List.find?_eq_bind_findIdx?_getElem?, Option.bind_eq_some_iff] at hother
  obtain ⟨place, hplace, hother⟩ := hother
  obtain ⟨hseen, rfl⟩ := List.getElem?_eq_some_iff.1 hother
  have hmethods : place < listed.methods.length := h.length_eq ▸ hseen
  have hlisted : (u.attributeMethod id service listed.seen[place]).outcome
      = .ok listed.methods[place] := h.get hseen hmethods
  obtain rfl : listed.methods[place] = m := Except.ok.inj (by rw [← hlisted, hsame, hm])
  refine addMethod_eq_ok.2 ⟨_, hm, .inr ⟨hold, place, by rw [h.place_eq, hplace], ?_⟩⟩
  rw [List.set_getElem_self]

/-- Conversely, if the method goes to a place where it does no harm, the attribute of this place is
described in the same way. -/
theorem Faithful.found_of_addMethod (h : u.Faithful id service listed) (hold : key ∈ listed.seen)
    (hlisted : (u.addMethod id service listed key).outcome = .ok listed')
    (h' : u.Faithful id service listed') : u.FoundAmong id service listed.seen key := by
  obtain ⟨m, hm, ⟨hnew, -⟩ | ⟨-, place, hplace, rfl⟩⟩ := addMethod_eq_ok.1 hlisted
  · exact absurd hold hnew
  rw [h.place_eq] at hplace
  obtain ⟨hseen, -⟩ := List.findIdx?_eq_some_iff_getElem.1 hplace
  refine ⟨listed.seen[place], ?_, ?_⟩
  · rw [List.find?_eq_bind_findIdx?_getElem?, hplace, Option.bind_some, List.getElem?_eq_getElem]
  · have hmethods : place < (listed.methods.set place m).length := h'.length_eq ▸ hseen
    have hset := h'.get hseen hmethods
    simpa [hm] using hset

/-! ## All functions -/

section Run

variable {names before : List String}

/-- What is listed for names: each where it occurs first. -/
theorem seen_run (h : (names.foldlM (u.addMethod id service) {}).outcome = .ok listed) :
    listed.seen = names.eraseDups := by
  induction names using List.reverseRecOn generalizing listed with
  | nil => exact Except.ok.inj h ▸ rfl
  | append_singleton names name ih =>
    obtain ⟨listed₀, h₀, hstep⟩ := foldlM_concat_eq_ok.1 h
    rw [seen_addMethod hstep, ih h₀, eraseDups_concat]
    simp only [List.mem_eraseDups]

/-- While names are met, no method takes the place of another one, and for each a place is found. -/
def Undisturbed (u : Universe) (id : ClassId) (service : String) (names : List String) : Prop :=
  ∀ before, before <+: names →
    ∃ listed, (before.foldlM (u.addMethod id service) {}).outcome = .ok listed ∧
      u.Faithful id service listed

/-- What is found first among the first names is found first among all names. -/
theorem FoundAmong.extend (h : u.FoundAmong id service before key) (hpart : before <+: names) :
    u.FoundAmong id service names key := by
  obtain ⟨other, hother, hsame⟩ := h
  exact ⟨other, hpart.find?_eq_some hother, hsame⟩

/-- Some attribute calls a function of a name first, if the attribute of this name does. -/
theorem exists_first_called (hkey : key ∈ names) (hcalled : u.calledName? id key = some key) :
    ∃ first, names.find? (fun other => u.calledName? id other == some key) = some first := by
  rw [← Option.isSome_iff_exists, List.find?_isSome]
  exact ⟨key, hkey, beq_iff_eq.2 hcalled⟩

/-- What is found first among all names is found among the first ones, once the name itself is one
of them: it is called by its own name then. -/
theorem FoundAmong.restrict (h : u.FoundAmong id service names key) (hpart : before <+: names)
    (hkey : key ∈ before) (hm : (u.attributeMethod id service key).outcome = .ok m) :
    u.FoundAmong id service before key := by
  obtain ⟨other, hother, hsame⟩ := h
  have hcalled : u.calledName? id key = some key := by
    rw [calledName?_of_attributeMethod hm, ← calledName?_of_attributeMethod (hsame.trans hm)]
    simpa using List.find?_some hother
  obtain ⟨first, hfirst⟩ := exists_first_called hkey hcalled
  obtain rfl : first = other :=
    Option.some.inj <| (hpart.find?_eq_some hfirst).symm.trans hother
  exact ⟨first, hfirst, hsame⟩

theorem foundAmong_eraseDups :
    u.FoundAmong id service names.eraseDups key ↔ u.FoundAmong id service names key := by
  simp only [FoundAmong, find?_eraseDups]

/-- A name that is met again finds its method, if nothing was disturbed. -/
theorem Undisturbed.found (h : u.Undisturbed id service names) (hkey : key ∈ before)
    (hpart : before ++ [key] <+: names) : u.FoundAmong id service names key := by
  obtain ⟨listed', hrun', hfaithful'⟩ := h _ hpart
  have hbefore : before <+: names := (List.prefix_append before [key]).trans hpart
  obtain ⟨listed, hrun, hfaithful⟩ := h before hbefore
  have hstep : (u.addMethod id service listed key).outcome = .ok listed' := by
    obtain ⟨listed₀, hrun₀, hstep⟩ := foldlM_concat_eq_ok.1 hrun'
    obtain rfl : listed = listed₀ := Except.ok.inj (hrun.symm.trans hrun₀)
    exact hstep
  have hseen := seen_run hrun
  have hold : key ∈ listed.seen := by rwa [hseen, List.mem_eraseDups]
  have hfound := hfaithful.found_of_addMethod hold hstep hfaithful'
  rw [hseen, foundAmong_eraseDups] at hfound
  exact hfound.extend hbefore

/-- Nothing is disturbed, if every name that is met again finds its method. The induction is on
what was met; a step either lists a new name or changes nothing. -/
theorem undisturbed_of_found
    (hdescribed : ∀ key ∈ names, ∃ m, (u.attributeMethod id service key).outcome = .ok m)
    (hfound : ∀ key, 2 ≤ names.count key → u.FoundAmong id service names key) :
    u.Undisturbed id service names := by
  intro before hpart
  induction before using List.reverseRecOn with
  | nil => exact ⟨{}, rfl, .nil⟩
  | append_singleton before key ih =>
    have hbefore : before <+: names := (List.prefix_append before [key]).trans hpart
    obtain ⟨listed, hrun, hfaithful⟩ := ih hbefore
    obtain ⟨m, hm⟩ := hdescribed key (hpart.subset (by simp))
    by_cases hkey : key ∈ before
    · have htwice : 2 ≤ names.count key := by
        have hcount := hpart.sublist.count_le key
        rw [List.count_append, List.count_singleton_self] at hcount
        have := List.count_pos_iff.2 hkey
        omega
      have hold : key ∈ listed.seen := by rwa [seen_run hrun, List.mem_eraseDups]
      have hagain : u.FoundAmong id service listed.seen key := by
        rw [seen_run hrun, foundAmong_eraseDups]
        exact (hfound key htwice).restrict hbefore hkey hm
      -- the method is written over by itself, so the same methods are listed as before
      exact ⟨listed, foldlM_concat_eq_ok.2
        ⟨listed, hrun, hfaithful.addMethod_again_eq hold hm hagain⟩, hfaithful⟩
    · have hnew : key ∉ listed.seen := by rwa [seen_run hrun, List.mem_eraseDups]
      exact ⟨_, foldlM_concat_eq_ok.2 ⟨listed, hrun, addMethod_new hnew hm⟩, hfaithful.concat hm⟩

/-- **Nothing is disturbed exactly if every name that is met again finds its method.** -/
theorem undisturbed_iff
    (hdescribed : ∀ key ∈ names, ∃ m, (u.attributeMethod id service key).outcome = .ok m) :
    u.Undisturbed id service names ↔
      ∀ key, 2 ≤ names.count key → u.FoundAmong id service names key := by
  refine ⟨fun h key htwice => ?_, undisturbed_of_found hdescribed⟩
  obtain ⟨before, hkey, hpart⟩ := exists_again htwice
  exact h.found hkey hpart

end Run

/-! ## Services -/

/-- A service fails if its methods cannot be listed. -/
theorem service_eq_error {name : Option String} {e : ClassError} :
    (u.service (.cls id) name).outcome = .error e ↔
      ((u.declaredFunctions id).foldlM (u.addMethod id (u.serviceName id name)) {}).outcome
        = .error e := by
  rw [service_eq, outcome_bind, Except.bind_eq_error]
  simp

/-- For every public function of a class, the attribute of its name can be described. -/
def Describable (u : Universe) (id : ClassId) (service : String) : Prop :=
  ∀ key ∈ u.declaredFunctions id, ∃ m, (u.attributeMethod id service key).outcome = .ok m

instance (id : ClassId) (service : String) : Decidable (u.Describable id service) :=
  decidable_of_iff
    (∀ key ∈ u.declaredFunctions id, (u.attributeMethod id service key).outcome.isOk = true) <| by
    refine forall₂_congr fun key _ => ?_
    cases (u.attributeMethod id service key).outcome <;> simp [Except.isOk, Except.toBool]

/-- **Overriding is harmless exactly if every name that is met again finds its method.** A service
whose attributes can all be described can only fail for want of a place for a method. It does not
fail, and no attribute loses its place to another one, if and only if for each name that several
classes declare the first attribute that calls a function of the name is described like the
attribute of the name. -/
theorem overriding_harmless_iff (name : Option String)
    (hdescribable : u.Describable id (u.serviceName id name)) :
    (∀ e, (u.service (.cls id) name).outcome = .error e → e = .unlistedMethod) ∧
    ((∃ s, (u.service (.cls id) name).outcome = .ok s) ∧
        u.Undisturbed id (u.serviceName id name) (u.declaredFunctions id) ↔
      ∀ key, 2 ≤ (u.declaredFunctions id).count key →
        u.FoundAmong id (u.serviceName id name) (u.declaredFunctions id) key) := by
  refine ⟨fun e he => ?_, fun h => (undisturbed_iff hdescribable).1 h.2, fun h => ?_⟩
  · obtain ⟨key, hkey, listed, hstep⟩ := exists_of_foldlM_eq_error (service_eq_error.1 he)
    obtain ⟨m, hm⟩ := hdescribable key hkey
    exact error_of_addMethod hm hstep
  · have hundisturbed := (undisturbed_iff hdescribable).2 h
    obtain ⟨listed, hrun, -⟩ := hundisturbed _ List.prefix_rfl
    exact ⟨⟨_, service_eq_ok.2 ⟨listed, hrun, rfl⟩⟩, hundisturbed⟩

end Universe

/-! ### Shelves

A shelf can be searched under two names. On a labelled shelf both lead to one function, in the
first place as a function that is bound to the class. -/

/-- A function with a receiver. -/
def operation (name : String) (parameters : List Parameter) : Function where
  name := name
  parameters := { name := "self" } :: parameters

/-- A function that finds something by a key of the given standard class. -/
def findBy (type : String) : Function :=
  operation "find" [{ name := "key", type := some (.cls (.standard (.builtin type))) }]

/-- The classes of the shelves. -/
def shelfClasses : Universe where
  classes := [
    { name := "Shelf", module := "m", qualname := "Shelf"
      members := [
        ("lookup", .function (operation "find" [])),
        ("find", .function (operation "find" []))] },
    { name := "LabelledShelf", module := "m", qualname := "LabelledShelf"
      bases := [.declared 0]
      members := [
        ("find", .function (findBy "str")),
        ("lookup", .bound (findBy "str")),
        ("search", .function (findBy "str"))] }]

/-- Overriding the search of a shelf is harmless: the attribute that is listed first is described
like the one that is overridden. -/
theorem labelledShelf_undisturbed :
    shelfClasses.declaredFunctions (.declared 1) = ["lookup", "find", "find", "search"] ∧
    shelfClasses.Describable (.declared 1) "LabelledShelf" ∧
    (∃ s, (shelfClasses.service (.cls (.declared 1)) none).outcome = .ok s) ∧
    shelfClasses.Undisturbed (.declared 1) "LabelledShelf"
      (shelfClasses.declaredFunctions (.declared 1)) := by
  have hdescribable : shelfClasses.Describable (.declared 1) "LabelledShelf" := by
    decide +kernel
  have hfound : ∀ key ∈ shelfClasses.declaredFunctions (.declared 1),
      2 ≤ (shelfClasses.declaredFunctions (.declared 1)).count key →
        shelfClasses.FoundAmong (.declared 1) "LabelledShelf"
          (shelfClasses.declaredFunctions (.declared 1)) key := by
    decide +kernel
  exact ⟨by decide +kernel, hdescribable,
    (Universe.overriding_harmless_iff none hdescribable).2.2 fun key htwice =>
      hfound key (List.count_pos_iff.1 (by omega)) htwice⟩

/-! ### Makers and drawers

Two ways in which overriding does harm. A builder makes things by a private function; a drawer
keeps a first search under another name. -/

/-- The classes of the makers. -/
def makerClasses : Universe where
  classes := [
    { name := "Maker", module := "m", qualname := "Maker"
      members := [("create", .function (operation "create" []))] },
    { name := "Builder", module := "m", qualname := "Builder"
      bases := [.declared 0]
      members := [
        ("_build", .function (operation "_build" [])),
        ("create", .function (operation "_build" []))] }]

/-- The classes of the drawers. -/
def drawerClasses : Universe where
  classes := [
    { name := "Drawer", module := "m", qualname := "Drawer"
      members := [
        ("find", .function (operation "find" [])),
        ("lookup", .function (operation "find" [])),
        ("find", .constant (.value (.int 0)))] },
    { name := "NamedDrawer", module := "m", qualname := "NamedDrawer"
      bases := [.declared 0]
      members := [("find", .function (findBy "str"))] },
    { name := "NumberedDrawer", module := "m", qualname := "NumberedDrawer"
      bases := [.declared 1]
      members := [("find", .function (findBy "int"))] }]

/-- What finds by a number is listed twice. -/
def numberedDrawerService : Service where
  name := "NumberedDrawer"
  methods :=
    let find : Method :=
      { service := "NumberedDrawer", name := "find", returnType := some (.base "void")
        parameters := [{ name := "key", type := .base "int", requirement := .required }]
        endpoints := [{ path := "/NumberedDrawer/find" }] }
    [find, find]

/-- What finds anything is not listed. -/
def lookupMethod : Method :=
  { service := "NumberedDrawer", name := "find", returnType := some (.base "void")
    endpoints := [{ path := "/NumberedDrawer/find" }] }

/-- All attributes of the builder and of the numbered drawer can be described. But the builder has
no place for the method that it overrides, and the drawer puts it in the place of another
one, whose method is lost. -/
theorem aliases_disturb :
    (makerClasses.Describable (.declared 1) "Builder" ∧
      (makerClasses.service (.cls (.declared 1)) none).outcome = .error .unlistedMethod) ∧
    (drawerClasses.Describable (.declared 2) "NumberedDrawer" ∧
      ∃ s m, (drawerClasses.service (.cls (.declared 2)) none).outcome = .ok s ∧
        (drawerClasses.attributeMethod (.declared 2) "NumberedDrawer" "lookup").outcome = .ok m ∧
        m ∉ s.methods ∧
        ¬ drawerClasses.Undisturbed (.declared 2) "NumberedDrawer"
          (drawerClasses.declaredFunctions (.declared 2))) := by
  have hdescribable : drawerClasses.Describable (.declared 2) "NumberedDrawer" := by
    decide +kernel
  have hdisturbed : ¬ drawerClasses.Undisturbed (.declared 2) "NumberedDrawer"
      (drawerClasses.declaredFunctions (.declared 2)) := by
    intro hundisturbed
    have hfound := (Universe.undisturbed_iff hdescribable).1 hundisturbed "find"
    revert hfound
    decide +kernel
  exact ⟨⟨by decide +kernel, by decide +kernel⟩, hdescribable, numberedDrawerService,
    lookupMethod, by decide +kernel, by decide +kernel, by decide, hdisturbed⟩

/-- The classes of a store, which gets things by a private function, and of another drawer, which
keeps its search under the name of a field. -/
def storeClasses : Universe where
  classes := [
    { name := "Store", module := "m", qualname := "Store"
      bases := [.standard (.abstract "Mapping")]
      members := [
        ("_fetch", .function (operation "_fetch" [])),
        ("get", .function (operation "_fetch" []))] },
    { name := "Drawer", module := "m", qualname := "Drawer"
      fields := [
        { name := "lookup", type := .cls (.standard (.builtin "int")), default := some (.int 0) }]
      members := [
        ("find", .function (operation "find" [])),
        ("lookup", .function (operation "find" []))] },
    { name := "NamedDrawer", module := "m", qualname := "NamedDrawer"
      bases := [.declared 1]
      members := [("find", .function (findBy "str"))] }]

-- what a store overrides is a function of mappings
example : storeClasses.declaredFunctions (.declared 0) = ["get", "keys", "items", "values", "get"] ∧
    (storeClasses.service (.cls (.declared 0)) none).outcome = .error .unlistedMethod := by
  decide +kernel

-- the default binds the name before the function does
example : storeClasses.declaredFunctions (.declared 2) = ["lookup", "find", "find"] ∧
    ¬ storeClasses.FoundAmong (.declared 2) "NamedDrawer" ["lookup", "find", "find"] "find" := by
  decide +kernel

namespace Universe

variable {u : Universe} {id : ClassId} {service key : String} {m : Method}

/-! ## Functions under their own names -/

/-- A method describes an attribute as the class itself sees it: as the first class on the lineage
has it that defines the attribute. -/
structure DescribesLatest (u : Universe) (id : ClassId) (service key : String) (m : Method) :
    Prop where
  name : m.name = key
  method : (u.attributeMethod id service key).outcome = .ok m
  latest : ∃ before c after member, u.lineage id = before ++ c :: after ∧
    (∀ d ∈ before, (u.ownAttributes d).get? key = none) ∧
    (u.ownAttributes c).get? key = some member ∧ u.attribute? id key = some member

/-- An attribute that has a method is defined by a class on the lineage. -/
theorem describesLatest_of_attributeMethod
    (hm : (u.attributeMethod id service key).outcome = .ok m)
    (hnamed : u.calledName? id key = some key) : u.DescribesLatest id service key m where
  name := Option.some.inj ((calledName?_of_attributeMethod hm).symm.trans hnamed)
  method := hm
  latest := by
    cases hfound : u.attribute? id key with
    | none => simp [calledName?, hfound] at hnamed
    | some member =>
      obtain ⟨before, c, after, hlineage, hc, hbefore⟩ := List.findSome?_eq_some_iff.1 hfound
      exact ⟨before, c, after, member, hlineage, hbefore, hc, rfl⟩

/-- Where attributes call functions of their own names, the first attribute that calls a function of
a name is the one of this name. -/
theorem foundAmong_of_named {names : List String}
    (hnamed : ∀ other ∈ names, u.calledName? id other = some other) (hkey : key ∈ names) :
    u.FoundAmong id service names key := by
  obtain ⟨first, hfirst⟩ := exists_first_called hkey (hnamed key hkey)
  have hcalled : u.calledName? id first = some key := by simpa using List.find?_some hfirst
  obtain rfl : first = key :=
    Option.some.inj ((hnamed first (List.mem_of_find?_eq_some hfirst)).symm.trans hcalled)
  exact ⟨first, hfirst, rfl⟩

/-- **A service lists the functions of its class, each once and in the place where it is met
first**, and describes each as the class itself sees it, however often it is overridden. -/
theorem service_lists_functions (name : Option String)
    (hnamed : ∀ key ∈ u.declaredFunctions id, u.calledName? id key = some key)
    (hdescribable : u.Describable id (u.serviceName id name)) :
    ∃ s keys, (u.service (.cls id) name).outcome = .ok s ∧ s.name = u.serviceName id name ∧
      ListsFirst (u.declaredFunctions id) (fun _ => True) keys ∧
      (∀ key, key ∈ keys ↔ isPrivate key = false ∧
        ∃ c ∈ u.lineage id, c ≠ .standard .object ∧
          ∃ f, (u.ownAttributes c).get? key = some (.function f)) ∧
      List.Forall₂ (u.DescribesLatest id s.name) keys s.methods := by
  have hundisturbed := undisturbed_of_found hdescribable fun key htwice =>
    foundAmong_of_named hnamed (List.count_pos_iff.1 (by omega))
  obtain ⟨listed, hrun, hfaithful⟩ := hundisturbed _ List.prefix_rfl
  have hseen := seen_run hrun
  refine ⟨_, listed.seen, service_eq_ok.2 ⟨listed, hrun, rfl⟩, rfl, ?_, fun key => ?_, ?_⟩
  · rw [hseen]
    exact listsFirst_eraseDups _
  · rw [hseen, List.mem_eraseDups, mem_declaredFunctions]
  · have hcalled : ∀ key ∈ listed.seen, u.calledName? id key = some key := fun key hkey =>
      hnamed key (by rwa [hseen, List.mem_eraseDups] at hkey)
    exact ((List.forall₂_and_left _ _).2 ⟨hcalled, hfaithful⟩).imp fun key m h =>
      describesLatest_of_attributeMethod h.2 h.1

end Universe

/-! ### An archive

An archive is a mapping, and has a number under the name of a function until it defines that
function. A mirror of an archive overrides what its two bases override. -/

/-- The classes of the archive. -/
def archiveClasses : Universe where
  classes := [
    { name := "Archive", module := "m", qualname := "Archive"
      bases := [.standard (.abstract "Mapping")]
      fields := [
        { name := "list", type := .cls (.standard (.builtin "int")), default := some (.int 0) }]
      members := [
        ("open", .function (operation "open" [])),
        ("close", .function (operation "close" [])),
        ("list", .function (operation "list" []))] },
    { name := "Local", module := "m", qualname := "Local", bases := [.declared 0]
      members := [
        ("close", .function (operation "close" [{ name := "drive" }])),
        ("pin", .function (operation "pin" []))] },
    { name := "Remote", module := "m", qualname := "Remote", bases := [.declared 0]
      members := [
        ("close", .function (operation "close" [{ name := "host" }])),
        ("open", .function (operation "open" [{ name := "host" }])),
        ("ping", .bound (operation "ping" [])),
        ("list", .function (operation "list" [{ name := "page" }]))] },
    { name := "Mirror", module := "m", qualname := "Mirror"
      bases := [.declared 1, .declared 2]
      members := [
        ("list", .static (operation "list" [{ name := "depth" }])),
        ("_sync", .function (operation "_sync" [])),
        ("close", .function (operation "close" []))] }]

/-- The mirror lists the methods of mappings and four more, each as the class itself sees it. -/
theorem mirror_lists_functions :
    (∀ key ∈ archiveClasses.declaredFunctions (.declared 3),
      archiveClasses.calledName? (.declared 3) key = some key) ∧
    archiveClasses.Describable (.declared 3) "Mirror" ∧
    archiveClasses.declaredFunctions (.declared 3)
      = ["get", "keys", "items", "values", "list", "open", "close", "close", "open", "list",
        "close", "pin", "close"] ∧
    ∃ s keys, (archiveClasses.service (.cls (.declared 3)) none).outcome = .ok s ∧
      s.name = "Mirror" ∧
      ListsFirst (archiveClasses.declaredFunctions (.declared 3)) (fun _ => True) keys ∧
      (∀ key, key ∈ keys ↔ isPrivate key = false ∧
        ∃ c ∈ archiveClasses.lineage (.declared 3), c ≠ .standard .object ∧
          ∃ f, (archiveClasses.ownAttributes c).get? key = some (.function f)) ∧
      List.Forall₂ (archiveClasses.DescribesLatest (.declared 3) s.name) keys s.methods := by
  have hnamed : ∀ key ∈ archiveClasses.declaredFunctions (.declared 3),
      archiveClasses.calledName? (.declared 3) key = some key := by
    decide +kernel
  have hdescribable : archiveClasses.Describable (.declared 3) "Mirror" := by
    decide +kernel
  exact ⟨hnamed, hdescribable, by decide +kernel,
    Universe.service_lists_functions none hnamed hdescribable⟩

end ServiceSchema
