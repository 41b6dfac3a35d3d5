/-
Where a scalar without a value comes from.

A well-formed text may hold a scalar that has no value of its type. This is seen when the
nodes of the document are made: each is made once, collections are filled after everything
beside them, and merge keys bring in entries from elsewhere. Whatever is made on the way is a
part of the document or has a value in any case, so a fault is that of a part.
-/
import ServiceSchema.Proofs.YamlReading
import ServiceSchema.Yaml.Value

set_option autoImplicit false

namespace ServiceSchema.Yaml

variable {P : ScalarFault → Prop}

/-! ## Parts of a document -/

/-- The nodes of a document, at any depth. -/
inductive Part (root : Node) : Node → Prop
  | root : Part root root
  | item {anchor : Option String} {tag : Tag} {items : List Node} {item : Node}
      (whole : Part root (.sequence anchor tag items)) (listed : item ∈ items) : Part root item
  | key {anchor : Option String} {tag : Tag} {entries : List (Node × Node)} {entry : Node × Node}
      (whole : Part root (.mapping anchor tag entries)) (listed : entry ∈ entries) :
      Part root entry.1
  | value {anchor : Option String} {tag : Tag} {entries : List (Node × Node)} {entry : Node × Node}
      (whole : Part root (.mapping anchor tag entries)) (listed : entry ∈ entries) :
      Part root entry.2

variable {root : Node}

mutual

theorem part_of_anchored {node : Node} (hnode : Part root node) {x : String × Node}
    (hx : x ∈ node.anchored) : Part root x.2 := by
  match node with
  | .scalar anchor tag plain text =>
    simp only [Node.anchored, Option.mem_toList, Option.map_eq_some_iff] at hx
    obtain ⟨_, -, rfl⟩ := hx
    exact hnode
  | .sequence anchor tag items =>
    simp only [Node.anchored, List.mem_append, Option.mem_toList, Option.map_eq_some_iff] at hx
    rcases hx with ⟨_, -, rfl⟩ | hx
    · exact hnode
    · exact part_of_anchoredItems (fun item hitem => .item hnode hitem) hx
  | .mapping anchor tag entries =>
    simp only [Node.anchored, List.mem_append, Option.mem_toList, Option.map_eq_some_iff] at hx
    rcases hx with ⟨_, -, rfl⟩ | hx
    · exact hnode
    · exact part_of_anchoredEntries (fun e he => ⟨.key hnode he, .value hnode he⟩) hx
  | .reference name => cases hx

theorem part_of_anchoredItems {items : List Node} (hitems : ∀ item ∈ items, Part root item)
    {x : String × Node} (hx : x ∈ anchoredItems items) : Part root x.2 := by
  match items with
  | [] => cases hx
  | item :: rest =>
    rcases List.mem_append.1 hx with hx | hx
    · exact part_of_anchored (hitems item List.mem_cons_self) hx
    · exact part_of_anchoredItems (fun i hi => hitems i (List.mem_cons_of_mem item hi)) hx

theorem part_of_anchoredEntries {entries : List (Node × Node)}
    (hentries : ∀ e ∈ entries, Part root e.1 ∧ Part root e.2) {x : String × Node}
    (hx : x ∈ anchoredEntries entries) : Part root x.2 := by
  match entries with
  | [] => cases hx
  | (key, value) :: rest =>
    obtain ⟨hkey, hvalue⟩ := hentries (key, value) List.mem_cons_self
    simp only [anchoredEntries, List.mem_append] at hx
    rcases hx with (hx | hx) | hx
    · exact part_of_anchored hkey hx
    · exact part_of_anchored hvalue hx
    · exact part_of_anchoredEntries (fun e he => hentries e (List.mem_cons_of_mem _ he)) hx

end

/-- The nodes that are made for a document: its parts, the keys that lost their special meaning
and the blank that an alias without an anchor stands for. -/
inductive Made (root : Node) : Node → Prop
  | part {node : Node} (h : Part root node) : Made root node
  | text (anchor : Option String) (word : String) : Made root (.scalar anchor .absent false word)
  | blank : Made root .blank

theorem Made.part_of_sequence {anchor : Option String} {tag : Tag} {items : List Node}
    (h : Made root (.sequence anchor tag items)) : Part root (.sequence anchor tag items) := by
  generalize hnode : Node.sequence anchor tag items = node at h
  cases h with
  | part h => exact h
  | text => cases hnode
  | blank => cases hnode

theorem Made.part_of_mapping {anchor : Option String} {tag : Tag} {entries : List (Node × Node)}
    (h : Made root (.mapping anchor tag entries)) : Part root (.mapping anchor tag entries) := by
  generalize hnode : Node.mapping anchor tag entries = node at h
  cases h with
  | part h => exact h
  | text => cases hnode
  | blank => cases hnode

theorem Made.item {anchor : Option String} {tag : Tag} {items : List Node}
    (h : Made root (.sequence anchor tag items)) : ∀ item ∈ items, Made root item :=
  fun _ hitem => .part (.item h.part_of_sequence hitem)

/-- Keys and values alike are made. -/
def MadeEntries (root : Node) (entries : List (Node × Node)) : Prop :=
  ∀ e ∈ entries, Made root e.1 ∧ Made root e.2

theorem Made.entries {anchor : Option String} {tag : Tag} {entries : List (Node × Node)}
    (h : Made root (.mapping anchor tag entries)) : MadeEntries root entries :=
  fun _ he => ⟨.part (.key h.part_of_mapping he), .part (.value h.part_of_mapping he)⟩

theorem Made.target {node : Node} (h : Made root node) :
    Made root (Anchors.target root.anchored node) := by
  unfold Anchors.target
  split
  · next name =>
    cases hlookup : List.lookup name root.anchored with
    | none => exact .blank
    | some node =>
      obtain ⟨before, after, hanchored, -⟩ := List.lookup_eq_some_iff.1 hlookup
      have hmem : (name, node) ∈ root.anchored := by simp [hanchored]
      exact .part (part_of_anchored .root hmem)
  · exact h

theorem Made.plainKey {key : Node} (h : Made root key) : Made root (plainKey key) := by
  unfold Yaml.plainKey
  split
  · split
    · exact .text _ _
    · exact h
  · exact h

/-! ## Faults of scalars -/

/-- The text is no value of the type. -/
inductive NoValue : ScalarType → String → ScalarFault → Prop
  | bool {s : String} {fault : ScalarFault} (refused : boolValue s = .error fault) :
      NoValue .bool s fault
  | int {s : String} {fault : ScalarFault} (refused : intValue s = .error fault) :
      NoValue .int s fault
  | real {s : String} {fault : ScalarFault} (refused : realValue s = .error fault) :
      NoValue .real s fault
  | timestamp {s : String} {fault : ScalarFault} (refused : dateValue s = .error fault) :
      NoValue .timestamp s fault

theorem noValue_of_scalarValue {type : ScalarType} {s : String} {fault : ScalarFault}
    (h : scalarValue type s = .error (.scalar fault)) : NoValue type s fault := by
  have hcause {α β : Type} {x : Except ScalarFault α} {f : α → β}
      (hx : (x.mapError Fault.scalar).map f = .error (.scalar fault)) : x = .error fault := by
    cases x with
    | ok a => cases hx
    | error e =>
      cases hx
      rfl
  cases type with
  | bool => exact .bool (hcause h)
  | int => exact .int (hcause h)
  | real => exact .real (hcause h)
  | timestamp => exact .timestamp (hcause h)
  | binary =>
    simp only [scalarValue] at h
    split at h <;> cases h
  | null | text | merge | default | indicator => cases h

/-- Looking for the text of a node can only fail to end. -/
theorem eq_endless_of_scalarText {anchors : Anchors} {fuel : Nat} {node : Node}
    {fault : ScalarFault} (h : scalarText anchors fuel node = .error (.scalar fault)) :
    fault = .endless := by
  induction fuel generalizing node with
  | zero =>
    cases h
    rfl
  | succ fuel ih =>
    unfold scalarText at h
    split at h
    · cases h
    · split at h
      · exact ih h
      · cases h
    · cases h

/-- A node of a scalar type has no value. -/
inductive Unvalued (anchors : Anchors) (fuel : Nat) (type : ScalarType) (node : Node) :
    ScalarFault → Prop
  /-- Its text is that of a mapping that leads back to itself. -/
  | endless (back : scalarText anchors fuel node = .error (.scalar .endless)) :
      Unvalued anchors fuel type node .endless
  /-- It is a mapping where a date belongs. -/
  | mapping {text : String} {anchor : Option String} {tag : Tag} {entries : List (Node × Node)}
      (date : type = .timestamp) (collection : node = .mapping anchor tag entries)
      (content : scalarText anchors fuel node = .ok text) :
      Unvalued anchors fuel type node .noText
  /-- Its text is no value of the type. -/
  | text {text : String} {fault : ScalarFault} (content : scalarText anchors fuel node = .ok text)
      (refused : NoValue type text fault) : Unvalued anchors fuel type node fault

theorem unvalued_of_nodeValue {anchors : Anchors} {fuel : Nat} {type : ScalarType} {node : Node}
    {fault : ScalarFault} (h : nodeValue anchors fuel type node = .error (.scalar fault)) :
    Unvalued anchors fuel type node fault := by
  unfold nodeValue at h
  split at h
  · cases h
  rcases Except.bind_eq_error.1 h with htext | ⟨text, htext, h⟩
  · obtain rfl := eq_endless_of_scalarText htext
    exact .endless htext
  · split at h
    · cases h
      exact .mapping rfl rfl htext
    · exact .text htext (noValue_of_scalarValue h)

/-- Where the text of a node is found at once, the text is at fault. -/
theorem noValue_of_scalar {anchors : Anchors} {fuel : Nat} {type : ScalarType}
    {anchor : Option String} {tag : Tag} {plain : Bool} {text : String} {fault : ScalarFault}
    (h : Unvalued anchors (fuel + 1) type (.scalar anchor tag plain text) fault) :
    NoValue type text fault := by
  cases h with
  | endless back => cases back
  | mapping date collection content => cases collection
  | text content refused =>
    cases content
    exact refused

/-- A node of the document is of a scalar type and has no value. -/
inductive Node.HasFault (root : Node) (fault : ScalarFault) : Prop
  | intro {node : Node} {type : ScalarType} (part : Part root node)
      (typed : node.type = .scalar type)
      (unvalued : Unvalued root.anchored (root.count + 1) type node fault)

theorem hasFault_of_making {node : Node} (hmade : Made root node) {fault : ScalarFault}
    (h : makingFault? root.anchored (root.count + 1) node = some (.scalar fault)) :
    root.HasFault fault := by
  unfold makingFault? at h
  split at h
  · next type htype =>
    split at h
    · next hvalue =>
      cases h
      have hunvalued := unvalued_of_nodeValue hvalue
      cases hmade with
      | part part => exact .intro part htype hunvalued
      | text =>
        cases htype
        cases noValue_of_scalar hunvalued
      | blank =>
        cases htype
        cases noValue_of_scalar hunvalued
    · cases h
  · cases h
  · cases h

/-! ## Making a document

Each function here is given nodes that are made for the document and hands such nodes on. -/

/-- The entries of a mapping that is merged. -/
def mergedMapping (anchors : Anchors) (fuel : Nat) (node : Node) :
    Except Fault (List (Node × Node)) :=
  match anchors.target node with
  | .mapping _ _ entries => mergedEntries anchors fuel entries
  | _ => .error (.malformed .merge)

/-- The entries that a merge key with this value merges in. -/
def mergedValue (anchors : Anchors) (fuel : Nat) (value : Node) :
    Except Fault (List (Node × Node)) :=
  match anchors.target value with
  | .mapping .. => mergedMapping anchors fuel value
  | .sequence _ _ items => do
    let parts ← items.mapM (mergedMapping anchors fuel)
    return parts.reverse.flatten
  | _ => throw (.malformed .merge)

/-- Whether an entry has a merge key. -/
def isMerge (anchors : Anchors) (entry : Node × Node) : Bool :=
  (anchors.target entry.1).type = .scalar .merge

theorem mergedEntries_succ (anchors : Anchors) (fuel : Nat) (entries : List (Node × Node)) :
    mergedEntries anchors (fuel + 1) entries = (do
      let merged ← (entries.filter (isMerge anchors)).mapM fun e => mergedValue anchors fuel e.2
      return merged.flatten
        ++ (entries.filter (!isMerge anchors ·)).map fun e => (plainKey e.1, e.2)) :=
  rfl

theorem onlyRaises_mergedEntries (anchors : Anchors) (fuel : Nat) (entries : List (Node × Node)) :
    OnlyRaises P (mergedEntries anchors fuel entries) := by
  induction fuel generalizing entries with
  | zero => simp [mergedEntries]
  | succ fuel ih =>
    have hmapping (node : Node) : OnlyRaises P (mergedMapping anchors fuel node) := by
      unfold mergedMapping
      split <;> simp [ih]
    rw [mergedEntries_succ]
    simp only [onlyRaises_bind, onlyRaises_pure, implies_true, and_true]
    refine onlyRaises_mapM fun entry _ => ?_
    unfold mergedValue
    split
    · exact hmapping entry.2
    · simp only [onlyRaises_bind, onlyRaises_pure, implies_true, and_true]
      exact onlyRaises_mapM fun item _ => hmapping item
    · simp

/-- Merging with this fuel hands on what is made. -/
def MergesMade (root : Node) (fuel : Nat) : Prop :=
  ∀ entries merged, MadeEntries root entries →
    mergedEntries root.anchored fuel entries = .ok merged → MadeEntries root merged

theorem MergesMade.mapping {fuel : Nat} (h : MergesMade root fuel) {node : Node}
    (hnode : Made root node) {merged : List (Node × Node)}
    (hmerged : mergedMapping root.anchored fuel node = .ok merged) : MadeEntries root merged := by
  have htarget := hnode.target
  unfold mergedMapping at hmerged
  split at hmerged
  · next heq =>
    rw [heq] at htarget
    exact h _ _ htarget.entries hmerged
  · cases hmerged

theorem MergesMade.value {fuel : Nat} (h : MergesMade root fuel) {value : Node}
    (hvalue : Made root value) {merged : List (Node × Node)}
    (hmerged : mergedValue root.anchored fuel value = .ok merged) : MadeEntries root merged := by
  have htarget := hvalue.target
  unfold mergedValue at hmerged
  split at hmerged
  · exact h.mapping hvalue hmerged
  · next heq =>
    rw [heq] at htarget
    obtain ⟨parts, hparts, hflat⟩ := Except.bind_eq_ok.1 hmerged
    cases hflat
    intro e he
    obtain ⟨part, hpart, he⟩ := List.mem_flatten.1 he
    obtain ⟨item, hitem, hpart⟩ := Except.exists_of_mapM_eq_ok hparts (List.mem_reverse.1 hpart)
    exact h.mapping (htarget.item item hitem) hpart e he
  · cases hmerged

/-- An entry that is merged in comes from the value of a merge key, and that value is made. -/
theorem mergesMade (root : Node) (fuel : Nat) : MergesMade root fuel := by
  induction fuel with
  | zero =>
    intro entries merged _ h
    cases h
    nofun
  | succ fuel ih =>
    intro entries merged hentries h
    rw [mergedEntries_succ] at h
    obtain ⟨parts, hparts, hmerged⟩ := Except.bind_eq_ok.1 h
    cases hmerged
    intro e he
    rcases List.mem_append.1 he with he | he
    · obtain ⟨part, hpart, he⟩ := List.mem_flatten.1 he
      obtain ⟨entry, hentry, hpart⟩ := Except.exists_of_mapM_eq_ok hparts hpart
      exact ih.value (hentries entry (List.mem_filter.1 hentry).1).2 hpart e he
    · obtain ⟨entry, hentry, rfl⟩ := List.mem_map.1 he
      obtain ⟨hkey, hvalue⟩ := hentries entry (List.mem_filter.1 hentry).1
      exact ⟨hkey.plainKey, hvalue⟩

/-- The nodes that tasks make are made for the document. -/
def MadeAll (root : Node) (tasks : List Task) : Prop :=
  ∀ node isKey, .make node isKey ∈ tasks → Made root node

theorem onlyRaises_contents (anchors : Anchors) (fuel : Nat) (node : Node) :
    OnlyRaises P (contents anchors fuel node) := by
  unfold contents
  split <;> simp [onlyRaises_mergedEntries]

theorem madeAll_flatMap {α : Type} {xs : List α} {tasks : α → List Task}
    (h : ∀ x ∈ xs, MadeAll root (tasks x)) : MadeAll root (xs.flatMap tasks) := by
  intro node isKey hmem
  obtain ⟨x, hx, hmem⟩ := List.mem_flatMap.1 hmem
  exact h x hx node isKey hmem

theorem madeAll_pair {key value : Node} (hkey : Made root key) (hvalue : Made root value)
    (isKey : Bool) : MadeAll root [.make key isKey, .make value false] := by
  intro node isKey' hmem
  rcases List.mem_cons.1 hmem with heq | hmem
  · cases heq
    exact hkey
  · cases List.mem_singleton.1 hmem
    exact hvalue

theorem madeAll_pairTasks {item : Node} (h : Made root item) :
    MadeAll root (pairTasks root.anchored item) := by
  have htarget := h.target
  unfold pairTasks
  split
  · next heq =>
    rw [heq] at htarget
    obtain ⟨hkey, hvalue⟩ := htarget.entries _ List.mem_cons_self
    exact madeAll_pair hkey hvalue false
  · intro node isKey hmem
    cases List.mem_singleton.1 hmem

theorem madeAll_of_contents {fuel : Nat} {node : Node} (hnode : Made root node)
    {tasks : List Task} (h : contents root.anchored fuel node = .ok tasks) :
    MadeAll root tasks := by
  unfold contents at h
  split at h
  · cases h
    intro node isKey hmem
    obtain ⟨item, hitem, heq⟩ := List.mem_map.1 hmem
    cases heq
    exact hnode.item _ hitem
  · obtain ⟨entries, hentries, htasks⟩ := Except.bind_eq_ok.1 h
    cases htasks
    have hmade := mergesMade root fuel _ _ hnode.entries hentries
    exact madeAll_flatMap fun e he => madeAll_pair (hmade e he).1 (hmade e he).2 true
  · obtain ⟨entries, hentries, htasks⟩ := Except.bind_eq_ok.1 h
    cases htasks
    have hmade := mergesMade root fuel _ _ hnode.entries hentries
    exact madeAll_flatMap fun e he => madeAll_pair (hmade e he).1 (hmade e he).2 true
  · cases h
    exact madeAll_flatMap fun item hitem => madeAll_pairTasks (hnode.item item hitem)
  · cases h

theorem MadeAll.tail {task : Task} {rest : List Task} (h : MadeAll root (task :: rest)) :
    MadeAll root rest :=
  fun node isKey hmem => h node isKey (List.mem_cons_of_mem task hmem)

/-- The anchor of a node that is no alias. -/
def Node.anchor? : Node → Option String
  | .scalar anchor .. | .sequence anchor .. | .mapping anchor .. => anchor
  | .reference _ => none

theorem makeAll_cons (anchors : Anchors) (fuel : Nat) (node : Node) (isKey : Bool)
    (rest : List Task) (seen : List String) :
    makeAll anchors fuel (.make node isKey :: rest) seen = (do
      let made := anchors.target node
      let known := made.anchor?.any seen.contains
      if !known then
        if let some fault := makingFault? anchors fuel made then throw fault
      if isKey && isCollection made.type then throw (.malformed .unhashableKey)
      let (seen, later) ←
        makeAll anchors fuel rest (if known then seen else made.anchor?.toList ++ seen)
      return (seen, if !known && isCollection made.type then made :: later else later)) :=
  rfl

/-- Making the first node raises its fault, or finds that it is no key, or goes on with the
others. A collection may be kept for later. -/
theorem makeAll_cons_cases (anchors : Anchors) (fuel : Nat) (node : Node) (isKey : Bool)
    (rest : List Task) (seen : List String) :
    (∃ fault, makingFault? anchors fuel (anchors.target node) = some fault ∧
      makeAll anchors fuel (.make node isKey :: rest) seen = .error fault) ∨
    makeAll anchors fuel (.make node isKey :: rest) seen = .error (.malformed .unhashableKey) ∨
    ∃ (seen' : List String) (kept : Bool), makeAll anchors fuel (.make node isKey :: rest) seen = (do
      let made ← makeAll anchors fuel rest seen'
      return (made.1, if kept then anchors.target node :: made.2 else made.2)) := by
  generalize hresult : makeAll anchors fuel (.make node isKey :: rest) seen = result
  rw [makeAll_cons] at hresult
  dsimp only at hresult
  generalize Option.any seen.contains _ = known at hresult
  generalize (if known = true then seen else _) = seen' at hresult
  split at hresult
  · split at hresult
    · next fault hfault => exact .inl ⟨fault, hfault, hresult.symm⟩
    · split at hresult
      · exact .inr (.inl hresult.symm)
      · exact .inr (.inr ⟨seen', _, hresult.symm⟩)
  · split at hresult
    · exact .inr (.inl hresult.symm)
    · exact .inr (.inr ⟨seen', _, hresult.symm⟩)

theorem onlyRaises_makeAll {tasks : List Task} (htasks : MadeAll root tasks)
    (seen : List String) :
    OnlyRaises root.HasFault (makeAll root.anchored (root.count + 1) tasks seen) := by
  induction tasks generalizing seen with
  | nil => exact onlyRaises_ok _
  | cons task rest ih =>
    cases task with
    | misfit => exact onlyRaises_malformed _
    | make node isKey =>
      have htarget := (htasks node isKey List.mem_cons_self).target
      rcases makeAll_cons_cases root.anchored (root.count + 1) node isKey rest seen with
        ⟨fault, hfault, hmade⟩ | hmade | ⟨seen', kept, hmade⟩
      · intro cause hcause
        obtain rfl : fault = .scalar cause := Except.error.inj (hmade.symm.trans hcause)
        exact hasFault_of_making htarget hfault
      · rw [hmade]
        exact onlyRaises_malformed _
      · rw [hmade]
        simp [ih htasks.tail]

theorem made_of_makeAll {tasks : List Task} (htasks : MadeAll root tasks) {fuel : Nat}
    {seen : List String} {made : List String × List Node}
    (h : makeAll root.anchored fuel tasks seen = .ok made) : ∀ node ∈ made.2, Made root node := by
  induction tasks generalizing seen made with
  | nil =>
    cases h
    nofun
  | cons task rest ih =>
    cases task with
    | misfit => cases h
    | make node isKey =>
      have htarget := (htasks node isKey List.mem_cons_self).target
      rcases makeAll_cons_cases root.anchored fuel node isKey rest seen with
        ⟨fault, -, hmade⟩ | hmade | ⟨seen', kept, hmade⟩
      · cases hmade.symm.trans h
      · cases hmade.symm.trans h
      · obtain ⟨others, hothers, hboth⟩ := Except.bind_eq_ok.1 (hmade.symm.trans h)
        cases hboth
        have hlater := ih htasks.tail hothers
        split
        · exact List.forall_mem_cons.2 ⟨htarget, hlater⟩
        · exact hlater

/-- A fault of filling collections is that of a node of the document. What was made and is to be
filled later is carried along. -/
theorem hasFault_of_filling {fuel : Nat} {seen : List String} {queue : List Node}
    (hqueue : ∀ node ∈ queue, Made root node) {fault : ScalarFault}
    (h : fillingFault? root.anchored (root.count + 1) fuel seen queue = some (.scalar fault)) :
    root.HasFault fault := by
  induction fuel generalizing seen queue with
  | zero => cases h
  | succ fuel ih =>
    cases queue with
    | nil => cases h
    | cons node queue =>
      obtain ⟨hnode, hqueue⟩ := List.forall_mem_cons.1 hqueue
      rw [fillingFault?] at h
      split at h
      · next hmade =>
        cases h
        rcases Except.bind_eq_error.1 hmade with hcontents | ⟨tasks, hcontents, hmade⟩
        · exact onlyRaises_contents root.anchored _ node fault hcontents
        · exact onlyRaises_makeAll (madeAll_of_contents hnode hcontents) seen fault hmade
      · next seen' later hmade =>
        obtain ⟨tasks, hcontents, hmade⟩ := Except.bind_eq_ok.1 hmade
        have hlater := made_of_makeAll (madeAll_of_contents hnode hcontents) hmade
        refine ih (fun node hmem => ?_) h
        rcases List.mem_append.1 hmem with hmem | hmem
        · exact hqueue node hmem
        · exact hlater node hmem

/-- What keeps a text that is not malformed from having a value. -/
inductive Valueless (text : String) (fault : ScalarFault) : Prop
  | escape (unread : read text = .error (.scalar fault)) (number : EscapeFault fault)
  | node {root : Node} (document : read text = .ok (some root)) (faulty : root.HasFault fault)

/-- **Where loading finds a scalar without a value, there is one**: an escape with a number that
no character has, or a node of the document that has no value of its type. -/
theorem valueless_of_load {text : String} {fault : ScalarFault}
    (h : load text = .error (.scalar fault)) : Valueless text fault := by
  rcases Except.bind_eq_error.1 h with hread | ⟨document, hread, h⟩
  · exact .escape hread (onlyRaises_read text fault hread)
  cases document with
  | none => cases h
  | some root =>
    refine .node hread ?_
    have hroot : MadeAll root [.make root false] := by
      intro node isKey hmem
      cases List.mem_singleton.1 hmem
      exact .part .root
    rcases Except.bind_eq_error.1 h with hmade | ⟨⟨seen, later⟩, hmade, h⟩
    · exact onlyRaises_makeAll hroot [] fault hmade
    · dsimp only at h
      split at h
      · next hfilling =>
        cases h
        exact hasFault_of_filling (made_of_makeAll hroot hmade) hfilling
      · cases h

end ServiceSchema.Yaml
