import VariableNaming.Proofs.Derivation.Fallback
import VariableNaming.Proofs.TypeStore.Bookkeeping

/-!
# What a question leaves behind

To ask for a name is to look types up, with one exception: an array that is met at run time may be
of a type which is not there yet.  That type is put in when everything that could go wrong has gone
right.  So a question without an answer leaves nothing behind, and one with an answer leaves at most
the type of an array that a collection showed first.

* `TypeStore.Keeps` — what is the same in the store after a question.
* `Inquiry.LooksInto` — the questions that are decided by what is in a collection.
* `Inquiry.MeetsNewArray` — those of them that meet an array whose type is not there.
* `store_answer_cases`, `MeetsNewArray.store_answer` — only these leave anything behind, and they do
  so whenever they are answered.
* `store_answer_run` — **all that a question does to a store.**
-/

set_option autoImplicit false

namespace VariableNaming

/-! ## What is kept -/

/-- The descriptions of types, the types of names and the array types of the first store are those
of the second, which may have more descriptions and array types. -/
structure TypeStore.Keeps (s s' : TypeStore) : Prop where
  get? {t : TypeId} {info : TypeInfo} (h : s.get? t = some info) : s'.get? t = some info
  find? (name : String) : s'.find? name = s.find? name
  arrays {c a : TypeId} (h : s.arrays[c]? = some a) : s'.arrays[c]? = some a

namespace TypeStore

variable {s : TypeStore} {n : Nat}

theorem Keeps.refl (s : TypeStore) : s.Keeps s where
  get? h := h
  find? _ := rfl
  arrays h := h

/-- An array type that is put in comes beside what there was. -/
theorem Numbered.keeps_arrayOf (h : s.Numbered n) (c : TypeId) : s.Keeps (s.arrayOf c).2 where
  get? ht := h.get?_grow ht (.arrayOf c)
  find? name := by rw [TypeStore.find?, TypeStore.find?, names_arrayOf]
  arrays ha := arrays_grow ha (.arrayOf c)

theorem Numbered.size_arrayOf_of_none (h : s.Numbered n) {c : TypeId} (hc : s.arrays[c]? = none) :
    (s.arrayOf c).2.size = s.size + 1 := by
  have hsize := h.size_grow (.arrayOf c)
  rwa [allocates, if_pos hc] at hsize

/-- Which array type was put in can be told from the store. -/
theorem eq_of_arrayOf_eq {c d : TypeId} (hd : s.arrays[d]? = none)
    (h : (s.arrayOf c).2 = (s.arrayOf d).2) : d = c := by
  by_contra hne
  have hc : (s.arrayOf c).2.arrays[d]? = none := by rw [arrays_arrayOf, if_neg hne, hd]
  rw [h, arrays_arrayOf, if_pos rfl] at hc
  cases hc

end TypeStore

/-! ## Looking into a collection -/

/-- The name is taken from what is in a collection: the question is about the collection, or it is
about the collection that a method returned, whose return type is the top type or a collection of
nothing in particular. -/
inductive Inquiry.LooksInto (s : TypeStore) (c : Container Value) : Inquiry → Prop
  | value (t : TypeId) : LooksInto s c (.value (.collection t c))
  | object (m : Method) (t : TypeId) : LooksInto s c (.returned m .object (some (.collection t c)))
  | untyped {m : Method} {resolved : TypeId} (hobject : resolved ≠ .object)
      (h : s.Untyped resolved (m.declarationOf resolved)) (t : TypeId) :
      LooksInto s c (.returned m resolved (some (.collection t c)))

/-- The question looks into a collection whose first element is an array over the component, and
there is no array type over it yet. -/
def Inquiry.MeetsNewArray (s : TypeStore) (component : TypeId) (q : Inquiry) : Prop :=
  s.arrays[component]? = none ∧
    ∃ c elements rest, q.LooksInto s c ∧ c.items = .array component elements :: rest

theorem Value.container?_eq_none_iff {v : Value} :
    v.container? = none ↔ ∀ t c, v ≠ .collection t c := by
  cases v <;> simp [container?]

theorem Container.firstClass_eq_arrayOver_iff {c : Container Value} {component : TypeId} :
    c.firstClass = .ok (.arrayOver component) ↔
      ∃ elements rest, c.items = .array component elements :: rest := by
  obtain ⟨reportsEmpty, items⟩ := c
  rcases items with _ | ⟨v, rest⟩
  · simp [firstClass]
  · cases v <;> simp [firstClass, Value.runtimeClass?]

section Looking

variable {s : TypeStore} {r : AdapterRegistry} {d : Derivation}

/-- The name for a collection is the plural for the class of its first element. -/
theorem exists_class_of_ofValue {t : TypeId} {c : Container Value}
    (h : Derivation.ofValue s (.collection t c) = .ok d) :
    ∃ k, c.firstClass = .ok k ∧ d = .plural (.runtime k) := by
  rw [Derivation.ofValue] at h
  split at h
  · cases h
  · obtain ⟨k, hk, rfl⟩ := map_eq_ok_iff.1 h
    exact ⟨k, mapError_eq_ok_iff.1 hk, rfl⟩

/-- So is every name that is taken from what is in a collection. -/
theorem Inquiry.LooksInto.exists_class {q : Inquiry} {c : Container Value} (hq : q.LooksInto s c)
    (h : q.derive s r = .ok d) : ∃ k, c.firstClass = .ok k ∧ d = .plural (.runtime k) := by
  cases hq with
  | value t => exact exists_class_of_ofValue h
  | object m t => exact exists_class_of_ofValue h
  | untyped hobject huntyped t =>
    rw [derive_returned_of_untyped r hobject huntyped] at h
    exact exists_class_of_ofValue (mapError_eq_ok_iff.1 h)

/-! ## Looking nowhere else -/

/-- The name for a value that is no collection is written without another type. -/
theorem store_write_of_ofValue {v : Value} (hv : v.container? = none)
    (h : Derivation.ofValue s v = .ok d) : (d.write s).2 = s := by
  cases v with
  | null => cases h
  | object t =>
    cases h
    rfl
  | array c elements =>
    cases h
    rfl
  | collection t c => cases hv

/-- So is the name for a declaration that tells enough. -/
theorem store_write_of_not_untyped {site : Site} {resolved : TypeId} {rest : List ElementSource}
    {unresolved : Diagnostic} (htyped : ¬ s.Untyped resolved site.declared)
    (h : Derivation.ofDeclaration s r site resolved (.declaration :: rest) unresolved = .ok d) :
    (d.write s).2 = s := by
  obtain ⟨d', hstore, hd'⟩ := exists_ofDeclaration_of_not_untyped r htyped
  obtain rfl : d' = d := Except.ok.inj ((hd' site rfl rest unresolved).symm.trans h)
  exact hstore

theorem not_refuses_of_derive {q : Inquiry} (h : q.derive s r = .ok d) (route : Route)
    (subject : String) (code : Nat) : ¬ Refuses (q.answer s r).answer route subject code := by
  rw [Inquiry.answer_of_derive h]
  exact not_refuses_ok

/-- **Every other name is written without another type.** -/
theorem Inquiry.store_write_of_not_looksInto {q : Inquiry} (hq : ∀ c, ¬ q.LooksInto s c)
    (h : q.derive s r = .ok d) : (d.write s).2 = s := by
  cases q with
  | value v =>
    refine store_write_of_ofValue (Value.container?_eq_none_iff.2 ?_) h
    rintro t c rfl
    exact hq c (.value t)
  | parameter p =>
    refine store_write_of_not_untyped (fun huntyped => ?_) h
    exact not_refuses_of_derive h _ _ _ (refuses_parameter_of_untyped huntyped)
  | returned m resolved v =>
    by_cases hobject : resolved = .object
    · subst hobject
      by_cases hnothing : v = none ∨ v = some .null
      · rw [derive_returned_object_of_nothing s r m hnothing] at h
        cases h
      · obtain ⟨w, rfl, hw⟩ := exists_value_of_not_nothing hnothing
        rw [derive_returned_object_of_value s r m hw] at h
        refine store_write_of_ofValue (Value.container?_eq_none_iff.2 ?_) h
        rintro t c rfl
        exact hq c (.object m t)
    · have hderive := (derive_returned_of_ne_object s r m hobject v).symm.trans h
      refine store_write_of_not_untyped (fun huntyped => ?_) hderive
      -- only a collection can tell the elements then, and there is none to look into
      have hother : v.bind Value.container? = none := by
        rw [Option.bind_eq_none_iff]
        rintro w rfl
        refine Value.container?_eq_none_iff.2 ?_
        rintro t c rfl
        exact hq c (.untyped hobject huntyped t)
      exact not_refuses_of_derive h _ _ _
        ((refuses_returned_of_untyped_iff hobject huntyped).2 (.other hother))

end Looking

/-! ## The store after a question -/

section Stores

variable {s : TypeStore} {r : AdapterRegistry} {q : Inquiry}

theorem exists_derive_of_answer {called : Option String}
    (h : (q.answer s r).answer = .ok called) : ∃ d, q.derive s r = .ok d := by
  rw [TypeStore.answer_answer] at h
  obtain ⟨d, hd, -⟩ := map_eq_ok_iff.1 h
  exact ⟨d, hd⟩

/-- A question without an answer leaves nothing behind. -/
theorem store_answer_of_error {e : NamingError} (h : (q.answer s r).answer = .error e) :
    (q.answer s r).store = s := by
  rw [TypeStore.answer_answer, map_eq_error_iff] at h
  rw [Inquiry.answer_of_derive_eq_error h]

/-- **A question leaves nothing behind unless it meets a new array**, and then at most its type. -/
theorem store_answer_cases (s : TypeStore) (r : AdapterRegistry) (q : Inquiry) :
    (q.answer s r).store = s ∨
      ∃ c, q.MeetsNewArray s c ∧ (q.answer s r).store = (s.arrayOf c).2 := by
  cases hd : q.derive s r with
  | error e => exact Or.inl (congrArg Outcome.store (Inquiry.answer_of_derive_eq_error hd))
  | ok d =>
    rw [Inquiry.answer_of_derive hd]
    by_cases hlooks : ∃ c, q.LooksInto s c
    · obtain ⟨c, hc⟩ := hlooks
      obtain ⟨k, hk, rfl⟩ := hc.exists_class hd
      cases k with
      | ofType t => exact Or.inl rfl
      | arrayOver component =>
        show (s.arrayOf component).2 = s ∨ _
        cases hold : s.arrays[component]? with
        | some a => exact Or.inl (by rw [TypeStore.arrayOf_of_some hold])
        | none =>
          obtain ⟨elements, rest, hitems⟩ := Container.firstClass_eq_arrayOver_iff.1 hk
          exact Or.inr ⟨component, ⟨hold, c, elements, rest, hc, hitems⟩, rfl⟩
    · exact Or.inl (Inquiry.store_write_of_not_looksInto (not_exists.1 hlooks) hd)

/-- A question that meets a new array leaves its type behind, if it is answered. -/
theorem Inquiry.MeetsNewArray.store_answer {c : TypeId} (hq : q.MeetsNewArray s c)
    {called : Option String} (h : (q.answer s r).answer = .ok called) :
    (q.answer s r).store = (s.arrayOf c).2 := by
  obtain ⟨-, container, elements, rest, hlooks, hitems⟩ := hq
  obtain ⟨d, hd⟩ := exists_derive_of_answer h
  obtain ⟨k, hk, rfl⟩ := hlooks.exists_class hd
  have harray := Container.firstClass_eq_arrayOver_iff.2 ⟨elements, rest, hitems⟩
  obtain rfl : k = .arrayOver c := Except.ok.inj (hk.symm.trans harray)
  exact congrArg Outcome.store (Inquiry.answer_of_derive hd)

/-- A question for a parameter meets no value. -/
theorem not_meetsNewArray_parameter (p : Parameter) (c : TypeId) :
    ¬ (Inquiry.parameter p).MeetsNewArray s c := by
  rintro ⟨-, container, elements, rest, hlooks, -⟩
  cases hlooks

end Stores

/-! ## Runs -/

namespace TypeStore

/-- **All that a question does to a store** which has been filled by a run: descriptions, names and
array types stay as they are; a question without an answer, and one for a parameter, leave
everything as it is; a question with an answer puts in the array type over a component just when the
answer is taken from a collection, the first element of the collection is an array over the
component, and there is no array type over it yet; and otherwise it, too, leaves everything as it
is. -/
theorem store_answer_run (gs : List Growth) (hroom : initial.allocations gs < room)
    (r : AdapterRegistry) (q : Inquiry) :
    let s := initial.run gs
    let outcome := q.answer s r
    s.Keeps outcome.store ∧
    (∀ e, outcome.answer = .error e → outcome.store = s) ∧
    (∀ p, q = .parameter p → outcome.store = s) ∧
    ∀ called : Option String, outcome.answer = .ok called →
      (∀ c, (outcome.store = (s.arrayOf c).2 ∧ outcome.store.size = s.size + 1) ↔
        q.MeetsNewArray s c) ∧
      ((∀ c, ¬ q.MeetsNewArray s c) → outcome.store = s) := by
  intro s outcome
  have hn : s.Numbered (initial.allocations gs) := numbered_run gs hroom
  have hcases : outcome.store = s ∨
      ∃ c, q.MeetsNewArray s c ∧ outcome.store = (s.arrayOf c).2 := store_answer_cases s r q
  have hunmet (h : ∀ c, ¬ q.MeetsNewArray s c) : outcome.store = s :=
    hcases.resolve_right fun ⟨c, hc, _⟩ => h c hc
  refine ⟨?_, fun e => store_answer_of_error, ?_, fun called hcalled => ⟨fun c => ⟨?_, ?_⟩, hunmet⟩⟩
  · rcases hcases with hstore | ⟨c, -, hstore⟩ <;> rw [hstore]
    · exact .refl s
    · exact hn.keeps_arrayOf c
  · rintro p rfl
    exact hunmet (not_meetsNewArray_parameter p)
  · rintro ⟨hstore, hsize⟩
    rcases hcases with hsame | ⟨d, hd, hother⟩
    · rw [hsame] at hsize
      omega
    · obtain rfl := eq_of_arrayOf_eq hd.1 (hstore.symm.trans hother)
      exact hd
  · intro hc
    have hstore : outcome.store = (s.arrayOf c).2 := hc.store_answer hcalled
    exact ⟨hstore, by rw [hstore, hn.size_arrayOf_of_none hc.1]⟩

/-- A collection of one empty array over a component. -/
def oneArray (component : TypeId) : Container Value := ⟨false, [.array component []]⟩

/-- The inventory is a collection of nothing in particular, so that what is returned for it decides.
An array over a type of which there are arrays already leaves nothing behind, and one over another
type leaves one type behind. -/
theorem store_returnedInventory :
    initial.allocations stockRun < room ∧
      (returnedInventory (oneArray ⟨3⟩)).store = initial.run stockRun ∧
      (returnedInventory (oneArray ⟨2⟩)).store = ((initial.run stockRun).arrayOf ⟨2⟩).2 ∧
      (returnedInventory (oneArray ⟨2⟩)).store.size = (initial.run stockRun).size + 1 := by
  have hroom : initial.allocations stockRun < room := by decide
  have hobject : (⟨2⟩ : TypeId) ≠ .object := by decide
  have hanswer (c : TypeId) : ∃ called, (returnedInventory (oneArray c)).answer = .ok called := by
    rw [returnedInventory, answer_returned_eq_mapError .empty hobject untyped_inventory]
    exact ⟨_, rfl⟩
  have hlooks (c : TypeId) : (Inquiry.returned inventory ⟨2⟩
      (some (.collection ⟨2⟩ (oneArray c)))).LooksInto (initial.run stockRun) (oneArray c) :=
    .untyped hobject untyped_inventory ⟨2⟩
  have hstore (c : TypeId) := (store_answer_run stockRun hroom .empty
    (.returned inventory ⟨2⟩ (some (.collection ⟨2⟩ (oneArray c))))).2.2.2
  obtain ⟨old, hold⟩ := hanswer ⟨3⟩
  obtain ⟨new, hnew⟩ := hanswer ⟨2⟩
  refine ⟨hroom, (hstore ⟨3⟩ old hold).2 ?_, ((hstore ⟨2⟩ new hnew).1 ⟨2⟩).2 ?_⟩
  · rintro c ⟨hnone, container, elements, rest, hinto, hitems⟩
    cases hinto
    obtain ⟨hfirst, -⟩ := List.cons.inj hitems
    cases hfirst
    exact absurd hnone (by decide)
  · exact ⟨by decide, oneArray ⟨2⟩, [], [], hlooks ⟨2⟩, rfl⟩

end TypeStore
end VariableNaming
