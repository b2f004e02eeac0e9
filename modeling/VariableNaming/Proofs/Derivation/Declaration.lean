import VariableNaming.Derivation.Inquiry

/-!
# The routes from a declaration to a name

A declared type is an array, or like a collection, or neither, and this decides how a name is made
for it.  What has to be known of each route is collected here, so that the routes need not be gone
through again.

* `findElement_of_elementType?`, `findElement_of_elementType?_eq_none` — what the sources of an
  element type tell.
* `ofDeclaration_of_component`, `ofDeclaration_of_isCollectionLike`, `ofDeclaration_of_scalar` — the
  three routes, and `ofDeclaration_cases` with all of them.
* `Inquiry.declaredType?` — the declared type that decides a question, and `TypeStore.Wraps`, the
  types that are called after what they wrap.
* `answer_answer` — the answer to a question is the name that its derivation writes.
-/

set_option autoImplicit false

namespace VariableNaming

/-! ## Mapped answers -/

section Mapped

variable {ε ε' α β : Type}

/-- What comes out of a mapped answer came out of the answer. -/
theorem map_eq_ok_iff {f : α → β} {x : Except ε α} {b : β} :
    x.map f = .ok b ↔ ∃ a, x = .ok a ∧ f a = b := by
  cases x <;> simp [Except.map]

theorem map_eq_error_iff {f : α → β} {x : Except ε α} {e : ε} :
    x.map f = .error e ↔ x = .error e := by
  cases x <;> simp [Except.map]

theorem mapError_eq_ok_iff {f : ε → ε'} {x : Except ε α} {a : α} :
    x.mapError f = .ok a ↔ x = .ok a := by
  constructor
  · intro h
    cases x with
    | error e => cases h
    | ok b => exact congrArg Except.ok (Except.ok.inj h)
  · rintro rfl
    rfl

end Mapped

/-! ## The sources of an element type -/

section Sources

variable {s : TypeStore} {site : Site} (unresolved : Diagnostic) (rest : List ElementSource)

/-- A declaration that tells the element type is not asked any further. -/
theorem findElement_of_elementType? {e : TypeId} (h : s.elementType? site.declared = some e) :
    findElement s site unresolved (.declaration :: rest) = .ok (.declared e) := by
  rw [findElement, ElementSource.find, h]
  rfl

/-- One that does not leaves it to the other sources. -/
theorem findElement_of_elementType?_eq_none (h : s.elementType? site.declared = none) :
    findElement s site unresolved (.declaration :: rest) = findElement s site unresolved rest := by
  rw [findElement, ElementSource.find, h]
  rfl

/-- A value leaves nothing to the sources after it. -/
theorem findElement_value_cons (s : TypeStore) (site : Site) :
    findElement s site unresolved (.value :: rest) =
      (ElementSource.classInValue site).map .runtime := by
  rw [findElement, ElementSource.find]
  cases ElementSource.classInValue site <;> rfl

end Sources

/-! ## The three routes -/

namespace AdapterRegistry

/-- Whether the nearest adapter of a type is one for a wrapper that produces values. -/
def unwraps (r : AdapterRegistry) (s : TypeStore) (t : TypeId) : Bool :=
  (r.nearest? s t).any (!·.isNoValue)

end AdapterRegistry

section Routes

variable {s : TypeStore} (r : AdapterRegistry) (site : Site) {resolved : TypeId}
  (sources : List ElementSource) (unresolved : Diagnostic)

/-- An array is called after its component. -/
theorem ofDeclaration_of_component {c : TypeId} (h : s.component? resolved = some c) :
    Derivation.ofDeclaration s r site resolved sources unresolved =
      .ok (.plural (.declared c)) := by
  rw [Derivation.ofDeclaration, h]

/-- What is like a collection is called after its elements. -/
theorem ofDeclaration_of_isCollectionLike (hnone : s.component? resolved = none)
    (h : s.isCollectionLike resolved = true) :
    Derivation.ofDeclaration s r site resolved sources unresolved =
      (findElement s site unresolved sources).map .plural := by
  rw [Derivation.ofDeclaration, hnone]
  exact if_pos h

/-- Everything else is called after itself, if it is not unwrapped. -/
theorem ofDeclaration_of_scalar (hnone : s.component? resolved = none)
    (h : s.isCollectionLike resolved = false) :
    Derivation.ofDeclaration s r site resolved sources unresolved =
      .ok (if r.unwraps s resolved then .wrapped (site.declared.argOrObject 0) resolved
        else .single (.declared resolved)) := by
  rw [Derivation.ofDeclaration, hnone]
  rcases Option.eq_none_or_eq_some (r.nearest? s resolved) with hnear | ⟨a, hnear⟩
  · simp [h, AdapterRegistry.unwraps, hnear]
  · cases ha : a.isNoValue <;> simp [h, AdapterRegistry.unwraps, hnear, ha]

variable (s resolved)

/-- There is no fourth route. -/
theorem ofDeclaration_cases :
    (∃ c, s.component? resolved = some c ∧
      Derivation.ofDeclaration s r site resolved sources unresolved =
        .ok (.plural (.declared c))) ∨
    (s.component? resolved = none ∧ s.isCollectionLike resolved = true ∧
      Derivation.ofDeclaration s r site resolved sources unresolved =
        (findElement s site unresolved sources).map .plural) ∨
    (s.component? resolved = none ∧ s.isCollectionLike resolved = false ∧
      Derivation.ofDeclaration s r site resolved sources unresolved =
        .ok (if r.unwraps s resolved then .wrapped (site.declared.argOrObject 0) resolved
          else .single (.declared resolved))) := by
  cases hc : s.component? resolved with
  | some c => exact Or.inl ⟨c, rfl, ofDeclaration_of_component r site sources unresolved hc⟩
  | none =>
    right
    cases hlike : s.isCollectionLike resolved with
    | true =>
      exact Or.inl
        ⟨rfl, rfl, ofDeclaration_of_isCollectionLike r site sources unresolved hc hlike⟩
    | false =>
      exact Or.inr ⟨rfl, rfl, ofDeclaration_of_scalar r site sources unresolved hc hlike⟩

end Routes

/-! ## Questions about a declared type -/

/-- The type at the head of the declaration that a question is about.  A question about a value has
none, nor has one about what a method returns if that is the top type: only the value counts
then. -/
def Inquiry.declaredType? : Inquiry → Option TypeId
  | value _ => none
  | parameter p => some p.rawType
  | returned _ resolved _ => if resolved = .object then none else some resolved

/-- The type is called after what it wraps: it is no array and not like a collection, and its
nearest adapter is one for a wrapper that produces values. -/
structure TypeStore.Wraps (s : TypeStore) (r : AdapterRegistry) (t : TypeId) : Prop where
  component?_eq_none : s.component? t = none
  not_isCollectionLike : s.isCollectionLike t = false
  unwraps : r.unwraps s t = true

namespace Inquiry

variable {q : Inquiry} {t : TypeId}

/-- A question about a declared type is decided by the declaration. -/
theorem exists_derive_eq_ofDeclaration (h : q.declaredType? = some t) :
    ∃ site sources unresolved, ∀ s r,
      q.derive s r = Derivation.ofDeclaration s r site t sources unresolved := by
  cases q with
  | value v => cases h
  | parameter p =>
    obtain rfl := Option.some.inj h
    exact ⟨_, _, _, fun s r => rfl⟩
  | returned m resolved v =>
    rw [declaredType?] at h
    split at h
    · cases h
    · rename_i hne
      obtain rfl := Option.some.inj h
      exact ⟨_, _, _, fun s r => if_neg hne⟩

section Returned

variable (s : TypeStore) (r : AdapterRegistry) (m : Method)

/-- For the top type something has to be returned, and the null value does not count. -/
theorem derive_returned_object_of_nothing {v : Option Value} (h : v = none ∨ v = some .null) :
    (returned m .object v).derive s r = .error ⟨.returnType, m.name, .objectReturnNoValue⟩ := by
  rcases h with rfl | rfl <;> rfl

/-- Then the value decides alone. -/
theorem derive_returned_object_of_value {v : Value} (h : v ≠ .null) :
    (returned m .object (some v)).derive s r = Derivation.ofValue s v := by
  cases v with
  | null => exact absurd rfl h
  | _ => rfl

/-- For every other type the declaration comes first. -/
theorem derive_returned_of_ne_object {resolved : TypeId} (h : resolved ≠ .object)
    (v : Option Value) :
    (returned m resolved v).derive s r =
      Derivation.ofDeclaration s r (m.returnSite resolved v) resolved ElementSource.ofReturnType
        .untypedReturnOtherValue :=
  if_neg h

theorem exists_value_of_not_nothing {v : Option Value} (h : ¬ (v = none ∨ v = some .null)) :
    ∃ w, v = some w ∧ w ≠ .null := by
  obtain ⟨hnone, hnull⟩ := not_or.1 h
  obtain ⟨w, rfl⟩ := Option.ne_none_iff_exists'.1 hnone
  exact ⟨w, rfl, fun heq => hnull (congrArg some heq)⟩

end Returned

/-- Every other question is decided by a value, or fails for want of one. -/
theorem derive_eq_of_declaredType?_eq_none (h : q.declaredType? = none) :
    (∃ v, ∀ s r, q.derive s r = Derivation.ofValue s v) ∨ ∃ e, ∀ s r, q.derive s r = .error e := by
  cases q with
  | value v => exact Or.inl ⟨v, fun s r => rfl⟩
  | parameter p => cases h
  | returned m resolved v =>
    rw [declaredType?] at h
    split at h
    · rename_i hobject
      subst hobject
      by_cases hnothing : v = none ∨ v = some .null
      · exact Or.inr ⟨_, fun s r => derive_returned_object_of_nothing s r m hnothing⟩
      · obtain ⟨w, rfl, hw⟩ := exists_value_of_not_nothing hnothing
        exact Or.inl ⟨w, fun s r => derive_returned_object_of_value s r m hw⟩
    · cases h

end Inquiry

/-- A value is never unwrapped. -/
theorem ofValue_ne_wrapped (s : TypeStore) (v : Value) (element wrapper : TypeId) :
    Derivation.ofValue s v ≠ .ok (.wrapped element wrapper) := by
  intro h
  cases v with
  | null => cases h
  | object t => cases h
  | array c elements => cases h
  | collection t c =>
    rw [Derivation.ofValue] at h
    split at h
    · cases h
    · obtain ⟨k, -, hk⟩ := map_eq_ok_iff.1 h
      cases hk

/-- From a declaration, just the wrappers are unwrapped. -/
theorem exists_ofDeclaration_eq_wrapped_iff {s : TypeStore} {r : AdapterRegistry} (site : Site)
    (sources : List ElementSource) (unresolved : Diagnostic) {t wrapper : TypeId} :
    (∃ element, Derivation.ofDeclaration s r site t sources unresolved =
      .ok (.wrapped element wrapper)) ↔ t = wrapper ∧ s.Wraps r wrapper := by
  rcases ofDeclaration_cases s r site t sources unresolved with
    ⟨c, hc, hroute⟩ | ⟨-, hlike, hroute⟩ | ⟨hc, hlike, hroute⟩ <;> rw [hroute]
  · constructor
    · rintro ⟨element, h⟩
      cases h
    · rintro ⟨rfl, hwraps⟩
      cases hc.symm.trans hwraps.component?_eq_none
  · constructor
    · rintro ⟨element, h⟩
      obtain ⟨n, -, hn⟩ := map_eq_ok_iff.1 h
      cases hn
    · rintro ⟨rfl, hwraps⟩
      cases hlike.symm.trans hwraps.not_isCollectionLike
  · constructor
    · rintro ⟨element, h⟩
      split at h
      · rename_i hunwraps
        cases h
        exact ⟨rfl, hc, hlike, hunwraps⟩
      · cases h
    · rintro ⟨rfl, hwraps⟩
      exact ⟨_, by rw [if_pos hwraps.unwraps]⟩

/-- **A name is made from a wrapper just when the question is about a declared one.** -/
theorem exists_derive_eq_wrapped_iff {s : TypeStore} {r : AdapterRegistry} {q : Inquiry}
    {wrapper : TypeId} : (∃ element, q.derive s r = .ok (.wrapped element wrapper)) ↔
      q.declaredType? = some wrapper ∧ s.Wraps r wrapper := by
  cases hq : q.declaredType? with
  | none =>
    refine ⟨fun ⟨element, h⟩ => ?_, fun ⟨h, _⟩ => by cases h⟩
    rcases Inquiry.derive_eq_of_declaredType?_eq_none hq with ⟨v, hv⟩ | ⟨e, he⟩
    · exact absurd ((hv s r).symm.trans h) (ofValue_ne_wrapped s v element wrapper)
    · cases (he s r).symm.trans h
  | some t =>
    obtain ⟨site, sources, unresolved, hderive⟩ := Inquiry.exists_derive_eq_ofDeclaration hq
    rw [hderive, Option.some.injEq]
    exact exists_ofDeclaration_eq_wrapped_iff site sources unresolved

/-! ## Answers -/

namespace TypeStore

theorem answer_answer (s : TypeStore) (r : AdapterRegistry) (q : Inquiry) :
    (q.answer s r).answer = (q.derive s r).map fun d => (d.write s).1 := by
  rw [Inquiry.answer]
  cases q.derive s r <;> rfl

end TypeStore

namespace Inquiry

variable {q : Inquiry} {s : TypeStore} {r : AdapterRegistry}

/-- With a derivation there is an answer, and the store is the one that is left by writing it. -/
theorem answer_of_derive {d : Derivation} (h : q.derive s r = .ok d) :
    q.answer s r = ⟨.ok (d.write s).1, (d.write s).2⟩ := by
  rw [answer, h]
  rfl

/-- Without one the store is left as it is. -/
theorem answer_of_derive_eq_error {e : NamingError} (h : q.derive s r = .error e) :
    q.answer s r = ⟨.error e, s⟩ := by
  rw [answer, h]
  rfl

end Inquiry

end VariableNaming
