import VariableNaming.Proofs.Derivation.Typed

/-!
# Falling back on the value

When a method returns a collection whose declaration does not tell its elements, the value that is
returned has to tell them.  The name is then the one that the value has by itself, and so is the
store of types after the question.  When there is no name for the value either, the error is told
of the return type, and an empty collection has a number of its own there.

* `NamingError.ofReturned` — how an error is told of a return type.
* `derive_returned_of_untyped` — the derivation is that of the value, but for its errors.
* `answer_returned_of_untyped` — **the same name, the same store, the corresponding error.**
-/

set_option autoImplicit false

namespace VariableNaming

/-! ## Errors -/

/-- The error of a value, told of the method that returned it. -/
def NamingError.ofReturned (method : String) (e : NamingError) : NamingError where
  route := .returnType
  subject := method
  diagnostic :=
    match e.diagnostic with
    | .emptyCollection => .untypedReturnEmptyValue
    | d => d

/-- A collection without a name reports no elements, or hides the first of them. -/
theorem Value.Unnameable.code_of_collection {s : TypeStore} {t : TypeId} {c : Container Value}
    {subject : String} {code : Nat} (h : (Value.collection t c).Unnameable s subject code) :
    code = 1002 ∨ code = 2001 ∨ code = 2002 := by
  cases h with
  | collection _ hwithholds => cases hwithholds <;> decide

/-- Only an empty collection has another number when it is returned. -/
theorem code_ofReturned (method : String) (e : NamingError) :
    (e.ofReturned method).diagnostic.code =
      if e.diagnostic.code = 1002 then 1005 else e.diagnostic.code := by
  obtain ⟨route, subject, d⟩ := e
  cases d <;> rfl

/-! ## Derivations and answers -/

section Conclude

variable {s : TypeStore} (f : NamingError → NamingError) (x : Except NamingError Derivation)

/-- Other words for the errors do not change the store. -/
theorem store_conclude_mapError :
    (Derivation.conclude s (x.mapError f)).store = (Derivation.conclude s x).store := by
  cases x <;> rfl

theorem answer_conclude_mapError :
    (Derivation.conclude s (x.mapError f)).answer =
      (Derivation.conclude s x).answer.mapError f := by
  cases x <;> rfl

end Conclude

section Untyped

variable {s : TypeStore} (r : AdapterRegistry) {m : Method} {resolved : TypeId}
  (hobject : resolved ≠ .object) (h : s.Untyped resolved (m.declarationOf resolved)) (t : TypeId)
  (c : Container Value)

include hobject h

/-- **Both ways from a collection to a name are one**, but for the words of their errors. -/
theorem derive_returned_of_untyped :
    (Inquiry.returned m resolved (some (.collection t c))).derive s r =
      ((Inquiry.value (.collection t c)).derive s r).mapError (·.ofReturned m.name) := by
  rw [Inquiry.derive_returned_of_ne_object s r m hobject,
    ofDeclaration_of_isCollectionLike r _ _ _ h.component?_eq_none h.isCollectionLike,
    ElementSource.ofReturnType, findElement_of_elementType?_eq_none _ _ h.elementType?_eq_none,
    findElement_value_cons]
  -- what is left asks the container the same three questions on both sides
  obtain ⟨reportsEmpty, items⟩ := c
  cases reportsEmpty with
  | true => rfl
  | false =>
    rcases items with _ | ⟨v, rest⟩
    · rfl
    · cases v <;> rfl

theorem store_returned_of_untyped :
    ((Inquiry.returned m resolved (some (.collection t c))).answer s r).store =
      ((Inquiry.value (.collection t c)).answer s r).store := by
  rw [Inquiry.answer, derive_returned_of_untyped r hobject h]
  exact store_conclude_mapError _ _

theorem answer_returned_eq_mapError :
    ((Inquiry.returned m resolved (some (.collection t c))).answer s r).answer =
      ((Inquiry.value (.collection t c)).answer s r).answer.mapError (·.ofReturned m.name) := by
  rw [Inquiry.answer, derive_returned_of_untyped r hobject h]
  exact answer_conclude_mapError _ _

end Untyped

namespace TypeStore

/-- **What an untyped return type is called is what the value is called.**  Asked about a returned
collection and about the collection itself, in the same store, the two answers leave the same store;
the name of the collection is the name of what is returned; and when the collection has none, the
error about what is returned has the route of return types, the name of the method, and the number
1005 for an empty collection or otherwise the number that the collection has. -/
theorem answer_returned_of_untyped (s : TypeStore) (r : AdapterRegistry) (m : Method)
    (resolved : TypeId) (hobject : resolved ≠ .object)
    (h : s.Untyped resolved (m.declarationOf resolved)) (t : TypeId) (c : Container Value) :
    let returned := (Inquiry.returned m resolved (some (.collection t c))).answer s r
    let value := (Inquiry.value (.collection t c)).answer s r
    returned.store = value.store ∧
      (∀ called : Option String, value.answer = .ok called → returned.answer = .ok called) ∧
      ∀ e, value.answer = .error e →
        (e.diagnostic.code = 1002 ∧ Refuses returned.answer .returnType m.name 1005) ∨
        ((e.diagnostic.code = 2001 ∨ e.diagnostic.code = 2002) ∧
          Refuses returned.answer .returnType m.name e.diagnostic.code) := by
  intro returned value
  have hanswer : returned.answer = value.answer.mapError (·.ofReturned m.name) :=
    answer_returned_eq_mapError r hobject h t c
  refine ⟨store_returned_of_untyped r hobject h t c, fun called hcalled => ?_, fun e he => ?_⟩
  · rw [hanswer, hcalled]
    rfl
  · have hreturned : Refuses returned.answer .returnType m.name
        (if e.diagnostic.code = 1002 then 1005 else e.diagnostic.code) := by
      rw [hanswer, he]
      exact ⟨(e.ofReturned m.name).diagnostic, rfl, code_ofReturned m.name e⟩
    have hvalue : Refuses value.answer e.route e.subject e.diagnostic.code :=
      ⟨e.diagnostic, he, rfl⟩
    rw [answer_answer, refuses_map_iff, Inquiry.derive, refuses_ofValue_iff] at hvalue
    rcases hvalue.2.code_of_collection with hcode | hcode
    · rw [if_pos hcode] at hreturned
      exact Or.inl ⟨hcode, hreturned⟩
    · rw [if_neg (by omega)] at hreturned
      exact Or.inr ⟨hcode, hreturned⟩

/-- What an inventory is called that is returned as this container. -/
def returnedInventory (c : Container Value) : Outcome (Option String) :=
  (Inquiry.returned inventory ⟨2⟩ (some (.collection ⟨2⟩ c))).answer (initial.run stockRun) .empty

/-- An inventory of arrays of collections is called after them, and their type is put in on the way;
there is no name for an inventory without elements, or with the null value in front. -/
theorem answer_returnedInventory :
    (⟨2⟩ : TypeId) ≠ .object ∧
      (initial.run stockRun).Untyped ⟨2⟩ (inventory.declarationOf ⟨2⟩) ∧
      (returnedInventory ⟨false, [.array ⟨2⟩ []]⟩).answer = .ok (some "collection[]List") ∧
      (returnedInventory ⟨false, [.array ⟨2⟩ []]⟩).store.size = (initial.run stockRun).size + 1 ∧
      Refuses (returnedInventory ⟨true, []⟩).answer .returnType "inventory" 1005 ∧
      Refuses (returnedInventory ⟨false, [.null]⟩).answer .returnType "inventory" 2002 := by
  have hobject : (⟨2⟩ : TypeId) ≠ .object := by decide
  have hreturned := answer_returned_of_untyped (initial.run stockRun) .empty inventory ⟨2⟩ hobject
    untyped_inventory ⟨2⟩
  have hvalue : ((Inquiry.value (.collection ⟨2⟩ ⟨false, [.array ⟨2⟩ []]⟩)).answer
      (initial.run stockRun) .empty).answer = .ok (some "collection[]List") := by
    rw [answer_arrayElement, variableName?_of_component? (c := ⟨2⟩) (by decide),
      variableName?_of_component?_eq_none (by decide)]
    exact congrArg (fun name => Except.ok (some name)) (by decide +kernel)
  refine ⟨hobject, untyped_inventory, ?_, ?_, ?_, ?_⟩
  · exact (hreturned ⟨false, [.array ⟨2⟩ []]⟩).2.1 _ hvalue
  · refine (congrArg size (hreturned ⟨false, [.array ⟨2⟩ []]⟩).1).trans ?_
    decide +kernel
  · rcases (hreturned ⟨true, []⟩).2.2 _ rfl with ⟨-, h⟩ | ⟨hcode, -⟩
    · exact h
    · exact absurd hcode (by decide)
  · rcases (hreturned ⟨false, [.null]⟩).2.2 _ rfl with ⟨hcode, -⟩ | ⟨-, h⟩
    · exact absurd hcode (by decide)
    · exact h

end TypeStore
end VariableNaming
