import VariableNaming.Proofs.Adapter.Nearest
import VariableNaming.Proofs.Derivation.Declaration
import VariableNaming.Proofs.TypeStore.Growth

/-!
# What adapters have to do with names

Of all that a registry of wrappers can say, a question needs one bit: whether the type that it is
about is called after what it wraps.  Nothing is asked about arrays and collections, which come
first, nor about values.

* `unwraps_congr`, `unwraps_eq_false_of_isNoValue`, `unwraps_empty` — what the bit depends on.
* `derive_congr_registry` — a question depends on nothing but the bit.
* `answer_congr_registry` — **registries that agree on the bit give the same answers.**
-/

set_option autoImplicit false

namespace VariableNaming

/-! ## The bit -/

namespace AdapterRegistry

variable {r r' : AdapterRegistry} {s : TypeStore} {t : TypeId}

/-- Only which types are wrappers, and which of them produce no value, matters; how many values the
others produce does not. -/
theorem unwraps_congr
    (h : ∀ w, (r.get? w).map Adapter.isNoValue = (r'.get? w).map Adapter.isNoValue)
    (s : TypeStore) (t : TypeId) : r.unwraps s t = r'.unwraps s t := by
  have hnear : (r.nearest? s t).map Adapter.isNoValue =
      (r'.nearest? s t).map Adapter.isNoValue := by
    simp only [nearest?, List.map_findSome?, Function.comp_def, h]
  calc r.unwraps s t = ((r.nearest? s t).map Adapter.isNoValue).any (!·) := Option.any_map.symm
    _ = ((r'.nearest? s t).map Adapter.isNoValue).any (!·) := by rw [hnear]
    _ = r'.unwraps s t := Option.any_map

/-- A wrapper that produces no value is no wrapper at all for the types that it is nearest to. -/
theorem unwraps_eq_false_of_isNoValue {a : Adapter} (hnear : r.nearest? s t = some a)
    (ha : a.isNoValue = true) : r.unwraps s t = false := by
  rw [unwraps, hnear, Option.any_some, ha]
  rfl

theorem unwraps_empty (s : TypeStore) (t : TypeId) : empty.unwraps s t = false := by
  have hnone : empty.nearest? s t = none := by
    simp [nearest?, List.findSome?_eq_none_iff]
  rw [unwraps, hnone, Option.any_none]

end AdapterRegistry

/-! ## Derivations -/

section Derivations

variable {s : TypeStore} {r r' : AdapterRegistry} {t : TypeId}

/-- The registries cannot be told apart by what is declared with the type. -/
def TypeStore.Alike (s : TypeStore) (r r' : AdapterRegistry) (t : TypeId) : Prop :=
  s.isArray t = true ∨ s.isCollectionLike t = true ∨ r.unwraps s t = r'.unwraps s t

/-- An array and a collection come before a wrapper. -/
theorem ofDeclaration_congr_registry (h : s.Alike r r' t) (site : Site)
    (sources : List ElementSource) (unresolved : Diagnostic) :
    Derivation.ofDeclaration s r site t sources unresolved =
      Derivation.ofDeclaration s r' site t sources unresolved := by
  rcases ofDeclaration_cases s r site t sources unresolved with
    ⟨c, hc, hroute⟩ | ⟨hc, hlike, hroute⟩ | ⟨hc, hlike, hroute⟩ <;> rw [hroute]
  · exact (ofDeclaration_of_component r' site sources unresolved hc).symm
  · exact (ofDeclaration_of_isCollectionLike r' site sources unresolved hc hlike).symm
  · have hunwraps : r.unwraps s t = r'.unwraps s t := by
      rcases h with harray | hcollection | hunwraps
      · rw [TypeStore.isArray, hc] at harray
        cases harray
      · cases hlike.symm.trans hcollection
      · exact hunwraps
    rw [ofDeclaration_of_scalar r' site sources unresolved hc hlike, hunwraps]

/-- A question depends on the registry by that one bit. -/
theorem derive_congr_registry {q : Inquiry} (h : ∀ t, q.declaredType? = some t → s.Alike r r' t) :
    q.derive s r = q.derive s r' := by
  cases hq : q.declaredType? with
  | none =>
    rcases Inquiry.derive_eq_of_declaredType?_eq_none hq with ⟨v, hv⟩ | ⟨e, he⟩
    · rw [hv, hv]
    · rw [he, he]
  | some t =>
    obtain ⟨site, sources, unresolved, hderive⟩ := Inquiry.exists_derive_eq_ofDeclaration hq
    rw [hderive, hderive]
    exact ofDeclaration_congr_registry (h t hq) site sources unresolved

end Derivations

/-! ## Answers -/

namespace TypeStore

/-- **The registry decides one thing about a name**, and for a declared type only that is neither an
array nor like a collection: whether it is called after what it wraps.  Registries that agree on
this give the same answers and leave the same store.  So do any two about a value; a registry whose
nearest adapter produces no value, and the empty one; any two with the same wrappers of which the
same produce no value; and any one and the empty one, for an array or what is like a collection. -/
theorem answer_congr_registry (s : TypeStore) :
    (∀ (r r' : AdapterRegistry) (q : Inquiry),
      (∀ t, q.declaredType? = some t → s.Alike r r' t) → q.answer s r = q.answer s r') ∧
    (∀ (r r' : AdapterRegistry) (v : Value),
      (Inquiry.value v).answer s r = (Inquiry.value v).answer s r') ∧
    (∀ (r : AdapterRegistry) (q : Inquiry) (t : TypeId) (a : Adapter), q.declaredType? = some t →
      r.nearest? s t = some a → a.isNoValue = true → q.answer s r = q.answer s .empty) ∧
    (∀ r r' : AdapterRegistry,
      (∀ w, (r.get? w).map Adapter.isNoValue = (r'.get? w).map Adapter.isNoValue) →
      ∀ q : Inquiry, q.answer s r = q.answer s r') ∧
    (∀ (r : AdapterRegistry) (q : Inquiry) (t : TypeId), q.declaredType? = some t →
      s.isArray t = true ∨ s.isCollectionLike t = true → q.answer s r = q.answer s .empty) := by
  have hanswer (r r' : AdapterRegistry) (q : Inquiry)
      (h : ∀ t, q.declaredType? = some t → s.Alike r r' t) : q.answer s r = q.answer s r' := by
    rw [Inquiry.answer, Inquiry.answer, derive_congr_registry h]
  -- a question is about one declared type at most
  have hdeclared (r r' : AdapterRegistry) (q : Inquiry) (t : TypeId) (hq : q.declaredType? = some t)
      (h : s.Alike r r' t) : q.answer s r = q.answer s r' := by
    refine hanswer r r' q fun u hu => ?_
    obtain rfl : t = u := Option.some.inj (hq.symm.trans hu)
    exact h
  refine ⟨hanswer, fun r r' v => rfl, fun r q t a hq hnear ha => ?_, fun r r' h q => ?_,
    fun r q t hq h => hdeclared r .empty q t hq (h.imp_right Or.inl)⟩
  · refine hdeclared r .empty q t hq (Or.inr (Or.inr ?_))
    rw [AdapterRegistry.unwraps_eq_false_of_isNoValue hnear ha, AdapterRegistry.unwraps_empty]
  · exact hanswer r r' q fun t _ => Or.inr (Or.inr (AdapterRegistry.unwraps_congr h s t))

/-- A product, the promise of a value, and the arrays of promises. -/
def promiseRun : List Growth := [
  .register (.ofClass "app.Product"),
  .register { TypeInfo.ofClass "app.Promise" with paramCount := 1 },
  .arrayOf ⟨3⟩]

/-- A method that returns the promise of a product. -/
def order : Method := .ofMethod ⟨2⟩ "order" [] (some (.concrete ⟨3⟩ [.erased ⟨2⟩]))

/-- The promise of one value and of many give one name, the promise of none is called as if it were
no wrapper, and for an array of promises no registry matters, even if the array type is a wrapper
in it. -/
theorem answer_promises :
    let answer (t : TypeId) (r : AdapterRegistry) :=
      (Inquiry.returned order t none).answer (initial.run promiseRun) r
    answer ⟨3⟩ (AdapterRegistry.empty.register ⟨3⟩ .singleValue) =
        answer ⟨3⟩ (AdapterRegistry.empty.register ⟨3⟩ .multiValue) ∧
      answer ⟨3⟩ (AdapterRegistry.empty.register ⟨3⟩ .noValue) = answer ⟨3⟩ .empty ∧
      answer ⟨4⟩ (AdapterRegistry.empty.register ⟨4⟩ .singleValue) = answer ⟨4⟩ .empty ∧
      answer ⟨4⟩ (AdapterRegistry.empty.register ⟨4⟩ .singleValue) =
        answer ⟨4⟩ (AdapterRegistry.empty.register ⟨3⟩ .noValue) := by
  obtain ⟨halike, -, hnoValue, hkinds, harray⟩ := answer_congr_registry (initial.run promiseRun)
  refine ⟨hkinds _ _ (fun w => ?_) _, hnoValue _ _ ⟨3⟩ ⟨⟨3⟩, .noValue⟩ rfl ?_ rfl,
    harray _ _ ⟨4⟩ rfl (Or.inl (by decide)), halike _ _ _ fun t ht => Or.inl ?_⟩
  · rw [AdapterRegistry.get?_register, AdapterRegistry.get?_register]
    split <;> rfl
  · exact AdapterRegistry.nearest?_of_get? (by decide)
  · obtain rfl : ⟨4⟩ = t := Option.some.inj ht
    decide

end TypeStore
end VariableNaming
