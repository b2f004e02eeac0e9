import VariableNaming.Proofs.Derivation.Typed

/-!
# Declarations of another type

What a method returns may be known to be of another type than the method declares: the declaration
may be a type parameter or a wildcard, or a reference to a supertype.  Such a declaration says
nothing about the type, and its arguments are not those of the type.  It is left aside, and the type
is taken without arguments.

* `Method.Returns` — the declaration is a reference to the type.
* `Method.declarationOf_of_not_returns` — every other declaration is left aside.
* `answer_returned_of_wraps`, `answer_returned_of_elementType?` — the two routes on which arguments
  of a declaration get into a name.
* `answer_returned_of_not_returns` — **declarations of another type make no difference.**
-/

set_option autoImplicit false

namespace VariableNaming

/-- The method is declared to return the type, with any arguments or none. -/
def Method.Returns (m : Method) (t : TypeId) : Prop := ∃ args, m.returnType = .concrete t args

namespace Method

variable {m m' : Method} {t : TypeId}

theorem returns_iff_raw? : m.Returns t ↔ m.returnType.raw? = some t := by
  constructor
  · rintro ⟨args, hargs⟩
    rw [hargs, TypeRef.raw?_concrete]
  · exact fun h => ⟨_, TypeRef.raw?_eq_some_iff.1 h⟩

/-- A declaration of another type is left aside. -/
theorem declarationOf_of_not_returns (h : ¬ m.Returns t) : m.declarationOf t = .erased t := by
  rw [declarationOf, if_neg (mt returns_iff_raw?.2 h)]

theorem returnSite_congr (hname : m.name = m'.name)
    (hdeclared : m.declarationOf t = m'.declarationOf t) (v : Option Value) :
    m.returnSite t v = m'.returnSite t v := by
  rw [returnSite, returnSite, hname, hdeclared]

end Method

section Returned

variable {s : TypeStore} {r : AdapterRegistry} {t : TypeId}

/-- A question about what a method returns depends on the method by the site of its return type. -/
theorem answer_returned_congr_site {m m' : Method} {v : Option Value}
    (h : m.returnSite t v = m'.returnSite t v) :
    (Inquiry.returned m t v).answer s r = (Inquiry.returned m' t v).answer s r := by
  rw [Inquiry.answer, Inquiry.answer, Inquiry.derive, Inquiry.derive, h]

/-! ## Where arguments count -/

/-- A wrapper is called after the first argument of its declaration and itself. -/
theorem answer_returned_of_wraps (hobject : t ≠ .object) (h : s.Wraps r t) (m : Method)
    (v : Option Value) :
    (Inquiry.returned m t v).answer s r =
      ⟨.ok (s.wrappedName? ((m.declarationOf t).argOrObject 0) t), s⟩ := by
  have hderive : (Inquiry.returned m t v).derive s r =
      .ok (.wrapped ((m.declarationOf t).argOrObject 0) t) := by
    rw [Inquiry.derive_returned_of_ne_object s r m hobject, ofDeclaration_of_scalar r _ _ _
      h.component?_eq_none h.not_isCollectionLike, if_pos h.unwraps]
    rfl
  rw [Inquiry.answer_of_derive hderive]
  rfl

/-- A collection is called after the element type that its declaration tells. -/
theorem answer_returned_of_elementType? (hobject : t ≠ .object) (hcomponent : s.component? t = none)
    (hlike : s.isCollectionLike t = true) {m : Method} {e : TypeId}
    (helement : s.elementType? (m.declarationOf t) = some e) (v : Option Value) :
    (Inquiry.returned m t v).answer s r =
      ⟨.ok ((s.variableName? e).map Identifier.pluralize), s⟩ := by
  have hderive : (Inquiry.returned m t v).derive s r = .ok (.plural (.declared e)) := by
    rw [Inquiry.derive_returned_of_ne_object s r m hobject,
      ofDeclaration_of_isCollectionLike r _ _ _ hcomponent hlike, ElementSource.ofReturnType,
      findElement_of_elementType? _ _ helement]
    rfl
  rw [Inquiry.answer_of_derive hderive]
  rfl

end Returned

/-! ## Answers -/

namespace TypeStore

/-- **Declarations of another type make no difference.**  Two methods of one name that are not
declared to return the type have one answer, and leave one store behind, for every value and for
none; so has a method of that name that is declared to return the type without arguments.  Hence no
argument of such a declaration gets into a name: a wrapper is called after the top type, a
collection after the elements that its type tells without arguments, and if that tells none, there
is no name unless the value has one. -/
theorem answer_returned_of_not_returns (s : TypeStore) (r : AdapterRegistry) (t : TypeId)
    (v : Option Value) (m m' : Method) (hname : m.name = m'.name) (hm : ¬ m.Returns t)
    (hm' : ¬ m'.Returns t) :
    (Inquiry.returned m t v).answer s r = (Inquiry.returned m' t v).answer s r ∧
    (∀ erased : Method, erased.name = m.name → erased.returnType = .erased t →
      (Inquiry.returned m t v).answer s r = (Inquiry.returned erased t v).answer s r) ∧
    (t ≠ .object → s.Wraps r t → (Inquiry.returned m t v).answer s r =
      ⟨.ok (s.wrappedName? .object t), s⟩) ∧
    (t ≠ .object → s.component? t = none → s.isCollectionLike t = true →
      (∀ e, s.elementType? (.erased t) = some e → (Inquiry.returned m t v).answer s r =
        ⟨.ok ((s.variableName? e).map Identifier.pluralize), s⟩) ∧
      (s.elementType? (.erased t) = none → ∀ code,
        Refuses ((Inquiry.returned m t v).answer s r).answer .returnType m.name code ↔
          Uninformative v code)) := by
  have hdeclared : m.declarationOf t = .erased t := Method.declarationOf_of_not_returns hm
  have halike (m₂ : Method) (hname₂ : m.name = m₂.name) (h₂ : m₂.declarationOf t = .erased t) :
      (Inquiry.returned m t v).answer s r = (Inquiry.returned m₂ t v).answer s r :=
    answer_returned_congr_site (Method.returnSite_congr hname₂ (hdeclared.trans h₂.symm) v)
  refine ⟨halike m' hname (Method.declarationOf_of_not_returns hm'),
    fun erased herased hreturn =>
      halike erased herased.symm (Method.declarationOf_of_returnType hreturn),
    fun hobject hwraps => ?_,
    fun hobject hcomponent hlike => ⟨fun e helement => ?_, fun hnone code => ?_⟩⟩
  · rw [answer_returned_of_wraps hobject hwraps, hdeclared]
    rfl
  · rw [← hdeclared] at helement
    exact answer_returned_of_elementType? hobject hcomponent hlike helement v
  · have huntyped : s.Untyped t (m.declarationOf t) := ⟨hcomponent, hlike, hdeclared ▸ hnone⟩
    exact refuses_returned_of_untyped_iff hobject huntyped

/-- A product, the promise of a value, a class of promises of products, and a class that is a
collection of products. -/
def catalogRun : List Growth := [
  .register (.ofClass "app.Product"),
  .register { TypeInfo.ofClass "app.Promise" with paramCount := 1 },
  .register { TypeInfo.ofClass "app.Order" with
    superclass := some (.concrete ⟨3⟩ [.erased ⟨2⟩]) },
  .register { TypeInfo.ofInterface "java.util.Collection" with
    marks := { collection := true }, paramCount := 1 },
  .register { TypeInfo.ofInterface "app.Catalog" with
    interfaces := [.concrete ⟨5⟩ [.erased ⟨2⟩]] }]

/-- Promises are wrappers of one value. -/
def catalogWrappers : AdapterRegistry := AdapterRegistry.empty.register ⟨3⟩ .singleValue

/-- A method that is declared to return the promise of a product. -/
def promised : Method := .ofMethod ⟨2⟩ "fetch" [] (some (.concrete ⟨3⟩ [.erased ⟨2⟩]))

/-- A method of the same name that is declared to return anything. -/
def anything : Method := .ofMethod ⟨6⟩ "fetch" [.unbound] (some (.param 0))

theorem wraps_order : (initial.run catalogRun).Wraps catalogWrappers ⟨4⟩ := by
  have hvisit : (initial.run catalogRun).hierarchy.breadthFirst ⟨4⟩ = [⟨4⟩, ⟨3⟩, ⟨1⟩] :=
    Digraph.breadthFirst_eq_of_levelsWithin? _ 3 (by decide)
  refine ⟨by decide, ?_, ?_⟩
  · rw [isCollectionLike, hvisit]
    decide
  · rw [AdapterRegistry.unwraps, AdapterRegistry.nearest?, hvisit]
    decide

theorem isCollectionLike_catalog : (initial.run catalogRun).isCollectionLike ⟨6⟩ = true :=
  isCollectionLike_iff.2 ⟨⟨5⟩, .single (mem_supertypes_iff_extends.1 (by decide)), by decide⟩

theorem elementType?_catalog :
    (initial.run catalogRun).elementType? (.erased ⟨6⟩) = some ⟨2⟩ := by
  have hcatalog : (initial.run catalogRun).superRefs (.concrete ⟨6⟩ []) =
      [.concrete ⟨5⟩ [.concrete ⟨2⟩ []]] := by decide
  have hcollection :
      (initial.run catalogRun).superRefs (.concrete ⟨5⟩ [.concrete ⟨2⟩ []]) = [] := by decide
  have hvisits : (initial.run catalogRun).visits (.erased ⟨6⟩) =
      [.concrete ⟨6⟩ [], .concrete ⟨5⟩ [.concrete ⟨2⟩ []]] := by
    simp [visits, visitsFrom, TypeRef.erased, hcatalog, hcollection]
  rw [elementType?, hvisits]
  decide

theorem elementType?_collection :
    (initial.run catalogRun).elementType? (.erased ⟨5⟩) = none := by
  have hsupers : (initial.run catalogRun).superRefs (.concrete ⟨5⟩ []) = [] := by decide
  rw [elementType?, TypeRef.erased, visits_of_superRefs_eq_nil hsupers]
  decide

/-- An order is a promise, yet it is called after the top type, because the product is the argument
of another type; the catalog is called after its products, and a bare collection after nothing. -/
theorem answer_fetched :
    let answer (m : Method) (t : TypeId) (v : Option Value) :=
      (Inquiry.returned m t v).answer (initial.run catalogRun) catalogWrappers
    promised.name = anything.name ∧ (∀ t ∈ [⟨4⟩, ⟨5⟩, ⟨6⟩], ¬ promised.Returns t) ∧
      (∀ t ∈ [⟨4⟩, ⟨5⟩, ⟨6⟩], ¬ anything.Returns t) ∧
      (∀ t ∈ [⟨4⟩, ⟨5⟩, ⟨6⟩], ∀ v, answer promised t v = answer anything t v) ∧
      (∀ v, (answer promised ⟨4⟩ v).answer = .ok (some "objectOrder")) ∧
      (∀ v, (answer promised ⟨6⟩ v).answer = .ok (some "productList")) ∧
      Refuses (answer promised ⟨5⟩ none).answer .returnType "fetch" 1004 := by
  have hpromised : ∀ t ∈ [⟨4⟩, ⟨5⟩, ⟨6⟩], ¬ promised.Returns t := by
    simp only [Method.returns_iff_raw?]
    decide
  have hanything : ∀ t ∈ [⟨4⟩, ⟨5⟩, ⟨6⟩], ¬ anything.Returns t := by
    simp only [Method.returns_iff_raw?]
    decide
  have hmismatch (t : TypeId) (ht : t ∈ [⟨4⟩, ⟨5⟩, ⟨6⟩]) (v : Option Value) :=
    answer_returned_of_not_returns (initial.run catalogRun) catalogWrappers t v promised anything
      rfl (hpromised t ht) (hanything t ht)
  intro answer
  refine ⟨rfl, hpromised, hanything, fun t ht v => (hmismatch t ht v).1, fun v => ?_,
    fun v => ?_, ?_⟩
  · have horder := (hmismatch ⟨4⟩ (by decide) v).2.2.1 (by decide) wraps_order
    have hname : (initial.run catalogRun).wrappedName? .object ⟨4⟩ = some "objectOrder" := by
      rw [wrappedName?, variableName?_of_component?_eq_none (by decide),
        shortName?_of_component?_eq_none (by decide)]
      decide +kernel
    simp only [answer, horder, hname]
  · have hcatalog := (hmismatch ⟨6⟩ (by decide) v).2.2.2 (by decide) (by decide)
      isCollectionLike_catalog
    have hname : (initial.run catalogRun).variableName? ⟨2⟩ = some "product" := by
      rw [variableName?_of_component?_eq_none (by decide)]
      decide +kernel
    simp only [answer, hcatalog.1 ⟨2⟩ elementType?_catalog, hname]
    rfl
  · have hlike : (initial.run catalogRun).isCollectionLike ⟨5⟩ = true :=
      isCollectionLike_iff.2 ⟨⟨5⟩, .refl, by decide⟩
    have hcollection := (hmismatch ⟨5⟩ (by decide) none).2.2.2 (by decide) (by decide) hlike
    exact (hcollection.2 elementType?_collection 1004).2 (.other rfl)

end TypeStore
end VariableNaming
