import VariableNaming.Proofs.Derivation.Failure
import VariableNaming.Proofs.Derivation.Plural
import VariableNaming.Proofs.ElementType.Visits
import VariableNaming.Proofs.TypeStore.ShortName

/-!
# Declarations that tell enough

Just the untyped declarations leave something open.  Every other one leads to its name by itself,
and then it does not matter whether it is the declaration of a parameter or of what a method
returns, nor which value comes with it.  An untyped one is an error in both places, with a number
for each.

* `exists_ofDeclaration_of_not_untyped` — one derivation for all sites with the declaration.
* `refuses_parameter_of_untyped`, `refuses_returned_of_untyped_iff` — the errors.
* `answer_returned_of_answer_parameter` — **parameters and return types agree.**
* `forall_answer_returned_iff` — **a value counts for nothing just beside a declaration that tells
  enough**, and there is a name then, unless array types run in a circle: `answer_returned_loop`.
-/

set_option autoImplicit false

namespace VariableNaming

section Typed

variable {s : TypeStore} {resolved : TypeId} {declared : TypeRef}

/-- **A declaration that is not untyped has one derivation**, at whichever site and whatever sources
are asked after it.  No type has to be put in for the name. -/
theorem exists_ofDeclaration_of_not_untyped (r : AdapterRegistry)
    (h : ¬ s.Untyped resolved declared) :
    ∃ d : Derivation, (d.write s).2 = s ∧
      ∀ site : Site, site.declared = declared → ∀ rest unresolved,
        Derivation.ofDeclaration s r site resolved (.declaration :: rest) unresolved = .ok d := by
  cases hcomponent : s.component? resolved with
  | some c =>
    exact ⟨.plural (.declared c), rfl, fun site _ rest unresolved =>
      ofDeclaration_of_component r site _ unresolved hcomponent⟩
  | none =>
    cases hlike : s.isCollectionLike resolved with
    | true =>
      obtain ⟨e, helement⟩ : ∃ e, s.elementType? declared = some e :=
        Option.ne_none_iff_exists'.1 fun hnone => h ⟨hcomponent, hlike, hnone⟩
      refine ⟨.plural (.declared e), rfl, fun site hsite rest unresolved => ?_⟩
      rw [ofDeclaration_of_isCollectionLike r site _ unresolved hcomponent hlike,
        findElement_of_elementType? unresolved rest (hsite ▸ helement)]
      rfl
    | false =>
      refine ⟨if r.unwraps s resolved then .wrapped (declared.argOrObject 0) resolved
        else .single (.declared resolved), ?_, fun site hsite rest unresolved => ?_⟩
      · split <;> rfl
      · rw [ofDeclaration_of_scalar r site _ unresolved hcomponent hlike, hsite]

/-- Without circles of arrays there is a name for every derivation that puts nothing in. -/
theorem TypeStore.NoArrayCircle.exists_write (h : s.NoArrayCircle) {d : Derivation}
    (hstore : (d.write s).2 = s) : ∃ name, (d.write s).1 = some name := by
  have hnamesake (n : Namesake) (hn : (s.typeOfNamesake n).2 = s) :
      ∃ name, (s.typeOfNamesake n).2.variableName? (s.typeOfNamesake n).1 = some name := by
    rw [hn]
    exact h.exists_variableName? _
  cases d with
  | single n => exact hnamesake n hstore
  | plural n =>
    obtain ⟨name, hname⟩ := hnamesake n hstore
    exact ⟨Identifier.pluralize name, congrArg (Option.map Identifier.pluralize) hname⟩
  | wrapped element wrapper => exact h.exists_wrappedName? element wrapper

/-- The declarations that are not untyped are those of arrays, of what is not like a collection, and
of collections whose elements can be told. -/
theorem TypeStore.not_untyped_iff : ¬ s.Untyped resolved declared ↔
    s.isArray resolved = true ∨ s.isCollectionLike resolved = false ∨
      (s.elementType? declared).isSome = true := by
  have huntyped : s.Untyped resolved declared ↔ s.component? resolved = none ∧
      s.isCollectionLike resolved = true ∧ s.elementType? declared = none :=
    ⟨fun ⟨hc, hlike, helement⟩ => ⟨hc, hlike, helement⟩,
      fun ⟨hc, hlike, helement⟩ => ⟨hc, hlike, helement⟩⟩
  rw [huntyped, not_and_or, not_and_or, TypeStore.isArray, Option.isSome_iff_ne_none,
    Option.isSome_iff_ne_none, Bool.not_eq_true]

end Typed

/-! ## One declaration in two places -/

section Places

variable {t : TypeId} {args : List TypeRef}

theorem Parameter.rawType_of_declared {p : Parameter} (h : p.declared = .concrete t args) :
    p.rawType = t := by
  rw [Parameter.rawType, h]
  rfl

theorem Method.declarationOf_of_returnType {m : Method} (h : m.returnType = .concrete t args) :
    m.declarationOf t = .concrete t args := by
  rw [Method.declarationOf, h]
  exact if_pos rfl

variable {s : TypeStore} {r : AdapterRegistry}

/-- A parameter has nothing but its declaration. -/
theorem refuses_parameter_of_untyped {p : Parameter} (h : s.Untyped p.rawType p.declared) :
    Refuses ((Inquiry.parameter p).answer s r).answer .parameter p.words 1003 := by
  rw [TypeStore.answer_answer, refuses_map_iff, Inquiry.derive, ElementSource.ofParameter,
    refuses_ofDeclaration_iff]
  exact ⟨h, refuses_error_iff.2 ⟨rfl, rfl, rfl⟩⟩

/-- Beside an untyped return type a value can still be uninformative, in several ways. -/
theorem refuses_returned_of_untyped_iff {m : Method} (hobject : t ≠ .object)
    (h : s.Untyped t (m.declarationOf t)) {v : Option Value} {code : Nat} :
    Refuses ((Inquiry.returned m t v).answer s r).answer .returnType m.name code ↔
      Uninformative v code := by
  rw [TypeStore.answer_answer, refuses_map_iff,
    Inquiry.derive_returned_of_ne_object s r m hobject, ElementSource.ofReturnType,
    refuses_ofDeclaration_iff, findElement_value_cons, refuses_map_iff, refuses_classInValue_iff]
  constructor
  · rintro ⟨-, -, -, hv⟩
    exact uninformative_filter_iff.1 hv
  · exact fun hv => ⟨h, rfl, rfl, uninformative_filter_iff.2 hv⟩

/-- What is said of a return type that is not untyped is changed by no value, and is a name if there
are no circles of arrays. -/
theorem exists_answer_returned_of_not_untyped (hobject : t ≠ .object) {m : Method}
    (h : ¬ s.Untyped t (m.declarationOf t)) :
    ∃ called : Option String,
      (∀ v, (Inquiry.returned m t v).answer s r = ⟨.ok called, s⟩) ∧
      (s.NoArrayCircle → ∃ name, called = some name) := by
  obtain ⟨d, hstore, hd⟩ := exists_ofDeclaration_of_not_untyped r h
  refine ⟨(d.write s).1, fun v => ?_, fun hcircle => hcircle.exists_write hstore⟩
  have hderive : (Inquiry.returned m t v).derive s r = .ok d :=
    (Inquiry.derive_returned_of_ne_object s r m hobject v).trans (hd (m.returnSite t v) rfl _ _)
  rw [Inquiry.answer_of_derive hderive, hstore]

/-- What a parameter is called, a return type that is declared like it is called. -/
theorem exists_answer_of_not_untyped (hobject : t ≠ .object) {p : Parameter}
    (hp : p.declared = .concrete t args) {m : Method} (hm : m.returnType = .concrete t args)
    (h : ¬ s.Untyped t (.concrete t args)) :
    ∃ called : Option String, (Inquiry.parameter p).answer s r = ⟨.ok called, s⟩ ∧
      ∀ v, (Inquiry.returned m t v).answer s r = ⟨.ok called, s⟩ := by
  obtain ⟨d, hstore, hd⟩ := exists_ofDeclaration_of_not_untyped r h
  have hparameter : (Inquiry.parameter p).derive s r = .ok d := by
    rw [Inquiry.derive, Parameter.rawType_of_declared hp]
    exact hd p.site hp _ _
  have hreturned (v : Option Value) : (Inquiry.returned m t v).derive s r = .ok d :=
    (Inquiry.derive_returned_of_ne_object s r m hobject v).trans
      (hd (m.returnSite t v) (Method.declarationOf_of_returnType hm) _ _)
  refine ⟨(d.write s).1, ?_, fun v => ?_⟩
  · rw [Inquiry.answer_of_derive hparameter, hstore]
  · rw [Inquiry.answer_of_derive (hreturned v), hstore]

end Places

/-! ## Answers -/

namespace TypeStore

/-- **Parameters and return types that are declared alike are called alike.**  If there is a name
for the parameter, it is the name for what is returned, whatever value is returned or none.  If
there is none, the error for the parameter has the number 1003, and the error for what is returned
has the number 1004 as long as no collection is returned. -/
theorem answer_returned_of_answer_parameter (s : TypeStore) (r : AdapterRegistry) (t : TypeId)
    (args : List TypeRef) (hobject : t ≠ .object) (p : Parameter)
    (hp : p.declared = .concrete t args) (m : Method) (hm : m.returnType = .concrete t args) :
    (∀ called : Option String, ((Inquiry.parameter p).answer s r).answer = .ok called →
      ∀ v, ((Inquiry.returned m t v).answer s r).answer = .ok called) ∧
    ∀ e, ((Inquiry.parameter p).answer s r).answer = .error e →
      e.diagnostic.code = 1003 ∧
        ∀ v : Option Value, v.bind Value.container? = none →
          Refuses ((Inquiry.returned m t v).answer s r).answer .returnType m.name 1004 := by
  by_cases h : s.Untyped t (.concrete t args)
  · have hparameter : Refuses ((Inquiry.parameter p).answer s r).answer .parameter p.words 1003 :=
      refuses_parameter_of_untyped (by rw [Parameter.rawType_of_declared hp, hp]; exact h)
    refine ⟨fun called hcalled => ?_, fun e he => ⟨?_, fun v hv => ?_⟩⟩
    · rw [hcalled] at hparameter
      exact absurd hparameter not_refuses_ok
    · rw [he, refuses_error_iff] at hparameter
      exact hparameter.2.2
    · rw [← Method.declarationOf_of_returnType hm] at h
      exact (refuses_returned_of_untyped_iff hobject h).2 (.other hv)
  · obtain ⟨called, hparameter, hreturned⟩ := exists_answer_of_not_untyped hobject hp hm h (r := r)
    rw [hparameter]
    refine ⟨fun called' hcalled v => ?_, fun e he => by cases he⟩
    rw [hreturned v]
    exact hcalled

/-- A method that takes and returns a collection of nothing in particular. -/
def inventory : Method := .ofMethod ⟨3⟩ "inventory" [.erased ⟨2⟩] (some (.erased ⟨2⟩))

theorem untyped_inventory : (initial.run stockRun).Untyped ⟨2⟩ (.erased ⟨2⟩) where
  component?_eq_none := by decide
  isCollectionLike := isCollectionLike_stock
  elementType?_eq_none := by
    have hsupers : (initial.run stockRun).superRefs (.concrete ⟨2⟩ []) = [] := by decide
    rw [elementType?, TypeRef.erased, visits_of_superRefs_eq_nil hsupers]
    decide

/-- What is restocked is called after its products in both places, and the inventory has no name in
either. -/
theorem answer_returned_stock :
    (⟨2⟩ : TypeId) ≠ .object ∧ restock.returnType = .concrete ⟨2⟩ [.erased ⟨3⟩] ∧
      inventory.returnType = .concrete ⟨2⟩ [] ∧
      (∀ v, ((Inquiry.returned restock ⟨2⟩ v).answer (initial.run stockRun) .empty).answer =
        .ok (some "productList")) ∧
      ∀ v : Option Value, v.bind Value.container? = none →
        Refuses ((Inquiry.returned inventory ⟨2⟩ v).answer (initial.run stockRun) .empty).answer
          .returnType "inventory" 1004 := by
  have hobject : (⟨2⟩ : TypeId) ≠ .object := by decide
  have htyped : ((Inquiry.parameter ⟨restock, 1, by decide⟩).answer (initial.run stockRun)
      .empty).answer = .ok (some "productList") := by
    have hsite : (initial.run stockRun).DeclaresMany ⟨3⟩
        (Parameter.site ⟨restock, 1, by decide⟩).declared ⟨2⟩ := declaresMany_stockOfProducts
    have hderive : (Inquiry.parameter ⟨restock, 1, by decide⟩).derive (initial.run stockRun)
        .empty = .ok (.plural (.declared ⟨3⟩)) :=
      hsite.ofDeclaration_eq (numbered_run stockRun (by decide)) .empty [] .untypedParameter
    have hwrite : (Derivation.write (initial.run stockRun) (.plural (.declared ⟨3⟩))).1 =
        some (Identifier.pluralize "product") :=
      congrArg (Option.map Identifier.pluralize) variableName?_product
    rw [answer_answer, hderive]
    exact congrArg Except.ok hwrite
  obtain ⟨d, huntyped, -⟩ : Refuses ((Inquiry.parameter ⟨inventory, 0, by decide⟩).answer
      (initial.run stockRun) .empty).answer .parameter "inventory#0" 1003 :=
    refuses_parameter_of_untyped untyped_inventory
  have hrestock := answer_returned_of_answer_parameter (initial.run stockRun) .empty ⟨2⟩
    [.erased ⟨3⟩] hobject ⟨restock, 1, by decide⟩ rfl restock rfl
  have hinventory := answer_returned_of_answer_parameter (initial.run stockRun) .empty ⟨2⟩
    [] hobject ⟨inventory, 0, by decide⟩ rfl inventory rfl
  exact ⟨hobject, rfl, rfl, hrestock.1 _ htyped, (hinventory.2 _ huntyped).2⟩

/-- **A return type speaks for itself just when its declaration tells enough.**  The answer is the
same for all values, and for none, and nothing is put in for it, if the type is an array, or is not
like a collection, or the declaration tells the elements, and only then.  The answer is a name as
long as no array types run in a circle. -/
theorem forall_answer_returned_iff (s : TypeStore) (r : AdapterRegistry) (m : Method) (t : TypeId)
    (hobject : t ≠ .object) :
    ((∃ called : Option String,
        ∀ v : Option Value, (Inquiry.returned m t v).answer s r = ⟨.ok called, s⟩) ↔
      s.isArray t = true ∨ s.isCollectionLike t = false ∨
        (s.elementType? (m.declarationOf t)).isSome = true) ∧
    (s.NoArrayCircle →
      ((∃ name : String,
          ∀ v : Option Value, (Inquiry.returned m t v).answer s r = ⟨.ok (some name), s⟩) ↔
        s.isArray t = true ∨ s.isCollectionLike t = false ∨
          (s.elementType? (m.declarationOf t)).isSome = true)) := by
  have htyped (called : Option String)
      (hcalled : ∀ v : Option Value, (Inquiry.returned m t v).answer s r = ⟨.ok called, s⟩) :
      ¬ s.Untyped t (m.declarationOf t) := by
    intro huntyped
    have hnothing := (refuses_returned_of_untyped_iff (r := r) hobject huntyped).2
      (.other (Option.bind_none _))
    rw [hcalled none] at hnothing
    exact not_refuses_ok hnothing
  rw [← not_untyped_iff]
  refine ⟨⟨?_, fun h => ?_⟩, fun hcircle => ⟨?_, fun h => ?_⟩⟩
  · rintro ⟨called, hcalled⟩
    exact htyped called hcalled
  · obtain ⟨called, hcalled, -⟩ := exists_answer_returned_of_not_untyped hobject h
    exact ⟨called, hcalled⟩
  · rintro ⟨name, hname⟩
    exact htyped (some name) hname
  · obtain ⟨called, hcalled, hends⟩ := exists_answer_returned_of_not_untyped hobject h
    obtain ⟨name, rfl⟩ := hends hcircle
    exact ⟨name, hcalled⟩

/-- What is restocked is a collection of products or, where that is known, an array of products, and
has one name in either case.  There is none for an inventory. -/
theorem exists_answer_returned_stock :
    (⟨2⟩ : TypeId) ≠ .object ∧ (initial.run stockRun).NoArrayCircle ∧
      (∃ name, ∀ v, (Inquiry.returned restock ⟨2⟩ v).answer (initial.run stockRun) .empty =
        ⟨.ok (some name), initial.run stockRun⟩) ∧
      (∃ name, ∀ v, (Inquiry.returned restock ⟨4⟩ v).answer (initial.run stockRun) .empty =
        ⟨.ok (some name), initial.run stockRun⟩) ∧
      ¬ ∃ called, ∀ v, (Inquiry.returned inventory ⟨2⟩ v).answer (initial.run stockRun) .empty =
        ⟨.ok called, initial.run stockRun⟩ := by
  have hobject : (⟨2⟩ : TypeId) ≠ .object := by decide
  have hcircle : (initial.run stockRun).NoArrayCircle := noArrayCircle_of_lt (by decide)
  have hanswer (m : Method) (t : TypeId) (ht : t ≠ .object) :=
    forall_answer_returned_iff (initial.run stockRun) .empty m t ht
  have helement : ((initial.run stockRun).elementType? (restock.declarationOf ⟨2⟩)).isSome = true :=
    congrArg Option.isSome elementType?_stockOfProducts
  refine ⟨hobject, hcircle,
    ((hanswer restock ⟨2⟩ hobject).2 hcircle).2 (Or.inr (Or.inr helement)),
    ((hanswer restock ⟨4⟩ (by decide)).2 hcircle).2 (Or.inl (by decide)), fun h => ?_⟩
  exact not_untyped_iff.2 ((hanswer inventory ⟨2⟩ hobject).1.1 h) untyped_inventory

/-- The arrays over a type that is not known yet get its id, and are their own components. -/
def loopStore : TypeStore := (initial.arrayOf ⟨2⟩).2

/-- A method that returns such an array. -/
def unroll : Method := .ofMethod .object "unroll" [] (some (.erased ⟨2⟩))

/-- The declaration of an array tells enough, and yet an array type that is its own component has no
name.  However many calls the recursion on components makes, it has not come to an end. -/
theorem answer_returned_loop :
    (⟨2⟩ : TypeId) ≠ .object ∧ loopStore.isArray ⟨2⟩ = true ∧
      (∀ calls, loopStore.shortNameWithin? calls ⟨2⟩ = none) ∧
      (∀ v, (Inquiry.returned unroll ⟨2⟩ v).answer loopStore .empty = ⟨.ok none, loopStore⟩) ∧
      ¬ ∃ name : String, ∀ v, (Inquiry.returned unroll ⟨2⟩ v).answer loopStore .empty =
        ⟨.ok (some name), loopStore⟩ := by
  have hobject : (⟨2⟩ : TypeId) ≠ .object := by decide
  have hself : loopStore.component? ⟨2⟩ = some ⟨2⟩ := by decide
  have hname : loopStore.shortName? ⟨2⟩ = none := shortName?_eq_none_of_circle (.single hself)
  have hanswer (v : Option Value) :
      (Inquiry.returned unroll ⟨2⟩ v).answer loopStore .empty = ⟨.ok none, loopStore⟩ := by
    have hderive : (Inquiry.returned unroll ⟨2⟩ v).derive loopStore .empty =
        .ok (.plural (.declared ⟨2⟩)) :=
      (Inquiry.derive_returned_of_ne_object loopStore .empty unroll hobject v).trans
        (ofDeclaration_of_component .empty (unroll.returnSite ⟨2⟩ v) _ _ hself)
    have hwrite : (Derivation.write loopStore (.plural (.declared ⟨2⟩))).1 = none := by
      show (loopStore.variableName? ⟨2⟩).map Identifier.pluralize = none
      rw [variableName?, hname]
      rfl
    rw [Inquiry.answer_of_derive hderive, hwrite]
    rfl
  refine ⟨hobject, by decide, fun calls => ?_, hanswer, ?_⟩
  · refine Option.eq_none_iff_forall_ne_some.2 fun name h => ?_
    cases hname.symm.trans (shortName?_eq_some_iff.2 ⟨calls, h⟩)
  · rintro ⟨name, h⟩
    cases (hanswer none).symm.trans (h none)

end TypeStore
end VariableNaming
