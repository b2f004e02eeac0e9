import VariableNaming.Proofs.Derivation.Declaration
import VariableNaming.Proofs.TypeStore.CollectionLike
import VariableNaming.Proofs.Value.ArrayClass

/-!
# Asking for many things

There are many ways to ask for the name of many things of one type: with an array or a collection of
them, for a parameter that is declared as either, and for what a method returns that is declared so.
Their derivations have little in common.  All of them find the same type, and the name is the same.

* `TypeStore.DeclaresMany`, `Inquiry.AsksForMany` — the declarations, and the questions.
* `Inquiry.AsksForMany.exists_derive` — every such question has a plural derivation from the type.
* `answer_of_asksForMany` — **and the same answer.**
-/

set_option autoImplicit false

namespace VariableNaming

/-! ## The questions -/

/-- The declaration has this head and means many things of the type: the head is the array type over
the type, or it is no array but like a collection, and the declaration tells the type of its
elements. -/
inductive TypeStore.DeclaresMany (s : TypeStore) (t : TypeId) (declared : TypeRef) : TypeId → Prop
  | array {head : TypeId} (hraw : declared.raw? = some head) (harray : s.arrays[t]? = some head) :
      DeclaresMany s t declared head
  | collection {head : TypeId} (hraw : declared.raw? = some head)
      (hcomponent : s.component? head = none) (hlike : s.isCollectionLike head = true)
      (helement : s.elementType? declared = some t) : DeclaresMany s t declared head

/-- The question is one for many things of the type. -/
inductive Inquiry.AsksForMany (s : TypeStore) (t : TypeId) : Inquiry → Prop
  | array (elements : List Value) : AsksForMany s t (.value (.array t elements))
  | collection (u : TypeId) (rest : List Value) :
      AsksForMany s t (.value (.collection u ⟨false, .object t :: rest⟩))
  | parameter {p : Parameter} {head : TypeId} (h : s.DeclaresMany t p.declared head) :
      AsksForMany s t (.parameter p)
  | returned {m : Method} {head : TypeId} (h : s.DeclaresMany t m.returnType head)
      (v : Option Value) : AsksForMany s t (.returned m head v)

namespace TypeStore

variable {s : TypeStore} {n : Nat} {t : TypeId}

/-! ## Declarations -/

theorem DeclaresMany.raw?_eq {declared : TypeRef} {head : TypeId}
    (h : s.DeclaresMany t declared head) : declared.raw? = some head := by
  cases h <;> assumption

/-- The top type is a class without supertypes, and no collection. -/
theorem Numbered.isCollectionLike_object (h : s.Numbered n) :
    s.isCollectionLike .object = false := by
  have hnone : ∀ u, ¬ s.Extends .object u := by
    rintro u ⟨info, args, hinfo, hclause⟩
    obtain rfl := Option.some.inj (h.get?_object.symm.trans hinfo)
    rcases hclause with hclause | hclause <;> cases hclause
  rw [← Bool.not_eq_true, isCollectionLike_iff]
  rintro ⟨root, hpath, hroot⟩
  rcases Relation.ReflTransGen.cases_head hpath with rfl | ⟨u, hu, -⟩
  · rw [marks, h.get?_object] at hroot
    cases hroot
  · exact hnone u hu

theorem DeclaresMany.ne_object (hn : s.Numbered n) {declared : TypeRef} {head : TypeId}
    (h : s.DeclaresMany t declared head) : head ≠ .object := by
  rintro rfl
  cases h with
  | array _ harray =>
    obtain ⟨name, hget, -⟩ := hn.get?_array harray
    cases (component?_object hn.get?_object).symm.trans (component?_of_array hget)
  | collection _ _ hlike _ => exact Bool.false_ne_true (hn.isCollectionLike_object.symm.trans hlike)

/-- Both kinds of declarations lead to the type, whatever else there is to learn from. -/
theorem DeclaresMany.ofDeclaration_eq (hn : s.Numbered n) {site : Site} {head : TypeId}
    (h : s.DeclaresMany t site.declared head) (r : AdapterRegistry) (rest : List ElementSource)
    (unresolved : Diagnostic) :
    Derivation.ofDeclaration s r site head (.declaration :: rest) unresolved =
      .ok (.plural (.declared t)) := by
  cases h with
  | array _ harray =>
    obtain ⟨name, hget, -⟩ := hn.get?_array harray
    exact ofDeclaration_of_component r site _ unresolved (component?_of_array hget)
  | collection _ hcomponent hlike helement =>
    rw [ofDeclaration_of_isCollectionLike r site _ unresolved hcomponent hlike,
      findElement_of_elementType? unresolved rest helement]
    rfl

/-- An object of a type that is called after itself has that type for a namesake. -/
theorem typeOfNamesake_runtime (hself : s.normalize t = t) :
    s.typeOfNamesake (.runtime (.ofType t)) = (t, s) :=
  congrArg (·, s) hself

end TypeStore

/-! ## Answers -/

open TypeStore

/-- Every question for many things is answered with the plural of one type. -/
theorem Inquiry.AsksForMany.exists_derive {s : TypeStore} {n : Nat} {t : TypeId} {q : Inquiry}
    (hq : q.AsksForMany s t) (hn : s.Numbered n) (hself : s.normalize t = t)
    (r : AdapterRegistry) :
    ∃ namesake, q.derive s r = .ok (.plural namesake) ∧ s.typeOfNamesake namesake = (t, s) := by
  cases hq with
  | array elements => exact ⟨.declared t, rfl, rfl⟩
  | collection u rest => exact ⟨.runtime (.ofType t), rfl, typeOfNamesake_runtime hself⟩
  | @parameter p head h =>
    have hhead : p.rawType = head := by rw [Parameter.rawType, TypeRef.rawOrObject, h.raw?_eq]; rfl
    refine ⟨.declared t, ?_, rfl⟩
    rw [derive, hhead]
    exact DeclaresMany.ofDeclaration_eq hn h r [] _
  | @returned m head h v =>
    have hdeclared : (m.returnSite head v).declared = m.returnType := if_pos h.raw?_eq
    refine ⟨.declared t, ?_, rfl⟩
    -- if it could be the top type, the value would decide and not the declaration
    rw [derive, if_neg (h.ne_object hn)]
    exact DeclaresMany.ofDeclaration_eq hn (hdeclared.symm ▸ h) r [.value] _

namespace TypeStore

variable {s : TypeStore} {t : TypeId}

theorem answer_object (hself : s.normalize t = t) (r : AdapterRegistry) :
    (Inquiry.value (.object t)).answer s r = ⟨.ok (s.variableName? t), s⟩ := by
  rw [Inquiry.answer, Inquiry.derive, Derivation.ofValue, Derivation.conclude, Derivation.write,
    typeOfNamesake_runtime hself]

/-- **All ways to ask for many things of one type give one name**, the name for one of them with the
ending of plurals, and none of them puts a type in.  The type is to be called after itself.  Without
circles of arrays there is a name; where one of them has none, many have none either. -/
theorem answer_of_asksForMany (gs : List Growth) (hroom : initial.allocations gs < room)
    (t : TypeId) (hself : (initial.run gs).normalize t = t) (r : AdapterRegistry) :
    ∃ called : Option String,
      (Inquiry.value (.object t)).answer (initial.run gs) r = ⟨.ok called, initial.run gs⟩ ∧
      (∀ q : Inquiry, q.AsksForMany (initial.run gs) t →
        q.answer (initial.run gs) r = ⟨.ok (called.map (· ++ "List")), initial.run gs⟩) ∧
      ((initial.run gs).NoArrayCircle → ∃ name, called = some name) := by
  have hn := numbered_run gs hroom
  refine ⟨(initial.run gs).variableName? t, answer_object hself r, fun q hq => ?_,
    fun hcircle => hcircle.exists_variableName? t⟩
  obtain ⟨namesake, hderive, htype⟩ := hq.exists_derive hn hself r
  rw [Inquiry.answer, hderive, Derivation.conclude, Derivation.write, htype]
  rfl

/-- A collection, a product, and the arrays of products. -/
def stockRun : List Growth := [
  .register { TypeInfo.ofInterface "java.util.Collection" with
    marks := { collection := true }, paramCount := 1 },
  .register (.ofClass "app.Product"),
  .arrayOf ⟨3⟩]

theorem variableName?_product : (initial.run stockRun).variableName? ⟨3⟩ = some "product" := by
  rw [variableName?_of_component?_eq_none (by decide)]
  decide +kernel

/-- The collections of products. -/
def stockOfProducts : TypeRef := .concrete ⟨2⟩ [.erased ⟨3⟩]

/-- A method that takes both and returns the second. -/
def restock : Method :=
  .ofMethod ⟨3⟩ "restock" [.erased ⟨4⟩, stockOfProducts] (some stockOfProducts)

theorem elementType?_stockOfProducts :
    (initial.run stockRun).elementType? stockOfProducts = some ⟨3⟩ := by
  have hsupers : (initial.run stockRun).superRefs stockOfProducts = [] := by decide
  have hvisits : (initial.run stockRun).visits stockOfProducts = [stockOfProducts] := by
    rw [stockOfProducts] at hsupers ⊢
    simp [visits, visitsFrom, hsupers]
  rw [elementType?, hvisits]
  decide

theorem isCollectionLike_stock : (initial.run stockRun).isCollectionLike ⟨2⟩ = true := by
  rw [isCollectionLike_iff]
  exact ⟨⟨2⟩, .refl, by decide⟩

theorem declaresMany_stockOfProducts :
    (initial.run stockRun).DeclaresMany ⟨3⟩ stockOfProducts ⟨2⟩ :=
  .collection rfl (by decide) isCollectionLike_stock elementType?_stockOfProducts

/-- All questions for many products that can be asked here get one answer. -/
theorem answer_manyProducts :
    initial.allocations stockRun < room ∧ (initial.run stockRun).normalize ⟨3⟩ = ⟨3⟩ ∧
      ∀ q ∈ [Inquiry.value (.array ⟨3⟩ []), .value (.collection ⟨2⟩ ⟨false, [.object ⟨3⟩]⟩),
          .parameter ⟨restock, 0, by decide⟩, .parameter ⟨restock, 1, by decide⟩,
          .methodReturn restock none, .methodReturn restock (some .null)],
        q.answer (initial.run stockRun) .empty =
          ⟨.ok (some "productList"), initial.run stockRun⟩ := by
  have hroom : initial.allocations stockRun < room := by decide
  have hself : (initial.run stockRun).normalize ⟨3⟩ = ⟨3⟩ := by decide
  obtain ⟨called, hcalled, hmany, hends⟩ := answer_of_asksForMany stockRun hroom ⟨3⟩ hself .empty
  obtain ⟨name, rfl⟩ := hends (noArrayCircle_of_lt (by decide))
  obtain rfl : "product" = name := by
    rw [answer_object hself, variableName?_product] at hcalled
    exact Option.some.inj (Except.ok.inj (congrArg Outcome.answer hcalled))
  refine ⟨hroom, hself, fun q hq => hmany q ?_⟩
  have hstock := declaresMany_stockOfProducts
  simp only [List.mem_cons, List.not_mem_nil, or_false] at hq
  rcases hq with rfl | rfl | rfl | rfl | rfl | rfl
  · exact .array []
  · exact .collection ⟨2⟩ []
  · exact .parameter (.array rfl (by decide))
  · exact .parameter hstock
  · exact .returned hstock none
  · exact .returned hstock (some .null)

end TypeStore
end VariableNaming
