import VariableNaming.Derivation.Inquiry
import VariableNaming.Proofs.TypeStore.ArrayChain
import VariableNaming.Proofs.TypeStore.Growth

/-!
# What array values are called after

An array value is called after the array type over its component.  This type has the name of the
component with brackets, is nested in no type and extends the top type, so that it looks like a
generated type where the name of the component has the separator of nested names in it; the value is
then called after the top type.

* `normalize_of_array` — what is done with an array type.
* `namesake_arrayValue` — an array value keeps its array type just when the simple name of that type
  is without the separator.
* `namesake_nestedArray` — an array over a nested class does not.
-/

set_option autoImplicit false

namespace VariableNaming
namespace TypeStore

variable {s : TypeStore}

/-! ## One array type -/

/-- The only way for an array type to be taken for another one is to look generated. -/
theorem normalize_of_array {a c : TypeId} {name : String}
    (h : s.get? a = some (.ofArray c name)) :
    s.normalize a =
      if QualifiedName.nestingSeparator ∈ (s.simpleName a).toList then .object else a := by
  have hproxy : (s.marks a).dynamicProxy = false := by
    rw [marks, h]
    rfl
  have hdeclaring : s.declaring? a = none := by
    rw [declaring?, h]
    rfl
  have hsuperclass : s.superclass? a = some .object := by
    rw [superclass?, h]
    rfl
  rw [normalize, runtimeShape, hproxy, looksGenerated, hdeclaring, hsuperclass]
  by_cases hgenerated : QualifiedName.nestingSeparator ∈ (s.simpleName a).toList
  · simp [hgenerated]
  · simp [hgenerated]

theorem component?_of_array {a c : TypeId} {name : String}
    (h : s.get? a = some (.ofArray c name)) : s.component? a = some c := by
  rw [component?, h]
  rfl

theorem simpleName_of_array {a c : TypeId} {name : String}
    (h : s.get? a = some (.ofArray c name)) :
    s.simpleName a = QualifiedName.simple name ++ QualifiedName.arrayEnding := by
  rw [simpleName, h]
  exact simple_append_arrayEnding name

theorem component?_object (h : s.get? .object = some .object) : s.component? .object = none := by
  rw [component?, h]
  rfl

theorem variableName?_object (h : s.get? .object = some .object) :
    s.variableName? .object = some "object" := by
  have hsimple : s.simpleName .object = "Object" := by
    rw [simpleName, h]
    decide
  rw [variableName?_of_component?_eq_none (component?_object h), hsimple]
  decide

/-! ## The array type that is put in -/

theorem get?_arrayOf_of_ne {c t : TypeId} (hne : t ≠ (s.arrayOf c).1) :
    (s.arrayOf c).2.get? t = s.get? t := by
  cases hc : s.arrays[c]? with
  | some a => rw [arrayOf_of_some hc]
  | none =>
    rw [fst_arrayOf_of_none hc] at hne
    rw [get?_arrayOf_of_none hc, if_neg hne]

/-- Putting in the array type does not change what its component is called. -/
theorem exists_variableName?_arrayOf {c : TypeId} (hcircle : (s.arrayOf c).2.NoArrayCircle)
    (hcomponent : (s.arrayOf c).2.component? (s.arrayOf c).1 = some c) :
    ∃ name, s.variableName? c = some name ∧ (s.arrayOf c).2.variableName? c = some name := by
  obtain ⟨a, chain⟩ := hcircle.exists_chain c
  -- the array type is not on the chain of its component: its own chain is longer
  have hne : ∀ u b, (s.arrayOf c).2.ArrayChain u b → b.depth ≤ a.depth → u ≠ (s.arrayOf c).1 := by
    rintro u b hb hle rfl
    obtain rfl := hb.unique (.wrap hcomponent chain)
    exact Nat.not_succ_le_self _ hle
  have chain' : s.ArrayChain c a := chain.congr fun u b hb hle => by
    rw [component?, component?, get?_arrayOf_of_ne (hne u b hb hle)]
  have hbase := get?_arrayOf_of_ne (hne _ _ chain.chain_base (Nat.zero_le _))
  obtain ⟨name, hname⟩ := chain'.exists_variableName?
  refine ⟨name, hname, ?_⟩
  rw [← hname, variableName?, variableName?, chain.shortName?_eq, chain'.shortName?_eq, simpleName,
    simpleName, hbase]

/-- The array type is called after its component as that is called now. -/
theorem exists_variableName?_fst_arrayOf {c : TypeId} (hcircle : (s.arrayOf c).2.NoArrayCircle)
    (hcomponent : (s.arrayOf c).2.component? (s.arrayOf c).1 = some c) :
    ∃ name, s.variableName? c = some name ∧
      (s.arrayOf c).2.variableName? (s.arrayOf c).1 = some (name ++ "[]") := by
  obtain ⟨name, hname, hname'⟩ := exists_variableName?_arrayOf hcircle hcomponent
  refine ⟨name, hname, ?_⟩
  rw [variableName?_of_component? hcomponent, hname']
  rfl

/-- The simple name of the array type is that of its component, unless it was put in for a component
without a name. -/
theorem simpleName_arrayOf {c : TypeId} {name : String} (hcircle : (s.arrayOf c).2.NoArrayCircle)
    (hget : (s.arrayOf c).2.get? (s.arrayOf c).1 = some (.ofArray c name))
    (hname : name = "" ∨ (s.arrayOf c).2.name? c = some name) :
    (s.arrayOf c).2.simpleName (s.arrayOf c).1 = s.simpleName c ++ "[]" ∨
      (s.arrayOf c).2.simpleName (s.arrayOf c).1 = "[]" := by
  rw [simpleName_of_array hget, QualifiedName.arrayEnding]
  rcases hname with rfl | hname
  · exact Or.inr (by decide)
  · left
    have hne : c ≠ (s.arrayOf c).1 := by
      intro h
      have hcomponent := component?_of_array hget
      rw [← h] at hcomponent
      exact hcircle c (.single hcomponent)
    obtain ⟨info, hinfo, rfl⟩ := Option.map_eq_some_iff.1 hname
    have hinfo' : s.get? c = some info := (get?_arrayOf_of_ne hne).symm.trans hinfo
    simp [simpleName, hinfo', TypeInfo.simpleName]

/-- An array type that is put in, or that was there, has the name its component had at some time. -/
theorem exists_get?_arrayOf {gs : List Growth} {c array : TypeId} {s' : TypeStore}
    (hroom : initial.allocations (gs ++ [.arrayOf c]) < room)
    (harray : (initial.run gs).arrayOf c = (array, s')) :
    s'.get? .object = some .object ∧
      ∃ name, s'.get? array = some (.ofArray c name) ∧ (name = "" ∨ s'.name? c = some name) := by
  have hrun : initial.run (gs ++ [.arrayOf c]) = s' := by
    rw [run, List.foldl_append]
    exact congrArg Prod.snd harray
  have hnumbered := numbered_run (gs ++ [.arrayOf c]) hroom
  rw [hrun] at hnumbered
  refine ⟨hnumbered.get?_object, hnumbered.get?_array ?_⟩
  have harrays := arrays_arrayOf (initial.run gs) c c
  rwa [harray, if_pos rfl] at harrays

/-! ## Array values -/

theorem namesake_array (s : TypeStore) (c : TypeId) (elements : List Value) :
    (Value.array c elements).runtimeClass?.map s.namesakeOfClass =
      some ((s.arrayOf c).2.normalize (s.arrayOf c).1, (s.arrayOf c).2) := rfl

theorem answer_arrayElement (s : TypeStore) (r : AdapterRegistry) (t c : TypeId)
    (elements rest : List Value) :
    (Inquiry.value (.collection t ⟨false, .array c elements :: rest⟩)).answer s r =
      ⟨.ok (((s.arrayOf c).2.variableName? ((s.arrayOf c).2.normalize (s.arrayOf c).1)).map
        Identifier.pluralize), (s.arrayOf c).2⟩ := rfl

/-- **An array value keeps its array type just when the simple name of that type is without the
separator of nested names**, and just then a collection of such values is called after their
component.  Otherwise both are called after the top type.  The simple name is that of the component
and a pair of brackets, or the brackets alone if the component was not known at the time. -/
theorem namesake_arrayValue (gs : List Growth) (c array : TypeId) (s' : TypeStore)
    (hroom : initial.allocations (gs ++ [.arrayOf c]) < room)
    (harray : (initial.run gs).arrayOf c = (array, s')) (hcircle : s'.NoArrayCircle)
    (elements rest : List Value) (t : TypeId) (r : AdapterRegistry) :
    ((Value.array c elements).runtimeClass?.map (initial.run gs).namesakeOfClass =
        some (array, s') ↔
      QualifiedName.nestingSeparator ∉ (s'.simpleName array).toList) ∧
    (∃ name, (initial.run gs).variableName? c = some name ∧
      ((Inquiry.value (.collection t ⟨false, .array c elements :: rest⟩)).answer
          (initial.run gs) r = ⟨.ok (some (name ++ "[]" ++ "List")), s'⟩ ↔
        QualifiedName.nestingSeparator ∉ (s'.simpleName array).toList)) ∧
    (QualifiedName.nestingSeparator ∈ (s'.simpleName array).toList →
      (Value.array c elements).runtimeClass?.map (initial.run gs).namesakeOfClass =
        some (.object, s') ∧
      (Inquiry.value (.collection t ⟨false, .array c elements :: rest⟩)).answer
        (initial.run gs) r = ⟨.ok (some "objectList"), s'⟩) ∧
    (s'.simpleName array = (initial.run gs).simpleName c ++ "[]" ∨ s'.simpleName array = "[]") := by
  obtain ⟨hobject, name, hget, hname⟩ := exists_get?_arrayOf hroom harray
  have hfst : ((initial.run gs).arrayOf c).1 = array := congrArg Prod.fst harray
  have hsnd : ((initial.run gs).arrayOf c).2 = s' := congrArg Prod.snd harray
  have hcomponent := component?_of_array hget
  have hnormalize := normalize_of_array hget
  have hne : TypeId.object ≠ array := by
    rintro rfl
    cases (component?_object hobject).symm.trans hcomponent
  obtain ⟨called, hcalled, hcalled'⟩ : ∃ name, (initial.run gs).variableName? c = some name ∧
      s'.variableName? array = some (name ++ "[]") := by
    subst hsnd hfst
    exact exists_variableName?_fst_arrayOf hcircle hcomponent
  have hdiffer : "objectList" ≠ called ++ "[]" ++ "List" := by
    intro h
    have hmem : '[' ∈ "objectList".toList := by simp [h]
    exact absurd hmem (by decide)
  have hsimple : s'.simpleName array = (initial.run gs).simpleName c ++ "[]" ∨
      s'.simpleName array = "[]" := by
    subst hsnd hfst
    exact simpleName_arrayOf hcircle hget hname
  rw [namesake_array, answer_arrayElement, hfst, hsnd, hnormalize]
  by_cases hsep : QualifiedName.nestingSeparator ∈ (s'.simpleName array).toList
  · rw [if_pos hsep, variableName?_object hobject]
    have hclass : some (TypeId.object, s') ≠ some (array, s') := fun h =>
      hne (congrArg Prod.fst (Option.some_inj.1 h))
    have hanswer : (⟨.ok (some (Identifier.pluralize "object")), s'⟩ : Outcome (Option String)) ≠
        ⟨.ok (some (called ++ "[]" ++ "List")), s'⟩ := fun h =>
      hdiffer (Option.some.inj (Except.ok.inj (congrArg Outcome.answer h)))
    exact ⟨iff_of_false hclass (not_not.2 hsep),
      ⟨called, hcalled, iff_of_false hanswer (not_not.2 hsep)⟩, fun _ => ⟨rfl, rfl⟩, hsimple⟩
  · rw [if_neg hsep, hcalled']
    exact ⟨iff_of_true rfl hsep, ⟨called, hcalled, iff_of_true rfl hsep⟩,
      fun h => absurd h hsep, hsimple⟩

/-- An array of a top-level class keeps its type. -/
theorem namesake_flatArray :
    (Inquiry.value (.collection .object ⟨false, [.array ⟨2⟩ []]⟩)).answer
        (initial.run [.register (.ofClass "com.app.Product")]) .empty =
      ⟨.ok (some "product[]List"),
        initial.run [.register (.ofClass "com.app.Product"), .arrayOf ⟨2⟩]⟩ := by
  obtain ⟨-, ⟨name, hname, hanswer⟩, -⟩ :=
    namesake_arrayValue [.register (.ofClass "com.app.Product")] ⟨2⟩ ⟨3⟩ _ (by decide) rfl
      (noArrayCircle_of_lt (by decide)) [] [] .object .empty
  obtain rfl : "product" = name := by
    rw [← Option.some_inj, ← hname, variableName?_of_component?_eq_none (by decide)]
    decide +kernel
  exact hanswer.2 (by decide)

/-- A class inside another. -/
def nestedStore : TypeStore :=
  initial.run [
    .register (.ofClass "com.app.Outer"),
    .register { TypeInfo.ofClass "com.app.Outer$Inner" with declaring := some ⟨2⟩ }]

/-- An array over it does not: the name of the array type looks generated, as the array type is not
nested itself. -/
theorem namesake_nestedArray :
    (nestedStore.arrayOf ⟨3⟩).1 = ⟨4⟩ ∧ (nestedStore.arrayOf ⟨3⟩).2.NoArrayCircle ∧
    ((Value.array ⟨3⟩ []).runtimeClass?.map nestedStore.namesakeOfClass).map Prod.fst =
      some .object ∧
    nestedStore.variableName? ⟨3⟩ = some "inner" ∧
    ((Inquiry.value (.collection .object ⟨false, [.array ⟨3⟩ []]⟩)).answer nestedStore
      .empty).answer = .ok (some "objectList") := by
  refine ⟨?_, noArrayCircle_of_lt ?_, ?_, ?_, ?_⟩
  · decide
  · decide
  · decide
  · rw [variableName?_of_component?_eq_none (by decide)]
    decide +kernel
  · have hnormalize :
        (nestedStore.arrayOf ⟨3⟩).2.normalize (nestedStore.arrayOf ⟨3⟩).1 = .object := by decide
    rw [answer_arrayElement, hnormalize, variableName?_object (by decide)]
    exact congrArg (fun name => Except.ok (some name)) (by decide)

end TypeStore
end VariableNaming
