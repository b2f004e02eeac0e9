import VariableNaming.Derivation.Inquiry
import VariableNaming.Proofs.TypeStore.Growth

/-!
# How far a type made at run time is unwrapped

A generated type hides its superclass, and a proxy its first interface that does not belong to the
language.  What is hidden can be made at run time itself: a framework may enhance an object that
another one has enhanced already.  Only the outermost layer is taken off, so that the name of a type
which nobody wrote shows where there are two.

* `Hides` — a type made at run time, with the type that it hides.
* `normalize_of_hides`, `normalize_of_forall_not_hides` — what is done with a type.
* `normalize_normalize_iff` — when nothing is left to be taken off.
* `normalize_enhancedTwice` — a class that was enhanced twice.
-/

set_option autoImplicit false

namespace VariableNaming
namespace TypeStore

/-- The type was made at run time in place of the other one: it is classified as generated below
it, or as a proxy of which it is the first interface that does not belong to the language. -/
inductive Hides (s : TypeStore) (t u : TypeId) : Prop
  | generated (h : s.runtimeShape t = .synthetic u)
  | proxy {before after : List TypeId} (h : s.runtimeShape t = .proxy (before ++ u :: after))
      (hbefore : ∀ v ∈ before, (s.marks v).languageInterface = true)
      (hu : (s.marks u).languageInterface = false)

variable {s : TypeStore} {t u : TypeId}

/-- What was made at run time is called after what it hides. -/
theorem normalize_of_hides (h : s.Hides t u) : s.normalize t = u := by
  cases h with
  | generated h => rw [normalize, h]
  | @proxy before after h hbefore hu =>
    have hnone : before.find? (fun v => !(s.marks v).languageInterface) = none := by
      simpa using hbefore
    rw [normalize, h]
    simp [List.find?_append, hnone, hu]

/-- Everything else is called after itself. -/
theorem normalize_of_forall_not_hides (h : ∀ u, ¬ s.Hides t u) : s.normalize t = t := by
  cases hshape : s.runtimeShape t with
  | plain => rw [normalize, hshape]
  | synthetic superclass => exact absurd (.generated hshape) (h superclass)
  | proxy interfaces =>
    rw [normalize, hshape]
    cases hfind : interfaces.find? fun v => !(s.marks v).languageInterface with
    | none => simp [hfind]
    | some u =>
      obtain ⟨hu, before, after, rfl, hbefore⟩ := List.find?_eq_some_iff_append.1 hfind
      refine absurd (.proxy hshape (fun v hv => ?_) ?_) (h u)
      · simpa using hbefore v hv
      · simpa using hu

/-- What a type is called after hides a type just when there are two layers. -/
theorem exists_hides_normalize_iff :
    (∃ v, s.Hides (s.normalize t) v) ↔ ∃ u v, s.Hides t u ∧ s.Hides u v := by
  constructor
  · rintro ⟨v, hv⟩
    by_cases ht : ∃ u, s.Hides t u
    · obtain ⟨u, hu⟩ := ht
      exact ⟨u, v, hu, normalize_of_hides hu ▸ hv⟩
    · -- a type that hides nothing is called after itself
      rw [normalize_of_forall_not_hides (not_exists.1 ht)] at hv
      exact absurd ⟨v, hv⟩ ht
  · rintro ⟨u, v, hu, hv⟩
    exact ⟨v, (normalize_of_hides hu).symm ▸ hv⟩

theorem normalize_normalize_eq_iff :
    s.normalize (s.normalize t) = s.normalize t ↔
      ∀ u v, s.Hides t u → s.Hides u v → v = u := by
  constructor
  · intro h u v hu hv
    rwa [normalize_of_hides hu, normalize_of_hides hv] at h
  · intro h
    by_cases ht : ∃ u, s.Hides t u
    · obtain ⟨u, hu⟩ := ht
      rw [normalize_of_hides hu]
      by_cases hu' : ∃ v, s.Hides u v
      · obtain ⟨v, hv⟩ := hu'
        rw [normalize_of_hides hv, h u v hu hv]
      · exact normalize_of_forall_not_hides (not_exists.1 hu')
    · rw [normalize_of_forall_not_hides (not_exists.1 ht),
        normalize_of_forall_not_hides (not_exists.1 ht)]

/-- **Normalization takes off one layer.**  A second time changes nothing just when the type hides
nothing that hides another type, and what a type, or a value of a class, is called after hides
another type exactly when there are two layers. -/
theorem normalize_normalize_iff (s : TypeStore) (t : TypeId) (k : RuntimeClass) :
    (s.normalize (s.normalize t) = s.normalize t ↔
      ∀ u v, s.Hides t u → s.Hides u v → v = u) ∧
    ((∃ v, s.Hides (s.normalize t) v) ↔ ∃ u v, s.Hides t u ∧ s.Hides u v) ∧
    ((∃ v, (s.typeOfClass k).2.Hides (s.namesakeOfClass k).1 v) ↔
      ∃ u v, (s.typeOfClass k).2.Hides (s.typeOfClass k).1 u ∧ (s.typeOfClass k).2.Hides u v) :=
  ⟨normalize_normalize_eq_iff, exists_hides_normalize_iff, exists_hides_normalize_iff⟩

/-- A product whose class was enhanced, and then enhanced again. -/
def enhancedTwiceStore : TypeStore :=
  initial.run [
    .register (.ofClass "com.app.Product"),
    .register { TypeInfo.ofClass "com.app.Product$$Enhanced" with
      superclass := some (.erased ⟨2⟩) },
    .register { TypeInfo.ofClass "com.app.Product$$Enhanced$$Proxied" with
      superclass := some (.erased ⟨3⟩) }]

/-- Such a product is called after the class that was generated first. -/
theorem normalize_enhancedTwice :
    enhancedTwiceStore.normalize ⟨4⟩ = ⟨3⟩ ∧ enhancedTwiceStore.normalize ⟨3⟩ = ⟨2⟩ ∧
      enhancedTwiceStore.runtimeShape ⟨3⟩ = .synthetic ⟨2⟩ ∧
      (enhancedTwiceStore.namesakeOfClass (.ofType ⟨4⟩)).1 = ⟨3⟩ ∧
      ((Inquiry.value (.object ⟨4⟩)).answer enhancedTwiceStore .empty).answer =
        .ok (some "enhanced") := by
  have hnormalize : enhancedTwiceStore.normalize ⟨4⟩ = ⟨3⟩ := by decide
  refine ⟨hnormalize, by decide, by decide, by decide, ?_⟩
  show Except.ok (enhancedTwiceStore.variableName? (enhancedTwiceStore.normalize ⟨4⟩)) = _
  rw [hnormalize, variableName?_of_component?_eq_none (by decide)]
  exact congrArg (fun name => Except.ok (some name)) (by decide +kernel)

end TypeStore
end VariableNaming
