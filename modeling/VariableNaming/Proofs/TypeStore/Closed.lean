import VariableNaming.Proofs.TypeStore.Growth
import VariableNaming.TypeStore.ElementType

/-!
# Stores that know all they mention

The description of a type mentions others: the component of an array type, and the types in its
supertype clauses with the arguments of these.  A store that knows all of them is closed, and a walk
from a known type never leaves what is known.

* `TypeRef.types` — the types in a reference.
* `Closed` — everything mentioned is known.
* `Closed.superRefs_subset`, `Closed.elementType?_mem_known` — the search for an element type stays
  among the known types.
-/

set_option autoImplicit false

namespace VariableNaming

/-! ## The types in a reference -/

namespace TypeRef

mutual

/-- The types that a reference mentions, at any depth. -/
def types : TypeRef → List TypeId
  | concrete raw args => raw :: typesAll args
  | param _ => []
  | unbound => []

/-- The types that the references of a list mention. -/
def typesAll : List TypeRef → List TypeId
  | [] => []
  | r :: rs => types r ++ typesAll rs

end

@[simp] theorem typesAll_eq_flatMap (rs : List TypeRef) : typesAll rs = rs.flatMap types := by
  induction rs with
  | nil => simp [typesAll]
  | cons r rs ih => simp [typesAll, ih]

@[simp] theorem types_concrete (t : TypeId) (as : List TypeRef) :
    (concrete t as).types = t :: as.flatMap types := by
  simp [types]

@[simp] theorem types_param (k : Nat) : (param k).types = [] := by
  simp [types]

@[simp] theorem types_unbound : unbound.types = [] := by
  simp [types]

theorem mem_types_of_raw? {r : TypeRef} {t : TypeId} (h : r.raw? = some t) : t ∈ r.types := by
  rw [raw?_eq_some_iff.1 h, types_concrete]
  exact List.mem_cons_self

theorem types_subset_of_mem_args {r a : TypeRef} (h : a ∈ r.args) : a.types ⊆ r.types := by
  cases r with
  | concrete t as =>
    intro u hu
    rw [types_concrete]
    exact List.mem_cons_of_mem _ (List.mem_flatMap.2 ⟨a, h, hu⟩)
  | param k => cases h
  | unbound => cases h

/-- The types in a reference after a substitution are in the reference or in an argument. -/
theorem mem_types_substitute {actual : List TypeRef} {t : TypeId} (r : TypeRef)
    (h : t ∈ (r.substitute actual).types) : t ∈ r.types ∨ ∃ a ∈ actual, t ∈ a.types := by
  induction r with
  | concrete raw args ih =>
    rw [substitute_concrete, types_concrete, List.mem_cons, List.mem_flatMap] at h
    rw [types_concrete, List.mem_cons, List.mem_flatMap]
    rcases h with rfl | ⟨q, hq, ht⟩
    · exact Or.inl (Or.inl rfl)
    · obtain ⟨a, ha, rfl⟩ := List.mem_map.1 hq
      exact (ih a ha ht).imp_left fun ht => Or.inr ⟨a, ha, ht⟩
  | param k =>
    rw [substitute_param] at h
    cases hk : actual[k]? with
    | none => simp [hk] at h
    | some a => exact Or.inr ⟨a, List.mem_of_getElem? hk, by simpa [hk] using h⟩
  | unbound => simp at h

end TypeRef

namespace TypeStore

/-! ## Closed stores -/

/-- The store knows every component of a known type and every type in its supertype clauses. -/
structure Closed (s : TypeStore) : Prop where
  component {t c : TypeId} (h : s.component? t = some c) : c ∈ s.known
  clause {t : TypeId} {info : TypeInfo} (h : s.get? t = some info) :
    ∀ r ∈ info.supertypes, r.types ⊆ s.known

variable {s : TypeStore} {t : TypeId}

/-- It is enough to look at the known types. -/
theorem closed_of_forall_known (h : ∀ t ∈ s.known, (∀ c ∈ s.component? t, c ∈ s.known) ∧
    ∀ info ∈ s.get? t, ∀ r ∈ info.supertypes, r.types ⊆ s.known) : s.Closed where
  component {t c} hc := by
    refine (h t ?_).1 c hc
    rw [mem_known]
    cases ht : s.get? t with
    | none => simp [component?, ht] at hc
    | some info => rfl
  clause {t info} hinfo := (h t (by simp [mem_known, hinfo])).2 info hinfo

theorem mem_known_iff_exists : t ∈ s.known ↔ ∃ info, s.get? t = some info := by
  rw [mem_known, Option.isSome_iff_exists]

/-- The supertypes of a type are known. -/
theorem Closed.supertypes_subset (h : s.Closed) (t : TypeId) : s.supertypes t ⊆ s.known := by
  intro u hu
  cases hinfo : s.get? t with
  | none => simp [supertypes, hinfo] at hu
  | some info =>
    obtain ⟨r, hr, hraw⟩ : ∃ r ∈ info.supertypes, r.raw? = some u := by
      simpa [supertypes, hinfo] using hu
    exact h.clause hinfo r hr (TypeRef.mem_types_of_raw? hraw)

theorem Closed.superclass?_mem_known (h : s.Closed) {u : TypeId} (hu : s.superclass? t = some u) :
    u ∈ s.known := by
  refine h.supertypes_subset t ?_
  rw [supertypes_eq, hu]
  exact List.mem_append_left _ (List.mem_singleton_self u)

theorem Closed.interfaces_subset (h : s.Closed) (t : TypeId) : s.interfaces t ⊆ s.known := by
  intro u hu
  refine h.supertypes_subset t ?_
  rw [supertypes_eq]
  exact List.mem_append_right _ hu

/-- The supertypes of a reference mention known types only, if the reference does. -/
theorem Closed.superRefs_subset (h : s.Closed) {q r : TypeRef} (hq : q.types ⊆ s.known)
    (hr : r ∈ s.superRefs q) : r.types ⊆ s.known := by
  intro u hu
  cases hinfo : q.raw?.bind s.get? with
  | none => simp [superRefs, hinfo] at hr
  | some info =>
    obtain ⟨t, -, ht⟩ := Option.bind_eq_some_iff.1 hinfo
    simp only [superRefs, hinfo] at hr
    split at hr
    · cases hr
    · obtain ⟨p, hp, rfl⟩ := List.mem_map.1 hr
      rcases TypeRef.mem_types_substitute p hu with hu | ⟨a, ha, hu⟩
      · exact h.clause ht p hp hu
      · exact hq (TypeRef.types_subset_of_mem_args ha hu)

/-- What the search visits mentions known types only. -/
theorem Closed.visitsFrom_subset (h : s.Closed) {seen : List TypeId} {pending : List TypeRef}
    (hpending : ∀ r ∈ pending, r.types ⊆ s.known) :
    ∀ r ∈ s.visitsFrom seen pending, r.types ⊆ s.known := by
  fun_induction visitsFrom s seen pending with
  | case1 => simp
  | case2 seen k rest ih => exact ih fun r hr => hpending r (List.mem_cons_of_mem _ hr)
  | case3 seen rest ih => exact ih fun r hr => hpending r (List.mem_cons_of_mem _ hr)
  | case4 seen raw args rest hraw ih => exact ih fun r hr => hpending r (List.mem_cons_of_mem _ hr)
  | case5 seen raw args rest hraw ih =>
    have hhead := hpending _ List.mem_cons_self
    intro r hr
    rcases List.mem_cons.1 hr with rfl | hr
    · exact hhead
    · refine ih (fun q hq => ?_) r hr
      rcases List.mem_append.1 hq with hq | hq
      · exact h.superRefs_subset hhead hq
      · exact hpending q (List.mem_cons_of_mem _ hq)

theorem Closed.elementType?_mem_known (h : s.Closed) {declared : TypeRef}
    (hdeclared : declared.types ⊆ s.known) {e : TypeId} (he : s.elementType? declared = some e) :
    e ∈ s.known := by
  obtain ⟨root, hroot, he⟩ := List.exists_of_findSome?_eq_some he
  have htypes : root.types ⊆ s.known :=
    h.visitsFrom_subset (by simpa using hdeclared) root hroot
  have harg : (root.arg? 0).bind TypeRef.raw? = some e := by
    rw [rootElement?] at he
    split at he
    · cases he
    · split at he
      · exact he
      · cases he
  obtain ⟨a, ha, hraw⟩ := Option.bind_eq_some_iff.1 harg
  exact htypes (TypeRef.types_subset_of_mem_args (List.mem_of_getElem? ha)
    (TypeRef.mem_types_of_raw? hraw))

end TypeStore
end VariableNaming
