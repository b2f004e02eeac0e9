import Mathlib.Data.List.Basic
import Mathlib.Data.List.Find
import VariableNaming.Adapter.Registry
import VariableNaming.Digraph.Reach
import VariableNaming.Proofs.TypeStore.ArrayChain
import VariableNaming.Proofs.TypeStore.Bookkeeping
import VariableNaming.Proofs.TypeStore.Closed
import VariableNaming.TypeStore.RuntimeShape

/-!
# What a store says when it has grown

A closed store answers every question about a type that it knows from the descriptions of types that
it knows.  As these stay when the store grows, so do the answers.

* `Grown` — a store has grown to another.  `Grown.run` says that a run makes a store grow.
* `Grown.isCollectionLike_eq`, `Grown.nearest?_eq`, `Grown.elementType?_eq` — the searches.
* `Grown.shortName?_eq`, `Grown.variableName?_eq`, `Grown.wrappedName?_eq` — names.
* `Grown.normalize_eq` — types made at run time.
* `exists_get?_array` — an array type is called the same whenever it is put in.
-/

set_option autoImplicit false

namespace VariableNaming
namespace TypeStore

/-- The second store is the first one, grown: descriptions and array types are what they were, and
an array type that has been put in since over a type known before is called after that type. -/
structure Grown (s s' : TypeStore) : Prop where
  get? {t : TypeId} {info : TypeInfo} (h : s.get? t = some info) : s'.get? t = some info
  arrays {c a : TypeId} (h : s.arrays[c]? = some a) : s'.arrays[c]? = some a
  newArray {c a : TypeId} (hc : c ∈ s.known) (hnone : s.arrays[c]? = none)
    (ha : s'.arrays[c]? = some a) : s'.get? a = some (.ofArray c (s.qualifiedName c))

variable {s s' : TypeStore} {n : Nat} {t : TypeId}

theorem Grown.refl (s : TypeStore) : s.Grown s where
  get? h := h
  arrays h := h
  newArray _ hnone ha := by cases hnone.symm.trans ha

theorem Grown.get?_eq (h : s.Grown s') (ht : t ∈ s.known) : s'.get? t = s.get? t := by
  obtain ⟨info, hinfo⟩ := mem_known_iff_exists.1 ht
  rw [hinfo, h.get? hinfo]

theorem Grown.qualifiedName_eq (h : s.Grown s') (ht : t ∈ s.known) :
    s'.qualifiedName t = s.qualifiedName t := by
  show ((s'.get? t).map (·.name)).getD "" = ((s.get? t).map (·.name)).getD ""
  rw [h.get?_eq ht]

/-- One step more. -/
theorem Grown.grow (h : s.Grown s') (hn : s'.Numbered n) (g : Growth) : s.Grown (s'.grow g) where
  get? ht := hn.get?_grow (h.get? ht) g
  arrays ha := arrays_grow (h.arrays ha) g
  newArray {c a} hc hnone ha := by
    cases hold : s'.arrays[c]? with
    | some b =>
      obtain rfl : b = a := Option.some.inj ((arrays_grow hold g).symm.trans ha)
      exact hn.get?_grow (h.newArray hc hnone hold) g
    | none =>
      -- the step puts the array type in
      cases g with
      | register info => cases hold.symm.trans ha
      | arrayOf d =>
        rw [TypeStore.grow, arrays_arrayOf] at ha
        split at ha
        · rename_i hd
          subst hd
          obtain rfl : s'.next = a := by simpa [fst_arrayOf_of_none hold] using ha
          rw [TypeStore.grow, get?_arrayOf_of_none hold, if_pos rfl, h.qualifiedName_eq hc]
        · cases hold.symm.trans ha

/-- **A run makes a store grow.** -/
theorem Grown.run (h : s.Grown s') (hn : s'.Numbered n) {gs : List Growth}
    (hroom : n + s'.allocations gs < room) : s.Grown (s'.run gs) :=
  hn.run_induct (motive := fun s' => s.Grown s') (fun hn g h => h.grow hn g) hroom h

/-! ## The searches -/

theorem Grown.component?_eq (h : s.Grown s') (ht : t ∈ s.known) :
    s'.component? t = s.component? t := by
  rw [component?, component?, h.get?_eq ht]

theorem Grown.marks_eq (h : s.Grown s') (ht : t ∈ s.known) : s'.marks t = s.marks t := by
  rw [marks, marks, h.get?_eq ht]

/-- A walk up the hierarchy stays among the known types. -/
theorem Closed.mem_known_of_reaches (hclosed : s.Closed) (ht : t ∈ s.known) {u : TypeId}
    (hu : s.hierarchy.Reaches t u) : u ∈ s.known :=
  hu.mem_of_closed (p := (· ∈ s.known)) (fun v _ _ hw => hclosed.supertypes_subset v hw) ht

theorem Grown.breadthFirst_eq (h : s.Grown s') (hclosed : s.Closed) (ht : t ∈ s.known) :
    s'.hierarchy.breadthFirst t = s.hierarchy.breadthFirst t :=
  Digraph.breadthFirst_congr _ fun u hu => by
    rw [next_hierarchy, next_hierarchy, supertypes, supertypes,
      h.get?_eq (hclosed.mem_known_of_reaches ht hu)]

theorem Grown.isCollectionLike_eq (h : s.Grown s') (hclosed : s.Closed) (ht : t ∈ s.known) :
    s'.isCollectionLike t = s.isCollectionLike t := by
  rw [isCollectionLike, isCollectionLike, h.breadthFirst_eq hclosed ht, Bool.eq_iff_iff,
    List.any_eq_true, List.any_eq_true]
  refine exists_congr fun u => and_congr_right fun hu => ?_
  rw [h.marks_eq (hclosed.mem_known_of_reaches ht ((Digraph.mem_breadthFirst _).1 hu))]

theorem Grown.nearest?_eq (h : s.Grown s') (hclosed : s.Closed) (ht : t ∈ s.known)
    (r : AdapterRegistry) : r.nearest? s' t = r.nearest? s t := by
  rw [AdapterRegistry.nearest?, AdapterRegistry.nearest?, h.breadthFirst_eq hclosed ht]

theorem Grown.superRefs_eq (h : s.Grown s') {r : TypeRef} (hr : r.types ⊆ s.known) :
    s'.superRefs r = s.superRefs r := by
  have hinfo : r.raw?.bind s'.get? = r.raw?.bind s.get? := by
    cases hraw : r.raw? with
    | none => rfl
    | some t => exact h.get?_eq (hr (TypeRef.mem_types_of_raw? hraw))
  rw [superRefs, superRefs, hinfo]

theorem Grown.rootElement?_eq (h : s.Grown s') {r : TypeRef} (hr : r.types ⊆ s.known) :
    s'.rootElement? r = s.rootElement? r := by
  cases hraw : r.raw? with
  | none => rw [rootElement?, rootElement?, hraw]
  | some t =>
    have hroot : s'.isCollectionRoot t = s.isCollectionRoot t := by
      rw [isCollectionRoot, isCollectionRoot, h.marks_eq (hr (TypeRef.mem_types_of_raw? hraw))]
    simp only [rootElement?, hraw, hroot]

theorem Grown.visitsFrom_eq (h : s.Grown s') (hclosed : s.Closed) {seen : List TypeId}
    {pending : List TypeRef} (hpending : ∀ r ∈ pending, r.types ⊆ s.known) :
    s'.visitsFrom seen pending = s.visitsFrom seen pending := by
  fun_induction visitsFrom s seen pending with
  | case1 => rw [visitsFrom]
  | case2 seen k rest ih =>
    rw [visitsFrom]
    exact ih fun r hr => hpending r (List.mem_cons_of_mem _ hr)
  | case3 seen rest ih =>
    rw [visitsFrom]
    exact ih fun r hr => hpending r (List.mem_cons_of_mem _ hr)
  | case4 seen raw args rest hraw ih =>
    rw [visitsFrom, if_pos hraw]
    exact ih fun r hr => hpending r (List.mem_cons_of_mem _ hr)
  | case5 seen raw args rest hraw ih =>
    have hhead := hpending _ List.mem_cons_self
    rw [visitsFrom, if_neg hraw, h.superRefs_eq hhead, ih]
    intro r hr
    rcases List.mem_append.1 hr with hr | hr
    · exact hclosed.superRefs_subset hhead hr
    · exact hpending r (List.mem_cons_of_mem _ hr)

theorem Grown.elementType?_eq (h : s.Grown s') (hclosed : s.Closed) {declared : TypeRef}
    (hdeclared : declared.types ⊆ s.known) :
    s'.elementType? declared = s.elementType? declared := by
  have hpending : ∀ r ∈ [declared], r.types ⊆ s.known := by simpa using hdeclared
  rw [elementType?, elementType?, visits, visits, h.visitsFrom_eq hclosed hpending,
    ← List.head?_filterMap, ← List.head?_filterMap]
  exact congrArg List.head? (List.filterMap_congr fun r hr =>
    h.rootElement?_eq (hclosed.visitsFrom_subset hpending r hr))

/-! ## Names -/

theorem Grown.arrayChain (h : s.Grown s') (hclosed : s.Closed) {a : ArrayShape}
    (chain : s.ArrayChain t a) (ht : t ∈ s.known) : s'.ArrayChain t a ∧ a.base ∈ s.known := by
  induction chain with
  | base hnone => exact ⟨.base ((h.component?_eq ht).trans hnone), ht⟩
  | wrap hc _ ih =>
    obtain ⟨chain, hbase⟩ := ih (hclosed.component hc)
    exact ⟨.wrap ((h.component?_eq ht).trans hc) chain, hbase⟩

theorem Grown.shortName?_eq (h : s.Grown s') (hclosed : s.Closed) (hcircle : s.NoArrayCircle)
    (ht : t ∈ s.known) : s'.shortName? t = s.shortName? t := by
  obtain ⟨a, chain⟩ := hcircle.exists_chain t
  obtain ⟨chain', hbase⟩ := h.arrayChain hclosed chain ht
  rw [chain'.shortName?_eq, chain.shortName?_eq, simpleName_eq, simpleName_eq,
    h.qualifiedName_eq hbase]

theorem Grown.variableName?_eq (h : s.Grown s') (hclosed : s.Closed) (hcircle : s.NoArrayCircle)
    (ht : t ∈ s.known) : s'.variableName? t = s.variableName? t := by
  rw [variableName?, variableName?, h.shortName?_eq hclosed hcircle ht]

theorem Grown.wrappedName?_eq (h : s.Grown s') (hclosed : s.Closed) (hcircle : s.NoArrayCircle)
    {wrapper : TypeId} (ht : t ∈ s.known) (hwrapper : wrapper ∈ s.known) :
    s'.wrappedName? t wrapper = s.wrappedName? t wrapper := by
  rw [wrappedName?, wrappedName?, h.variableName?_eq hclosed hcircle ht,
    h.shortName?_eq hclosed hcircle hwrapper]

/-! ## Types made at run time -/

theorem Grown.runtimeShape_eq (h : s.Grown s') (ht : t ∈ s.known) :
    s'.runtimeShape t = s.runtimeShape t := by
  unfold runtimeShape looksGenerated marks simpleName declaring? superclass? interfaces
  rw [h.get?_eq ht]

theorem interfaces_of_proxy {is : List TypeId} (h : s.runtimeShape t = .proxy is) :
    is = s.interfaces t := by
  rw [runtimeShape] at h
  split at h
  · exact (RuntimeShape.proxy.inj h).symm
  · split at h
    · split at h <;> cases h
    · cases h

theorem superclass?_of_synthetic {u : TypeId} (h : s.runtimeShape t = .synthetic u) :
    s.superclass? t = some u := by
  rw [runtimeShape] at h
  split at h
  · cases h
  · split at h
    · split at h
      · rename_i hsuper
        rw [hsuper, RuntimeShape.synthetic.inj h]
      · cases h
    · cases h

theorem Grown.normalize_eq (h : s.Grown s') (hclosed : s.Closed) (ht : t ∈ s.known) :
    s'.normalize t = s.normalize t := by
  rw [normalize, normalize, h.runtimeShape_eq ht]
  cases hshape : s.runtimeShape t with
  | plain => rfl
  | synthetic superclass => rfl
  | proxy is =>
    obtain rfl := interfaces_of_proxy hshape
    refine congrArg (Option.getD · t) (List.find?_congr fun i hi => ?_)
    rw [h.marks_eq (hclosed.interfaces_subset t hi)]

/-- What a known type is called after is known. -/
theorem Closed.normalize_mem_known (hclosed : s.Closed) (ht : t ∈ s.known) :
    s.normalize t ∈ s.known := by
  rw [normalize]
  cases hshape : s.runtimeShape t with
  | plain => exact ht
  | synthetic superclass => exact hclosed.superclass?_mem_known (superclass?_of_synthetic hshape)
  | proxy is =>
    obtain rfl := interfaces_of_proxy hshape
    cases hfind : (s.interfaces t).find? fun i => !(s.marks i).languageInterface with
    | none => simpa [hfind] using ht
    | some u => simpa [hfind] using hclosed.interfaces_subset t (List.mem_of_find?_eq_some hfind)

/-! ## Array types -/

/-- The array type over a known component is called the same in every store to which this one
grows, whenever it is put in. -/
theorem exists_get?_array (hn : s.Numbered n) {c : TypeId} (hc : c ∈ s.known) :
    ∃ name, ∀ (s' : TypeStore) (a : TypeId), s.Grown s' → s'.arrays[c]? = some a →
      s'.get? a = some (.ofArray c name) := by
  cases hold : s.arrays[c]? with
  | none => exact ⟨s.qualifiedName c, fun s' a h ha => h.newArray hc hold ha⟩
  | some b =>
    obtain ⟨name, hget, -⟩ := hn.get?_array hold
    refine ⟨name, fun s' a h ha => ?_⟩
    obtain rfl : b = a := Option.some.inj ((h.arrays hold).symm.trans ha)
    exact h.get? hget

end TypeStore
end VariableNaming
