import Mathlib.Data.List.Perm.Subperm
import VariableNaming.Proofs.Adapter.Nearest
import VariableNaming.Proofs.Digraph.LevelReading
import VariableNaming.Proofs.ElementType.Visits
import VariableNaming.Proofs.TypeStore.Growth

/-!
# The searches through the hierarchy come to an end

Three searches go up the hierarchy of a store: for an element type, for a root of the collections,
and for the nearest adapter.  A hierarchy may have circles, and on the way up the arguments of the
references may grow with every step, so that neither the height of the hierarchy nor the size of the
references bounds a search.  The number of known types does: the supertypes of a type are read once
at most, and only a known type has any.

* `EndsWith` — a search ends, with some answer, within this bound.
* `elementTypeWithin?`, `collectionLikeWithin?`, `AdapterRegistry.nearestWithin?` — the three
  searches, step by step.
* `expansiveStore` — two classes above which the references grow without end.
* `searches_end` — **all of it.**
-/

set_option autoImplicit false

namespace VariableNaming
namespace TypeStore

variable (s : TypeStore)

/-- The search comes to an end with this answer, whatever bound it is given that is not less than
the number of known types.  It reads the supertypes of no type twice, and of no more known types
than there are. -/
def EndsWith {β : Type} (search? : Nat → Option (Search TypeId β)) (answer : Option β) : Prop :=
  ∃ x, (∀ reads, s.size ≤ reads → search? reads = some x) ∧ x.found = answer ∧ x.read.Nodup ∧
    (x.read.filter s.contains).length ≤ s.size

theorem length_known : s.known.length = s.size := Std.TreeMap.length_keys

variable {s}

/-- What reads no type twice reads no more known types than there are. -/
theorem length_filter_contains_le {l : List TypeId} (h : l.Nodup) :
    (l.filter s.contains).length ≤ s.size := by
  have hsub : l.filter s.contains ⊆ s.known := fun t ht =>
    Std.TreeMap.mem_keys.2 (Std.TreeMap.contains_iff_mem.1 (List.mem_filter.1 ht).2)
  rw [← s.length_known]
  exact (List.subperm_of_subset (h.filter _) hsub).length_le

theorem endsWith_of_fresh {β : Type} {search? : Nat → Option (Search TypeId β)}
    {answer : Option β} {x : Search TypeId β} {done : List TypeId}
    (hx : ∀ reads, s.size ≤ reads → search? reads = some x) (hfresh : x.Fresh done)
    (hfound : x.found = answer) : s.EndsWith search? answer :=
  ⟨x, hx, hfound, hfresh.nodup, length_filter_contains_le hfresh.nodup⟩

theorem unseen_hierarchy_le (seen : List TypeId) : s.hierarchy.unseen seen ≤ s.size := by
  rw [← s.length_known]
  exact List.length_filter_le _ _

/-! ## The element type of a declaration -/

variable (s) in
/-- The supertypes of a reference, if they are read at all: those of a root of the collections are
not, and there are none of a type that is not known. -/
def readRefs? (r : TypeRef) : Option (List TypeRef) :=
  (r.raw?.bind s.get?).bind fun info =>
    if info.marks.collection then none else some (info.supertypes.map (TypeRef.substitute r.args))

theorem superRefs_eq_getD_readRefs? (r : TypeRef) : s.superRefs r = (s.readRefs? r).getD [] := by
  rw [superRefs, readRefs?]
  cases r.raw?.bind s.get? with
  | none => rfl
  | some info => cases hroot : info.marks.collection <;> simp [hroot]

variable (s) in
/-- The visitor of the references above a declaration. -/
def elementVisitor : Visitor TypeId TypeRef TypeId where
  node? := TypeRef.raw?
  told? := s.rootElement?
  above? := s.readRefs?

variable (s) in
/-- The search for an element type, if it reads the supertypes of so many types at most. -/
def elementTypeWithin? (declared : TypeRef) (reads : Nat) : Option (Search TypeId TypeId) :=
  s.elementVisitor.search? reads [] [declared]

theorem mem_known_of_readRefs? {r : TypeRef} {t : TypeId} {above : List TypeRef}
    (ht : r.raw? = some t) (h : s.readRefs? r = some above) : t ∈ s.known := by
  rw [readRefs?, ht, Option.bind_some] at h
  obtain ⟨info, hinfo, -⟩ := Option.bind_eq_some_iff.1 h
  rw [mem_known, hinfo]
  rfl

/-- A visit, and what is to be visited after it. -/
theorem visitsFrom_cons_of_raw? {seen : List TypeId} {r : TypeRef} {t : TypeId}
    (ht : r.raw? = some t) (hseen : t ∉ seen) (rest : List TypeRef) :
    s.visitsFrom seen (r :: rest) = r :: s.visitsFrom (t :: seen) (s.superRefs r ++ rest) := by
  rw [TypeRef.raw?_eq_some_iff.1 ht, visitsFrom, if_neg hseen]

/-- The search finds what is told first by the visited references. -/
theorem found_search?_elementVisitor {reads : Nat} {seen : List TypeId} {pending : List TypeRef}
    {x : Search TypeId TypeId} (hx : s.elementVisitor.search? reads seen pending = some x) :
    x.found = (s.visitsFrom seen pending).findSome? s.rootElement? := by
  fun_induction Visitor.search? s.elementVisitor reads seen pending generalizing x with
  | case1 reads seen =>
    obtain rfl := Option.some.inj hx
    rw [visitsFrom, List.findSome?_nil]
  | case2 reads seen r rest hr ih =>
    have hskipped : Skipped seen r := fun t ht =>
      absurd (hr.symm.trans ht) (Option.some_ne_none t).symm
    rw [ih hx, visitsFrom_cons_of_skipped hskipped]
  | case3 reads seen r rest t hr hseen ih =>
    have hskipped : Skipped seen r := fun u hu => Option.some.inj (hr.symm.trans hu) ▸ hseen
    rw [ih hx, visitsFrom_cons_of_skipped hskipped]
  | case4 reads seen r rest t hr hseen e he =>
    obtain rfl := Option.some.inj hx
    have he : s.rootElement? r = some e := he
    rw [visitsFrom_cons_of_raw? hr hseen, List.findSome?_cons, he]
  | case5 reads seen r rest t hr hseen hnone habove ih =>
    have hnone : s.rootElement? r = none := hnone
    have hsuper : s.superRefs r = [] := by
      rw [superRefs_eq_getD_readRefs?, show s.readRefs? r = none from habove, Option.getD_none]
    rw [visitsFrom_cons_of_raw? hr hseen, List.findSome?_cons, hnone, hsuper, List.nil_append]
    exact ih hx
  | case6 seen r rest t hr hseen hnone above habove => cases hx
  | case7 seen r rest t hr hseen hnone above habove reads ih =>
    obtain ⟨y, hy, rfl⟩ := Option.map_eq_some_iff.1 hx
    have hnone : s.rootElement? r = none := hnone
    have hsuper : s.superRefs r = above := by
      rw [superRefs_eq_getD_readRefs?, show s.readRefs? r = some above from habove,
        Option.getD_some]
    rw [visitsFrom_cons_of_raw? hr hseen, List.findSome?_cons, hnone, hsuper]
    exact ih (x := y) hy

theorem endsWith_elementType? (s : TypeStore) (declared : TypeRef) :
    s.EndsWith (s.elementTypeWithin? declared) (s.elementType? declared) := by
  obtain ⟨x, hx, hfresh⟩ := s.elementVisitor.exists_search? s.hierarchy
    (fun ht habove => mem_known_of_readRefs? ht habove) (s.unseen_hierarchy_le []) [declared]
  exact endsWith_of_fresh (fun reads hle => Visitor.search?_mono hx hle) hfresh
    (found_search?_elementVisitor hx)

/-! ## What is like a collection -/

variable (s) in
/-- What a type tells by itself: whether it is a root of the collections. -/
def root? (t : TypeId) : Option Unit := if s.isCollectionRoot t then some () else none

variable (s) in
/-- The search for a root of the collections above a type, if it reads the supertypes of so many
types at most. -/
def collectionLikeWithin? (t : TypeId) (reads : Nat) : Option (Search TypeId Unit) :=
  (Visitor.ofDigraph s.hierarchy s.root?).search? reads [] [t]

theorem isSome_root?_iff {t : TypeId} : (s.root? t).isSome ↔ (s.marks t).collection = true := by
  cases hroot : (s.marks t).collection <;> simp [root?, isCollectionRoot, hroot]

theorem isCollectionLike_iff_exists_root? {t : TypeId} :
    s.isCollectionLike t = true ↔ ∃ u, s.hierarchy.Reaches t u ∧ (s.root? u).isSome := by
  simp only [isCollectionLike, List.any_eq_true, Digraph.mem_breadthFirst, isSome_root?_iff]

theorem endsWith_isCollectionLike (s : TypeStore) (t : TypeId) :
    s.EndsWith (s.collectionLikeWithin? t) (if s.isCollectionLike t then some () else none) := by
  obtain ⟨x, hx, hfresh⟩ := (Visitor.ofDigraph s.hierarchy s.root?).exists_search? s.hierarchy
    (fun hu habove => Option.some.inj hu ▸ (Visitor.mem_nodes_of_above? habove).1)
    (s.unseen_hierarchy_le []) [t]
  have hfound : s.isCollectionLike t = x.found.isSome := by
    rw [Bool.eq_iff_iff, Visitor.isSome_found_search?_iff hx, isCollectionLike_iff_exists_root?]
  refine endsWith_of_fresh (fun reads hle => Visitor.search?_mono hx hle) hfresh ?_
  rw [hfound]
  cases x.found <;> rfl

end TypeStore

/-! ## The nearest adapter -/

namespace AdapterRegistry

/-- The search for the nearest adapter, if it reads the supertypes of so many known types at most.
There is nothing to read if there are no adapters, or if the type itself has one. -/
def nearestWithin? (r : AdapterRegistry) (s : TypeStore) (t : TypeId) (reads : Nat) :
    Option (Search TypeId Adapter) :=
  if r.isEmpty then some ⟨none, []⟩
  else
    match r.get? t with
    | some a => some ⟨some a, []⟩
    | none => s.hierarchy.levelSearch? r.get? reads [t] [] [t]

theorem get?_of_isEmpty {r : AdapterRegistry} (h : r.isEmpty = true) (t : TypeId) :
    r.get? t = none := by
  have hempty : r.kinds.isEmpty = true := h
  simp [get?, Std.TreeMap.getElem?_of_isEmpty hempty]

theorem endsWith_nearest? (r : AdapterRegistry) (s : TypeStore) (t : TypeId) :
    s.EndsWith (r.nearestWithin? s t) (r.nearest? s t) := by
  cases hempty : r.isEmpty with
  | true =>
    refine TypeStore.endsWith_of_fresh (x := ⟨none, []⟩) (fun reads _ => ?_)
      (Search.fresh_nil _ []) ?_
    · rw [nearestWithin?, if_pos hempty]
    · exact (List.findSome?_eq_none_iff.2 fun u _ => get?_of_isEmpty hempty u).symm
  | false =>
    have hnot : ¬ r.isEmpty = true := by simp [hempty]
    cases hown : r.get? t with
    | some a =>
      refine TypeStore.endsWith_of_fresh (x := ⟨some a, []⟩) (fun reads _ => ?_)
        (Search.fresh_nil _ []) (nearest?_of_get? hown).symm
      rw [nearestWithin?, if_neg hnot, hown]
    | none =>
      have hstart : Digraph.Waiting [] [t] ([t] ++ []) :=
        ⟨List.nil_subset _, List.Subset.refl _, fun _ => List.not_mem_nil, by simp⟩
      obtain ⟨x, hx, hfresh⟩ := Digraph.exists_levelSearch? (f := r.get?) hstart
        (s.unseen_hierarchy_le [])
      refine TypeStore.endsWith_of_fresh (fun reads hle => ?_) hfresh
        (Digraph.found_levelSearch?_eq_findSome?_breadthFirst hx hown)
      rw [nearestWithin?, if_neg hnot, hown]
      exact Digraph.levelSearch?_mono hx hle

end AdapterRegistry

/-! ## Arguments that grow -/

/-- The reference has arguments, these have arguments, and so on, so many times at least. -/
def TypeRef.NestedTo : Nat → TypeRef → Prop
  | 0, _ => True
  | n + 1, r => ∃ a ∈ r.args, NestedTo n a

namespace TypeStore

/-- Two classes that extend each other, and each puts its own instance into the other:
`A<T> extends B<A<T>>` and `B<T> extends A<B<T>>`. -/
def expansiveStore : TypeStore :=
  initial.run [
    .register { TypeInfo.ofClass "A" with
      superclass := some (.concrete ⟨3⟩ [.concrete ⟨2⟩ [.param 0]]), paramCount := 1 },
    .register { TypeInfo.ofClass "B" with
      superclass := some (.concrete ⟨2⟩ [.concrete ⟨3⟩ [.param 0]]), paramCount := 1 }]

/-- A class of the two extends the other with its own instance for the argument. -/
theorem superRefs_expansiveStore (a : TypeRef) :
    expansiveStore.superRefs (.concrete ⟨2⟩ [a]) = [.concrete ⟨3⟩ [.concrete ⟨2⟩ [a]]] ∧
      expansiveStore.superRefs (.concrete ⟨3⟩ [a]) = [.concrete ⟨2⟩ [.concrete ⟨3⟩ [a]]] := by
  have hA : (expansiveStore.get? ⟨2⟩).map (fun info => (info.marks, info.supertypes)) =
      some ({}, [.concrete ⟨3⟩ [.concrete ⟨2⟩ [.param 0]]]) := by decide
  have hB : (expansiveStore.get? ⟨3⟩).map (fun info => (info.marks, info.supertypes)) =
      some ({}, [.concrete ⟨2⟩ [.concrete ⟨3⟩ [.param 0]]]) := by decide
  obtain ⟨info, hinfo, hfields⟩ := Option.map_eq_some_iff.1 hA
  obtain ⟨info', hinfo', hfields'⟩ := Option.map_eq_some_iff.1 hB
  obtain ⟨hmarks, hclauses⟩ := Prod.mk.inj hfields
  obtain ⟨hmarks', hclauses'⟩ := Prod.mk.inj hfields'
  constructor
  · simp [superRefs, hinfo, hmarks, hclauses]
  · simp [superRefs, hinfo', hmarks', hclauses']

/-- The references above an instance of the first class grow without end: each is an instance of one
of the two, and has the one before it for its argument. -/
theorem exists_follow_expansiveStore (n : Nat) :
    ∃ path t a, follow expansiveStore.superRefs (.concrete ⟨2⟩ [.erased .object]) path =
      some (.concrete t [a]) ∧ (t = ⟨2⟩ ∨ t = ⟨3⟩) ∧ (TypeRef.concrete t [a]).NestedTo n := by
  induction n with
  | zero => exact ⟨[], ⟨2⟩, .erased .object, rfl, Or.inl rfl, trivial⟩
  | succ n ih =>
    obtain ⟨path, t, a, hpath, ht, ha⟩ := ih
    have hnested (u : TypeId) : (TypeRef.concrete u [.concrete t [a]]).NestedTo (n + 1) :=
      ⟨_, List.mem_singleton_self _, ha⟩
    obtain ⟨hA, hB⟩ := superRefs_expansiveStore a
    rcases ht with rfl | rfl
    · exact ⟨path ++ [0], ⟨3⟩, _, follow_snoc hpath (by rw [hA]; rfl), Or.inr rfl, hnested ⟨3⟩⟩
    · exact ⟨path ++ [0], ⟨2⟩, _, follow_snoc hpath (by rw [hB]; rfl), Or.inl rfl, hnested ⟨2⟩⟩

/-- **The searches through the hierarchy come to an end.**  In every store, the searches for an
element type, for a root of the collections and for the nearest adapter end with the answers that
`elementType?`, `isCollectionLike` and `nearest?` give, and read the supertypes of no type twice,
nor of more known types than there are.  No bound on the references makes them end: there are a
store and a declaration above which there are references with arguments nested as deep as one likes.
-/
theorem searches_end :
    (∀ s : TypeStore,
      (∀ declared, s.EndsWith (s.elementTypeWithin? declared) (s.elementType? declared)) ∧
      (∀ t, s.EndsWith (s.collectionLikeWithin? t)
        (if s.isCollectionLike t then some () else none)) ∧
      ∀ (r : AdapterRegistry) (t : TypeId),
        s.EndsWith (r.nearestWithin? s t) (r.nearest? s t)) ∧
    ∃ (s : TypeStore) (declared : TypeRef), ∀ n, ∃ path r,
      follow s.superRefs declared path = some r ∧ r.NestedTo n := by
  refine ⟨fun s => ⟨s.endsWith_elementType?, s.endsWith_isCollectionLike,
    fun r => r.endsWith_nearest? s⟩, expansiveStore, .concrete ⟨2⟩ [.erased .object], fun n => ?_⟩
  obtain ⟨path, t, a, hpath, -, ha⟩ := exists_follow_expansiveStore n
  exact ⟨path, _, hpath, ha⟩

end TypeStore
end VariableNaming
