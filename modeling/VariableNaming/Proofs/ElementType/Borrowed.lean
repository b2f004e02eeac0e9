import VariableNaming.Proofs.ElementType.Path
import VariableNaming.Proofs.TypeStore.CollectionLike

/-!
# Element types of what is no collection

The hierarchy is read in two ways.  Whether a type is like a collection depends on its clauses as
they are written, and the type of the elements on the clauses with the arguments of the declaration
in them.  The two agree on every clause but one that is a type parameter itself: as it is written it
names no supertype, but a declaration lends it one.  So an element type may be found for a type that
is not like a collection.

* `BorrowsAt`, `Borrows` — a way through the hierarchy takes an argument for a supertype.
* `isCollectionLike_iff_exists_rootAt` — a type is like a collection if some way leads to a root of
  the collections without that.
* `isCollectionLike_iff_of_elementType?` — so what has an element type is like a collection, unless
  every way to a root borrows.
* `elementType?_of_not_isCollectionLike` — a loan of a collection has one, and is no collection.
-/

set_option autoImplicit false

namespace VariableNaming
namespace TypeStore

/-! ## Borrowed supertypes -/

/-- One of the clauses of the type is a type parameter. -/
def ExtendsParam (s : TypeStore) (t : TypeId) : Prop :=
  ∃ info k, s.get? t = some info ∧ .param k ∈ info.supertypes

/-- The clause with this number is a type parameter of the type at the head, so that the supertype
is an argument of the reference. -/
def BorrowsAt (s : TypeStore) (q : TypeRef) (i : Nat) : Prop :=
  ∃ t info k, q.raw? = some t ∧ s.get? t = some info ∧ info.supertypes[i]? = some (.param k)

/-- The way takes an argument for a supertype, somewhere. -/
inductive Borrows (s : TypeStore) : TypeRef → List Nat → Prop
  | here {q : TypeRef} {i : Nat} {path : List Nat} (h : s.BorrowsAt q i) : Borrows s q (i :: path)
  | later {q r : TypeRef} {i : Nat} {path : List Nat} (hr : (s.superRefs q)[i]? = some r)
      (h : Borrows s r path) : Borrows s q (i :: path)

/-- The way leads to a root of the collections, whatever its arguments are. -/
def RootAt (s : TypeStore) (declared : TypeRef) (path : List Nat) : Prop :=
  ∃ root t, follow s.superRefs declared path = some root ∧ root.raw? = some t ∧
    s.isCollectionRoot t = true

variable {s : TypeStore} {q r : TypeRef} {t u : TypeId} {i : Nat} {path : List Nat}

theorem BorrowsAt.extendsParam (h : s.BorrowsAt q i) (hq : q.raw? = some t) :
    s.ExtendsParam t := by
  obtain ⟨t', info, k, hq', hinfo, hclause⟩ := h
  obtain rfl : t = t' := Option.some.inj (hq.symm.trans hq')
  exact ⟨info, k, hinfo, List.mem_of_getElem? hclause⟩

/-- A way to an element type leads to a root. -/
theorem ElementAt.rootAt {e : TypeId} (h : s.ElementAt q path e) : s.RootAt q path := by
  obtain ⟨root, hroot, he⟩ := h
  rw [rootElement?] at he
  split at he
  · cases he
  · rename_i t ht
    split at he
    · rename_i hcollection
      exact ⟨root, t, hroot, ht, hcollection⟩
    · cases he

theorem rootAt_cons (hr : (s.superRefs q)[i]? = some r) :
    s.RootAt q (i :: path) ↔ s.RootAt r path := by
  simp [RootAt, hr]

/-- Only from a type there is a way to a root. -/
theorem RootAt.exists_raw (h : s.RootAt q path) : ∃ t, q.raw? = some t := by
  obtain ⟨root, t, hroot, ht, -⟩ := h
  cases path with
  | nil =>
    obtain rfl := Option.some.inj hroot
    exact ⟨t, ht⟩
  | cons i path =>
    cases hq : q.raw? with
    | some t => exact ⟨t, rfl⟩
    | none => simp [superRefs_eq_nil_of_raw?_eq_none hq] at hroot

/-! ## Clauses as they are written, and with the arguments in them -/

/-- A supertype that is not borrowed is written in a clause. -/
theorem extends_of_superRef (hq : q.raw? = some t) (hr : (s.superRefs q)[i]? = some r)
    (hu : r.raw? = some u) (hown : ¬ s.BorrowsAt q i) : s.Extends t u := by
  cases hinfo : s.get? t with
  | none => simp [superRefs, hq, hinfo] at hr
  | some info =>
    have hmap : (info.supertypes.map (TypeRef.substitute q.args))[i]? = some r := by
      rw [superRefs, hq, Option.bind_some, hinfo] at hr
      dsimp only at hr
      split at hr
      · cases hr
      · exact hr
    rw [List.getElem?_map, Option.map_eq_some_iff] at hmap
    obtain ⟨clause, hclause, rfl⟩ := hmap
    cases clause with
    | concrete raw args =>
      obtain rfl : raw = u := by simpa using hu
      rw [← mem_supertypes_iff_extends, supertypes, hinfo]
      exact List.mem_filterMap.2 ⟨_, List.mem_of_getElem? hclause, rfl⟩
    | param k => exact absurd ⟨t, info, k, hq, hinfo, hclause⟩ hown
    | unbound => simp at hu

/-- What is written in a clause is a supertype of every reference to the type, and not borrowed. -/
theorem exists_superRef_of_extends (hq : q.raw? = some t) (hroot : s.isCollectionRoot t = false)
    (h : s.Extends t u) :
    ∃ i r, (s.superRefs q)[i]? = some r ∧ r.raw? = some u ∧ ¬ s.BorrowsAt q i := by
  obtain ⟨info, args, hinfo, hclause⟩ := h
  have hmem : .concrete u args ∈ info.supertypes := by
    rwa [TypeInfo.supertypes, List.mem_append, Option.mem_toList]
  have hmark : info.marks.collection = false := by
    simpa [isCollectionRoot, marks, hinfo] using hroot
  obtain ⟨i, hi⟩ := List.getElem?_of_mem hmem
  refine ⟨i, TypeRef.substitute q.args (.concrete u args), ?_, by simp, ?_⟩
  · simp [superRefs, hq, hinfo, hmark, hi]
  · rintro ⟨t', info', k, hq', hinfo', hparam⟩
    obtain rfl : t = t' := Option.some.inj (hq.symm.trans hq')
    obtain rfl : info = info' := Option.some.inj (hinfo.symm.trans hinfo')
    cases hi.symm.trans hparam

/-! ## What is like a collection -/

/-- A way to a root that borrows nothing goes up the clauses. -/
theorem RootAt.isCollectionLike (h : s.RootAt q path) (hown : ¬ s.Borrows q path)
    (hq : q.raw? = some t) : s.isCollectionLike t = true := by
  rw [isCollectionLike_iff]
  induction path generalizing q t with
  | nil =>
    obtain ⟨root, u, hroot, hu, hcollection⟩ := h
    obtain rfl := Option.some.inj hroot
    obtain rfl : t = u := Option.some.inj (hq.symm.trans hu)
    exact ⟨t, .refl, hcollection⟩
  | cons i path ih =>
    obtain ⟨r, hr, -⟩ := Option.bind_eq_some_iff.1 h.choose_spec.choose_spec.1
    have hrest : s.RootAt r path := (rootAt_cons hr).1 h
    obtain ⟨u, hu⟩ := hrest.exists_raw
    have hclause : s.Extends t u := extends_of_superRef hq hr hu fun hat => hown (.here hat)
    obtain ⟨root, hpath, hroot⟩ := ih hrest (fun hlater => hown (.later hr hlater)) hu
    exact ⟨root, .head hclause hpath, hroot⟩

/-- **A type is like a collection exactly when some way leads from a reference to it to a root of
the collections and borrows nothing**, whatever the arguments of the reference are. -/
theorem isCollectionLike_iff_exists_rootAt (hq : q.raw? = some t) :
    s.isCollectionLike t = true ↔ ∃ path, s.RootAt q path ∧ ¬ s.Borrows q path := by
  refine ⟨fun h => ?_, fun ⟨path, hroot, hown⟩ => hroot.isCollectionLike hown hq⟩
  obtain ⟨root, hpath, hroot⟩ := isCollectionLike_iff.1 h
  clear h
  induction hpath using Relation.ReflTransGen.head_induction_on generalizing q with
  | refl => exact ⟨[], ⟨q, root, rfl, hq, hroot⟩, nofun⟩
  | @head t u hclause _ ih =>
    -- the ways end at the first root, and there may be one before the root that was reached
    cases htop : s.isCollectionRoot t with
    | true => exact ⟨[], ⟨q, t, rfl, hq, htop⟩, nofun⟩
    | false =>
      obtain ⟨i, r, hr, hu, hat⟩ := exists_superRef_of_extends hq htop hclause
      obtain ⟨path, hrest, hown⟩ := ih hu
      refine ⟨i :: path, (rootAt_cons hr).2 hrest, fun hborrows => ?_⟩
      cases hborrows with
      | here h => exact hat h
      | later hr' h =>
        obtain rfl := Option.some.inj (hr.symm.trans hr')
        exact hown h

/-- A way to a root that borrows comes by a type with a type parameter for a clause, and up to there
it goes along clauses. -/
theorem Borrows.exists_extendsParam (h : s.Borrows q path) (hroot : s.RootAt q path)
    (hq : q.raw? = some t) : ∃ u, Relation.ReflTransGen s.Extends t u ∧ s.ExtendsParam u := by
  induction h generalizing t with
  | here hat => exact ⟨t, .refl, hat.extendsParam hq⟩
  | @later q r i path hr _ ih =>
    by_cases hat : s.BorrowsAt q i
    · exact ⟨t, .refl, hat.extendsParam hq⟩
    · have hrest : s.RootAt r path := (rootAt_cons hr).1 hroot
      obtain ⟨u, hu⟩ := hrest.exists_raw
      obtain ⟨v, hpath, hparam⟩ := ih hrest hu
      exact ⟨v, .head (extends_of_superRef hq hr hu hat) hpath, hparam⟩

/-! ## What tells its elements -/

/-- The element type that the search finds is at the end of a way. -/
theorem exists_elementAt_of_elementType? {e : TypeId} (h : s.elementType? q = some e) :
    ∃ path, s.ElementAt q path e := by
  obtain ⟨root, hroot, he⟩ := List.exists_of_findSome?_eq_some h
  obtain ⟨p, hp, path, hpath, -⟩ := exists_trail_subset_visitsFrom hroot
  obtain rfl := List.mem_singleton.1 hp
  exact ⟨path, root, hpath, he⟩

/-- **What has an element type is a type, and like a collection unless it borrows.**  It is not like
a collection just when every way from the declaration to a root of the collections takes an argument
for a supertype, which needs a type above the declared one, or that one itself, with a type
parameter for a clause. -/
theorem isCollectionLike_iff_of_elementType? (s : TypeStore) (declared : TypeRef) (e : TypeId)
    (he : s.elementType? declared = some e) :
    ∃ raw args, declared = .concrete raw args ∧
      (s.isCollectionLike raw = false ↔
        ∀ path, s.RootAt declared path → s.Borrows declared path) ∧
      ((∀ t, Relation.ReflTransGen s.Extends raw t → ¬ s.ExtendsParam t) →
        s.isCollectionLike raw = true) := by
  obtain ⟨path, hpath⟩ := exists_elementAt_of_elementType? he
  obtain ⟨raw, hraw⟩ := hpath.exists_raw
  have hiff : s.isCollectionLike raw = false ↔
      ∀ path, s.RootAt declared path → s.Borrows declared path := by
    rw [← Bool.not_eq_true, isCollectionLike_iff_exists_rootAt hraw]
    simp
  refine ⟨raw, declared.args, TypeRef.raw?_eq_some_iff.1 hraw, hiff, fun hclauses => ?_⟩
  by_contra hnot
  have hborrows := hiff.1 (Bool.not_eq_true _ ▸ hnot) path hpath.rootAt
  obtain ⟨t, habove, hparam⟩ := hborrows.exists_extendsParam hpath.rootAt hraw
  exact hclauses t habove hparam

/-- A collection, a product, and a loan, which extends whatever is lent. -/
def loanStore : TypeStore :=
  initial.run [
    .register { TypeInfo.ofInterface "java.util.Collection" with
      marks := { collection := true }, paramCount := 1 },
    .register (.ofClass "app.Product"),
    .register { TypeInfo.ofClass "app.Loan" with superclass := some (.param 0), paramCount := 1 }]

/-- The loan of a collection of products. -/
def loanOfProducts : TypeRef := .concrete ⟨4⟩ [.concrete ⟨2⟩ [.erased ⟨3⟩]]

theorem elementType?_loanOfProducts : loanStore.elementType? loanOfProducts = some ⟨3⟩ := by
  have hloan : loanStore.superRefs (.concrete ⟨4⟩ [.concrete ⟨2⟩ [.erased ⟨3⟩]]) =
      [.concrete ⟨2⟩ [.erased ⟨3⟩]] := by decide
  have hcollection : loanStore.superRefs (.concrete ⟨2⟩ [.erased ⟨3⟩]) = [] := by decide
  have hvisits : loanStore.visits loanOfProducts =
      [loanOfProducts, .concrete ⟨2⟩ [.erased ⟨3⟩]] := by
    simp [visits, visitsFrom, loanOfProducts, hloan, hcollection]
  rw [elementType?, hvisits]
  decide

theorem isCollectionLike_loan : loanStore.isCollectionLike ⟨4⟩ = false := by
  have hnext : loanStore.hierarchy.fresh [⟨4⟩] [⟨4⟩] = [] := by decide
  rw [isCollectionLike, Digraph.breadthFirst, Digraph.levelsFrom, if_pos hnext]
  decide

/-- Every way from the loan to a root of the collections borrows. -/
theorem borrows_loanOfProducts : loanStore.elementType? loanOfProducts = some ⟨3⟩ ∧
    ∀ path, loanStore.RootAt loanOfProducts path → loanStore.Borrows loanOfProducts path := by
  obtain ⟨raw, args, hdeclared, hiff, -⟩ :=
    isCollectionLike_iff_of_elementType? loanStore loanOfProducts ⟨3⟩ elementType?_loanOfProducts
  obtain ⟨rfl, -⟩ := TypeRef.concrete.inj hdeclared
  exact ⟨elementType?_loanOfProducts, hiff.1 isCollectionLike_loan⟩

/-- The products of the loan are found, and the loan is not like a collection. -/
theorem elementType?_of_not_isCollectionLike :
    loanStore.elementType? (.concrete ⟨4⟩ [.concrete ⟨2⟩ [.erased ⟨3⟩]]) = some ⟨3⟩ ∧
      loanStore.isCollectionLike ⟨4⟩ = false :=
  ⟨elementType?_loanOfProducts, isCollectionLike_loan⟩

end TypeStore
end VariableNaming
