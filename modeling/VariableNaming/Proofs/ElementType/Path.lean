import VariableNaming.Proofs.ElementType.Visits

/-!
# Ways to an element type

The supertypes of a reference, with its arguments in place of the parameters, are numbered in the
order of declaration.  A way through the hierarchy is a walk along them; it goes on from known types
only, and ends at the roots of the collections.

* `ElementAt` — the way leads to a root of the collections whose first argument is a type.
* `ElementPath` — it comes by no type twice, besides.
* `plainElement?` — the search that goes all these ways, one after the other.
* `plainElement?_eq_some_iff`, `plainElement?_eq_none_iff` — it finds the type at the end of the
  lexicographically least of them.
-/

set_option autoImplicit false

namespace VariableNaming
namespace TypeStore

/-- The way leads to a root of the collections whose first argument is this type. -/
def ElementAt (s : TypeStore) (declared : TypeRef) (path : List Nat) (element : TypeId) : Prop :=
  ∃ root, follow s.superRefs declared path = some root ∧ s.rootElement? root = some element

variable {s : TypeStore} {above : List TypeId}

theorem superRefs_eq_nil_of_raw?_eq_none {r : TypeRef} (h : r.raw? = none) :
    s.superRefs r = [] := by
  simp [superRefs, h]

theorem elementAt_nil {r : TypeRef} {e : TypeId} :
    s.ElementAt r [] e ↔ s.rootElement? r = some e := by
  simp [ElementAt]

theorem elementAt_cons {r : TypeRef} {i : Nat} {path : List Nat} {e : TypeId} :
    s.ElementAt r (i :: path) e ↔ ∃ q, (s.superRefs r)[i]? = some q ∧ s.ElementAt q path e := by
  simp only [ElementAt, follow_cons, Option.bind_eq_some_iff]
  constructor
  · rintro ⟨root, ⟨q, hq, hroot⟩, he⟩
    exact ⟨q, hq, root, hroot, he⟩
  · rintro ⟨q, hq, root, hroot, he⟩
    exact ⟨root, ⟨q, hq, hroot⟩, he⟩

/-- Only from a type there is a way to an element type. -/
theorem ElementAt.exists_raw {r : TypeRef} {path : List Nat} {e : TypeId}
    (h : s.ElementAt r path e) : ∃ t, r.raw? = some t := by
  cases hr : r.raw? with
  | some t => exact ⟨t, rfl⟩
  | none =>
    cases path with
    | nil =>
      rw [elementAt_nil] at h
      simp [rootElement?, hr] at h
    | cons i path =>
      obtain ⟨q, hq, -⟩ := elementAt_cons.1 h
      simp [superRefs_eq_nil_of_raw?_eq_none hr] at hq

/-! ## Ways that come by no type twice -/

/-- The way leads to an element type, and comes by no type twice nor by one of those in `above`. -/
structure ElementPath (s : TypeStore) (above : List TypeId) (r : TypeRef) (path : List Nat)
    (element : TypeId) : Prop where
  elementAt : s.ElementAt r path element
  nodup : ((trail s.superRefs r path).map TypeRef.raw?).Nodup
  apart : ∀ t ∈ above, some t ∉ (trail s.superRefs r path).map TypeRef.raw?

/-- No other such way is lexicographically less. -/
structure FirstElementPath (s : TypeStore) (above : List TypeId) (r : TypeRef) (path : List Nat)
    (element : TypeId) : Prop extends s.ElementPath above r path element where
  le {path' : List Nat} {element' : TypeId} (h : s.ElementPath above r path' element') :
    path = path' ∨ List.Lex (· < ·) path path'

theorem ElementPath.exists_concrete {r : TypeRef} {path : List Nat} {e : TypeId}
    (h : s.ElementPath above r path e) : ∃ raw args, r = .concrete raw args ∧ raw ∉ above := by
  obtain ⟨raw, hr⟩ := h.elementAt.exists_raw
  refine ⟨raw, r.args, TypeRef.raw?_eq_some_iff.1 hr, fun hraw => h.apart raw hraw ?_⟩
  exact List.mem_map.2 ⟨r, start_mem_trail r path, hr⟩

theorem elementPath_nil {raw : TypeId} {args : List TypeRef} {e : TypeId} :
    s.ElementPath above (.concrete raw args) [] e ↔
      raw ∉ above ∧ s.rootElement? (.concrete raw args) = some e := by
  constructor
  · intro h
    obtain ⟨_, _, heq, hraw⟩ := h.exists_concrete
    cases heq
    exact ⟨hraw, elementAt_nil.1 h.elementAt⟩
  · rintro ⟨hraw, he⟩
    refine ⟨elementAt_nil.2 he, by simp, fun t ht => ?_⟩
    simp only [trail_nil, List.map_cons, TypeRef.raw?_concrete, List.map_nil, List.mem_singleton]
    rintro heq
    exact hraw (Option.some.inj heq ▸ ht)

/-- A way goes to one of the supertypes, and on from there past the type that it comes from. -/
theorem elementPath_cons {raw : TypeId} {args : List TypeRef} {i : Nat} {path : List Nat}
    {e : TypeId} : s.ElementPath above (.concrete raw args) (i :: path) e ↔
      raw ∉ above ∧ ∃ r, (s.superRefs (.concrete raw args))[i]? = some r ∧
        s.ElementPath (raw :: above) r path e := by
  constructor
  · intro h
    obtain ⟨_, _, heq, hraw⟩ := h.exists_concrete
    cases heq
    obtain ⟨r, hr, helement⟩ := elementAt_cons.1 h.elementAt
    have hnodup := h.nodup
    have hapart := h.apart
    rw [trail_cons hr, List.map_cons, TypeRef.raw?_concrete] at hnodup hapart
    rw [List.nodup_cons] at hnodup
    refine ⟨hraw, r, hr, helement, hnodup.2, fun t ht => ?_⟩
    rcases List.mem_cons.1 ht with rfl | ht
    · exact hnodup.1
    · exact fun hmem => hapart t ht (List.mem_cons_of_mem _ hmem)
  · rintro ⟨hraw, r, hr, h⟩
    refine ⟨elementAt_cons.2 ⟨r, hr, h.elementAt⟩, ?_, fun t ht => ?_⟩
    · rw [trail_cons hr, List.map_cons, List.nodup_cons]
      exact ⟨h.apart raw List.mem_cons_self, h.nodup⟩
    · rw [trail_cons hr, List.map_cons, List.mem_cons, TypeRef.raw?_concrete, not_or]
      exact ⟨fun heq => hraw (Option.some.inj heq ▸ ht), h.apart t (List.mem_cons_of_mem _ ht)⟩

/-! ## Climbing past every type once -/

/-- What is true where a way is given up, and is true of a type if it is of what is above, is true
always. -/
theorem climb_induct (s : TypeStore) {motive : List TypeId → TypeRef → Prop}
    (stop : ∀ above r, Skipped above r → motive above r)
    (climb : ∀ above raw args, raw ∉ above →
      (∀ r ∈ s.superRefs (.concrete raw args), motive (raw :: above) r) →
      motive above (.concrete raw args))
    (above : List TypeId) (r : TypeRef) : motive above r := by
  match r with
  | .param k => exact stop above _ fun t h => by simp at h
  | .unbound => exact stop above _ fun t h => by simp at h
  | .concrete raw args =>
    by_cases hraw : raw ∈ above
    · exact stop above _ fun t h => by simp_all
    · exact climb above raw args hraw fun r hr => climb_induct s stop climb (raw :: above) r
termination_by s.hierarchy.unseen above
decreasing_by
  refine s.hierarchy.unseen_lt (List.subset_cons_self _ _) ?_ hraw List.mem_cons_self
  by_contra hknown
  rw [superRefs_eq_nil_of_notMem_known hknown] at hr
  exact List.not_mem_nil hr

/-! ## The plain search -/

/-- The first element type on the ways up from a reference, each followed to its end before the
next.  A way is given up where it would come by a type for the second time: the types in `above` are
on the way to the reference. -/
def plainElement? (s : TypeStore) (above : List TypeId) : TypeRef → Option TypeId
  | .concrete raw args =>
    if raw ∈ above then none
    else
      match _ : s.get? raw with
      | none => none
      | some info =>
        if info.marks.collection then args[0]?.bind TypeRef.raw?
        else
          (info.supertypes.map (TypeRef.substitute args)).findSome? (plainElement? s (raw :: above))
  | _ => none
termination_by s.hierarchy.unseen above
decreasing_by
  rename_i hraw hinfo _ _
  refine s.hierarchy.unseen_lt (List.subset_cons_self _ _) (mem_known.2 ?_) hraw List.mem_cons_self
  rw [hinfo]
  rfl

theorem plainElement?_eq_none_of_skipped {r : TypeRef} (h : Skipped above r) :
    s.plainElement? above r = none := by
  cases r with
  | concrete raw args => rw [plainElement?, if_pos (h raw rfl)]
  | param k => rw [plainElement?]; nofun
  | unbound => rw [plainElement?]; nofun

/-- A type tells its elements by itself or else through the supertypes. -/
theorem plainElement?_concrete {raw : TypeId} (h : raw ∉ above) (args : List TypeRef) :
    s.plainElement? above (.concrete raw args) =
      (s.rootElement? (.concrete raw args)).or
        ((s.superRefs (.concrete raw args)).findSome? (s.plainElement? (raw :: above))) := by
  rw [plainElement?, if_neg h]
  split
  · rename_i hinfo
    simp [rootElement?, superRefs, isCollectionRoot, marks, hinfo]
  · rename_i info hinfo
    by_cases hroot : info.marks.collection <;>
      simp [rootElement?, superRefs, isCollectionRoot, marks, hinfo, hroot, TypeRef.arg?]

/-- A way is the first if the supertypes before its own lead to no element type, and it goes on from
there as the first. -/
theorem FirstElementPath.cons {raw : TypeId} {args : List TypeRef} {l₁ l₂ : List TypeRef}
    {r : TypeRef} {path : List Nat} {e : TypeId} (hraw : raw ∉ above)
    (hroot : s.rootElement? (.concrete raw args) = none)
    (hl : s.superRefs (.concrete raw args) = l₁ ++ r :: l₂)
    (hbefore : ∀ q ∈ l₁, ∀ path e, ¬ s.ElementPath (raw :: above) q path e)
    (h : s.FirstElementPath (raw :: above) r path e) :
    s.FirstElementPath above (.concrete raw args) (l₁.length :: path) e := by
  have hri : (s.superRefs (.concrete raw args))[l₁.length]? = some r := by simp [hl]
  refine ⟨elementPath_cons.2 ⟨hraw, r, hri, h.toElementPath⟩, fun {path' e'} hpath' => ?_⟩
  cases path' with
  | nil =>
    rw [elementPath_nil, hroot] at hpath'
    cases hpath'.2
  | cons j path' =>
    obtain ⟨-, q, hq, hpath'⟩ := elementPath_cons.1 hpath'
    rcases Nat.lt_trichotomy j l₁.length with hlt | rfl | hgt
    · have hmem : q ∈ l₁ := by
        rw [hl, List.getElem?_append_left hlt] at hq
        exact List.mem_of_getElem? hq
      exact absurd hpath' (hbefore q hmem path' e')
    · obtain rfl := Option.some.inj (hri.symm.trans hq)
      rcases h.le hpath' with rfl | hlt
      · exact Or.inl rfl
      · exact Or.inr (.cons hlt)
    · exact Or.inr (.rel hgt)

theorem plainElement?_spec (s : TypeStore) (above : List TypeId) (r : TypeRef) :
    (∀ e, s.plainElement? above r = some e → ∃ path, s.FirstElementPath above r path e) ∧
      (s.plainElement? above r = none → ∀ path e, ¬ s.ElementPath above r path e) := by
  induction above, r using climb_induct s with
  | stop above r h =>
    rw [plainElement?_eq_none_of_skipped h]
    refine ⟨nofun, fun _ path e hpath => ?_⟩
    obtain ⟨raw, args, rfl, hraw⟩ := hpath.exists_concrete
    exact hraw (h raw rfl)
  | climb above raw args hraw ih =>
    rw [plainElement?_concrete hraw]
    cases hroot : s.rootElement? (.concrete raw args) with
    | some e =>
      refine ⟨fun e' he' => ?_, nofun⟩
      obtain rfl : e = e' := by simpa using he'
      refine ⟨[], elementPath_nil.2 ⟨hraw, hroot⟩, fun {path' _} _ => ?_⟩
      cases path' with
      | nil => exact Or.inl rfl
      | cons i path' => exact Or.inr .nil
    | none =>
      rw [Option.none_or]
      refine ⟨fun e he => ?_, fun hnone path e hpath => ?_⟩
      · obtain ⟨l₁, r, l₂, hl, hr, hbefore⟩ := List.findSome?_eq_some_iff.1 he
        obtain ⟨path, hfirst⟩ := (ih r (by simp [hl])).1 e hr
        refine ⟨l₁.length :: path, hfirst.cons hraw hroot hl fun q hq => ?_⟩
        exact (ih q (by simp [hl, hq])).2 (hbefore q hq)
      · cases path with
        | nil =>
          rw [elementPath_nil, hroot] at hpath
          cases hpath.2
        | cons i path =>
          obtain ⟨-, r, hr, hpath⟩ := elementPath_cons.1 hpath
          have hmem := List.mem_of_getElem? hr
          exact (ih r hmem).2 (List.findSome?_eq_none_iff.1 hnone r hmem) path e hpath

theorem FirstElementPath.unique {r : TypeRef} {path path' : List Nat} {e e' : TypeId}
    (h : s.FirstElementPath above r path e) (h' : s.FirstElementPath above r path' e') :
    e = e' := by
  have hpath : path = path' := by
    rcases h.le h'.toElementPath with heq | hlt
    · exact heq
    · rcases h'.le h.toElementPath with heq | hgt
      · exact heq.symm
      · exact absurd hgt (Std.Asymm.asymm _ _ hlt)
  subst hpath
  obtain ⟨root, hroot, he⟩ := h.elementAt
  obtain ⟨root', hroot', he'⟩ := h'.elementAt
  rw [hroot, Option.some.injEq] at hroot'
  subst hroot'
  rw [he, Option.some.injEq] at he'
  exact he'

theorem plainElement?_eq_none_iff {r : TypeRef} :
    s.plainElement? above r = none ↔ ∀ path e, ¬ s.ElementPath above r path e := by
  refine ⟨(s.plainElement?_spec above r).2, fun h => ?_⟩
  cases he : s.plainElement? above r with
  | none => rfl
  | some e =>
    obtain ⟨path, hpath⟩ := (s.plainElement?_spec above r).1 e he
    exact absurd hpath.toElementPath (h path e)

/-- **The plain search is exact.**  It gives the element type at the end of the lexicographically
least way to any. -/
theorem plainElement?_eq_some_iff {r : TypeRef} {e : TypeId} :
    s.plainElement? above r = some e ↔ ∃ path, s.FirstElementPath above r path e := by
  refine ⟨(s.plainElement?_spec above r).1 e, ?_⟩
  rintro ⟨path, hpath⟩
  cases he : s.plainElement? above r with
  | none => exact absurd hpath.toElementPath ((s.plainElement?_spec above r).2 he path e)
  | some e' =>
    obtain ⟨path', hpath'⟩ := (s.plainElement?_spec above r).1 e' he
    rw [hpath.unique hpath']

end TypeStore
end VariableNaming
