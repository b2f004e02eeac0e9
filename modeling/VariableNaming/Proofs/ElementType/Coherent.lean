import VariableNaming.Proofs.ElementType.Path

/-!
# The search for an element type in a coherent hierarchy

The search visits no type twice, wherever it came by the type before.  Where all ways to a type give
it the same arguments, nothing is lost by that: the search finds what the plain search finds, which
goes every way that does not come by a type twice.

* `Coherent` — all ways from a declaration to a type give it the same arguments.
* `Spent` — what has been visited and is not on the way leads to no element type.
* `findSome?_visitsFrom` — the two searches side by side.
* `elementType?_eq_plainElement?` — the two answers are the same.
-/

set_option autoImplicit false

namespace VariableNaming
namespace TypeStore

/-- Whatever ways lead from a declaration to one type, they give it the same arguments. -/
def Coherent (s : TypeStore) (declared : TypeRef) : Prop :=
  ∀ (path path' : List Nat) (raw : TypeId) (args args' : List TypeRef),
    follow s.superRefs declared path = some (.concrete raw args) →
    follow s.superRefs declared path' = some (.concrete raw args') → args = args'

variable {s : TypeStore} {declared : TypeRef}

/-- A set of references that is closed under supertypes and refers to every type in one way makes a
declaration coherent. -/
theorem coherent_of_closed (refs : List TypeRef) (hstart : declared ∈ refs)
    (hclosed : ∀ r ∈ refs, ∀ r' ∈ s.superRefs r, r' ∈ refs)
    (hinj : ∀ r ∈ refs, ∀ r' ∈ refs, r.raw? = r'.raw? → r = r') : s.Coherent declared := by
  have hmem : ∀ (path : List Nat) (q r : TypeRef), q ∈ refs → follow s.superRefs q path = some r →
      r ∈ refs := by
    intro path
    induction path with
    | nil =>
      intro q r hq h
      cases h
      exact hq
    | cons i path ih =>
      intro q r hq h
      obtain ⟨p, hp, h⟩ := Option.bind_eq_some_iff.1 (follow_cons q i path ▸ h)
      exact ih p r (hclosed q hq p (List.mem_of_getElem? hp)) h
  intro path path' raw args args' h h'
  have heq := hinj _ (hmem path _ _ hstart h) _ (hmem path' _ _ hstart h') rfl
  simpa using heq

/-- A way leads from the declaration to the reference. -/
def Reached (s : TypeStore) (declared r : TypeRef) : Prop :=
  ∃ path, follow s.superRefs declared path = some r

theorem Reached.superRef {q r : TypeRef} (h : s.Reached declared q) (hr : r ∈ s.superRefs q) :
    s.Reached declared r := by
  obtain ⟨path, hpath⟩ := h
  obtain ⟨i, hi⟩ := List.getElem?_of_mem hr
  exact ⟨path ++ [i], follow_snoc hpath hi⟩

theorem Coherent.eq_of_reached (h : s.Coherent declared) {q : TypeRef} {raw : TypeId}
    {args : List TypeRef} (hq : s.Reached declared q) (hr : s.Reached declared (.concrete raw args))
    (hraw : q.raw? = some raw) : q = .concrete raw args := by
  obtain ⟨path, hpath⟩ := hq
  obtain ⟨path', hpath'⟩ := hr
  rw [TypeRef.raw?_eq_some_iff.1 hraw] at hpath ⊢
  rw [h path path' raw _ _ hpath hpath']

/-! ## Spent types -/

/-- A reference to a type that has been seen and is not on the way tells nothing about the elements,
and what is above it has been seen too. -/
def Spent (s : TypeStore) (declared : TypeRef) (seen above : List TypeId) : Prop :=
  ∀ r t, s.Reached declared r → r.raw? = some t → t ∈ seen → t ∉ above →
    s.rootElement? r = none ∧ ∀ q ∈ s.superRefs r, Skipped seen q

/-- Where all that has been seen is spent, the plain search finds nothing in it. -/
theorem Spent.plainElement?_eq_none {seen above : List TypeId} (h : s.Spent declared seen above)
    {r : TypeRef} (hr : s.Reached declared r) (hseen : Skipped seen r) :
    s.plainElement? above r = none := by
  -- further up there are more types on the way, but none fewer
  suffices ∀ above' r, above ⊆ above' → s.Reached declared r → Skipped seen r →
      s.plainElement? above' r = none from this above r (List.Subset.refl _) hr hseen
  intro above' r
  induction above', r using climb_induct s with
  | stop above' r hstop => exact fun _ _ _ => plainElement?_eq_none_of_skipped hstop
  | climb above' raw args hraw ih =>
    intro hsub hr hseen
    obtain ⟨hroot, habove⟩ := h _ raw hr rfl (hseen raw rfl) fun hmem => hraw (hsub hmem)
    rw [plainElement?_concrete hraw, hroot, Option.none_or, List.findSome?_eq_none_iff]
    intro q hq
    exact ih q hq (fun t ht => List.mem_cons_of_mem _ (hsub ht)) (hr.superRef hq) (habove q hq)

/-- A type that is visited now is on the way. -/
theorem Spent.visit {seen above : List TypeId} (h : s.Spent declared seen above) (raw : TypeId) :
    s.Spent declared (raw :: seen) (raw :: above) := by
  intro r t hr ht hseen habove
  rw [List.mem_cons, not_or] at habove
  obtain ⟨hroot, hsuper⟩ := h r t hr ht ((List.mem_cons.1 hseen).resolve_left habove.1) habove.2
  exact ⟨hroot, fun q hq u hu => List.mem_cons_of_mem _ (hsuper q hq u hu)⟩

/-- A type that was visited in vain, and everything above it too, is spent. -/
theorem Spent.leave (hcoh : s.Coherent declared) {seen above : List TypeId} {raw : TypeId}
    {args : List TypeRef} (h : s.Spent declared seen (raw :: above))
    (hr : s.Reached declared (.concrete raw args))
    (hroot : s.rootElement? (.concrete raw args) = none)
    (hsuper : ∀ q ∈ s.superRefs (.concrete raw args), Skipped seen q) :
    s.Spent declared seen above := by
  intro q t hq ht hseen habove
  rcases eq_or_ne t raw with rfl | hne
  · obtain rfl := hcoh.eq_of_reached hq hr ht
    exact ⟨hroot, hsuper⟩
  · exact h q t hq ht hseen (by simp [hne, habove])

/-! ## The two searches side by side -/

/-- The search and the plain search find the same in the references to be visited, and when they
find nothing, all that has been seen is spent again. -/
theorem findSome?_visitsFrom (hcoh : s.Coherent declared) {seen above : List TypeId}
    {pending : List TypeRef} (hsub : above ⊆ seen)
    (hpending : ∀ r ∈ pending, s.Reached declared r) (h : s.Spent declared seen above) :
    (s.visitsFrom seen pending).findSome? s.rootElement? =
        pending.findSome? (s.plainElement? above) ∧
      ((s.visitsFrom seen pending).findSome? s.rootElement? = none →
        s.Spent declared (s.seenAfter seen pending) above) := by
  induction seen, pending using visits_induct s generalizing above with
  | nil seen => simpa using h
  | skip seen r rest hr ih =>
    have hrest := ih hsub (fun q hq => hpending q (List.mem_cons_of_mem _ hq)) h
    rw [visitsFrom_cons_of_skipped hr, seenAfter_cons_of_skipped hr, List.findSome?_cons,
      h.plainElement?_eq_none (hpending r List.mem_cons_self) hr]
    exact hrest
  | visit seen raw args rest hraw ihabove ihrest =>
    have hr := hpending _ List.mem_cons_self
    have hsub' : raw :: above ⊆ raw :: seen := List.cons_subset_cons raw hsub
    obtain ⟨heq, hspent⟩ := ihabove hsub' (fun q hq => hr.superRef hq) (h.visit raw)
    rw [visitsFrom_cons_of_notMem hraw, seenAfter_cons_of_notMem hraw, List.findSome?_cons,
      List.findSome?_cons, plainElement?_concrete fun hmem => hraw (hsub hmem),
      List.findSome?_append, heq]
    cases hroot : s.rootElement? (.concrete raw args) with
    | some e => exact ⟨rfl, nofun⟩
    | none =>
      cases hfound : (s.superRefs (.concrete raw args)).findSome?
          (s.plainElement? (raw :: above)) with
      | some e => exact ⟨rfl, nofun⟩
      | none =>
        -- nothing found above the type: it is spent when the rest is visited
        have hleft := (hspent (heq.trans hfound)).leave hcoh hr hroot
          fun q hq t ht => mem_seenAfter_of_mem hq ht
        exact ihrest (fun t ht => subset_seenAfter _ _ _ (List.mem_cons_of_mem _ (hsub ht)))
          (fun q hq => hpending q (List.mem_cons_of_mem _ hq)) hleft

theorem elementType?_eq_plainElement? (hcoh : s.Coherent declared) :
    s.elementType? declared = s.plainElement? [] declared := by
  have hspent : s.Spent declared [] [] := fun r t _ _ ht => absurd ht List.not_mem_nil
  have hstart : ∀ r ∈ [declared], s.Reached declared r := fun r hr =>
    ⟨[], by rw [follow_nil, List.mem_singleton.1 hr]⟩
  rw [elementType?, visits, (findSome?_visitsFrom hcoh (List.Subset.refl _) hstart hspent).1,
    List.findSome?_singleton]

/-- **A coherent hierarchy is searched completely.**  The search, which visits no type twice, agrees
with the plain search: it gives the first argument of the root of the collections at the end of the
first way to one that has a type there, in the order of declaration and among the ways that come by
no type twice, and nothing if there is no such way. -/
theorem elementType?_of_coherent (hcoh : s.Coherent declared) :
    s.elementType? declared = s.plainElement? [] declared ∧
      (∀ e, s.elementType? declared = some e ↔ ∃ path, s.FirstElementPath [] declared path e) ∧
      (s.elementType? declared = none ↔ ∀ path e, ¬ s.ElementPath [] declared path e) := by
  rw [elementType?_eq_plainElement? hcoh]
  exact ⟨rfl, fun e => plainElement?_eq_some_iff, plainElement?_eq_none_iff⟩

/-- A class that reaches the root of the collections through two interfaces, which extend each
other; besides, it extends itself and a type that is not known. -/
def circularStore : TypeStore :=
  let root : TypeInfo :=
    { TypeInfo.ofInterface "Collection" with marks := { collection := true } }
  let left : TypeInfo := { TypeInfo.ofInterface "Left" with
    interfaces := [.concrete ⟨4⟩ [.param 0], .concrete ⟨2⟩ [.param 0]] }
  let right : TypeInfo := { TypeInfo.ofInterface "Right" with
    interfaces := [.concrete ⟨3⟩ [.param 0], .concrete ⟨2⟩ [.param 0]] }
  let bag : TypeInfo := { TypeInfo.ofClass "Bag" with
    superclass := some (.erased ⟨5⟩)
    interfaces := [.erased ⟨9⟩, .concrete ⟨3⟩ [.erased .object], .concrete ⟨4⟩ [.erased .object]] }
  ((((initial.register root).2.register left).2.register right).2.register bag).2

theorem elementType?_circularStore :
    circularStore.Coherent (.erased ⟨5⟩) ∧
      circularStore.elementType? (.erased ⟨5⟩) = some .object ∧
      ∃ path, circularStore.FirstElementPath [] (.erased ⟨5⟩) path .object := by
  have hcoh : circularStore.Coherent (.erased ⟨5⟩) :=
    coherent_of_closed [.erased ⟨5⟩, .erased ⟨9⟩, .concrete ⟨3⟩ [.erased .object],
      .concrete ⟨4⟩ [.erased .object], .concrete ⟨2⟩ [.erased .object]]
      (by decide) (by decide) (by decide)
  have hplain : circularStore.plainElement? [] (.erased ⟨5⟩) = some .object := by
    decide +kernel
  obtain ⟨helement, hfirst, -⟩ := elementType?_of_coherent hcoh
  rw [hplain] at helement
  exact ⟨hcoh, helement, (hfirst _).1 helement⟩

end TypeStore
end VariableNaming
