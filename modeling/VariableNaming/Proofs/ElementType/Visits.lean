import VariableNaming.Proofs.Walk
import VariableNaming.TypeStore.ElementType

/-!
# What the search for an element type visits

The search of `VariableNaming.TypeStore.ElementType` keeps one list of references still to be
visited.  Here it is taken apart into the visits to the supertypes of a reference and those to the
references after it, which is how it is reasoned about.

* `seenAfter` — the types seen when some references have been visited.
* `visitsFrom_append`, `visitsFrom_cons_of_notMem` — the visits part by part.
* `visits_induct` — what is true of the parts is true of the whole.
* `mem_seenAfter_of_superRef` — what is above a visited reference is visited too, perhaps with other
  arguments; `eq_of_mem_visitsFrom` says that no type is visited twice.
* `exists_trail_subset_visitsFrom` — nothing is visited but on the way.
-/

set_option autoImplicit false

namespace VariableNaming
namespace TypeStore

variable {s : TypeStore}

/-- The types seen after visits to the references that were to be visited. -/
def seenAfter (s : TypeStore) (seen : List TypeId) (pending : List TypeRef) : List TypeId :=
  ((s.visitsFrom seen pending).filterMap TypeRef.raw?).reverse ++ seen

theorem mem_seenAfter {seen : List TypeId} {pending : List TypeRef} {t : TypeId} :
    t ∈ s.seenAfter seen pending ↔
      (∃ r ∈ s.visitsFrom seen pending, r.raw? = some t) ∨ t ∈ seen := by
  simp [seenAfter]

theorem subset_seenAfter (s : TypeStore) (seen : List TypeId) (pending : List TypeRef) :
    seen ⊆ s.seenAfter seen pending :=
  List.subset_append_right _ _

/-! ## The visits part by part -/

@[simp] theorem visitsFrom_nil (s : TypeStore) (seen : List TypeId) :
    s.visitsFrom seen [] = [] := by
  rw [visitsFrom]

@[simp] theorem seenAfter_nil (s : TypeStore) (seen : List TypeId) :
    s.seenAfter seen [] = seen := by
  simp [seenAfter]

/-- The reference is not to be visited: it is no type, or one that has been seen. -/
def Skipped (seen : List TypeId) (r : TypeRef) : Prop := ∀ t, r.raw? = some t → t ∈ seen

theorem visitsFrom_cons_of_skipped {seen : List TypeId} {r : TypeRef} (h : Skipped seen r)
    (rest : List TypeRef) : s.visitsFrom seen (r :: rest) = s.visitsFrom seen rest := by
  cases r with
  | concrete raw args => rw [visitsFrom, if_pos (h raw rfl)]
  | param k => rw [visitsFrom]
  | unbound => rw [visitsFrom]

theorem visitsFrom_append (s : TypeStore) (seen : List TypeId) (pending rest : List TypeRef) :
    s.visitsFrom seen (pending ++ rest) =
      s.visitsFrom seen pending ++ s.visitsFrom (s.seenAfter seen pending) rest := by
  fun_induction visitsFrom s seen pending with
  | case1 seen => simp
  | case2 seen k pending ih => simpa [visitsFrom, seenAfter] using ih
  | case3 seen pending ih => simpa [visitsFrom, seenAfter] using ih
  | case4 seen raw args pending hraw ih => simpa [visitsFrom, seenAfter, hraw] using ih
  | case5 seen raw args pending hraw ih =>
    rw [List.append_assoc] at ih
    simp [visitsFrom, seenAfter, hraw, ih]

/-- A type that was not seen is visited, then what is above it, then the rest. -/
theorem visitsFrom_cons_of_notMem {seen : List TypeId} {raw : TypeId} (h : raw ∉ seen)
    (args : List TypeRef) (rest : List TypeRef) :
    s.visitsFrom seen (.concrete raw args :: rest) =
      .concrete raw args :: (s.visitsFrom (raw :: seen) (s.superRefs (.concrete raw args)) ++
        s.visitsFrom (s.seenAfter (raw :: seen) (s.superRefs (.concrete raw args))) rest) := by
  rw [visitsFrom, if_neg h, visitsFrom_append]

/-- A reference that leads nowhere is visited alone. -/
theorem visits_of_superRefs_eq_nil {raw : TypeId} {args : List TypeRef}
    (h : s.superRefs (.concrete raw args) = []) :
    s.visits (.concrete raw args) = [.concrete raw args] := by
  rw [visits, visitsFrom_cons_of_notMem List.not_mem_nil, h]
  simp

theorem seenAfter_cons_of_skipped {seen : List TypeId} {r : TypeRef} (h : Skipped seen r)
    (rest : List TypeRef) : s.seenAfter seen (r :: rest) = s.seenAfter seen rest := by
  rw [seenAfter, visitsFrom_cons_of_skipped h, seenAfter]

theorem seenAfter_cons_of_notMem {seen : List TypeId} {raw : TypeId} (h : raw ∉ seen)
    (args : List TypeRef) (rest : List TypeRef) :
    s.seenAfter seen (.concrete raw args :: rest) =
      s.seenAfter (s.seenAfter (raw :: seen) (s.superRefs (.concrete raw args))) rest := by
  simp [seenAfter, visitsFrom_cons_of_notMem h]

/-- What is true of the search when nothing is to be visited, stays true when a reference is
skipped, and is true of a visit if it is of what is above the reference and of the rest, is true
always. -/
theorem visits_induct (s : TypeStore) {motive : List TypeId → List TypeRef → Prop}
    (nil : ∀ seen, motive seen [])
    (skip : ∀ seen r rest, Skipped seen r → motive seen rest → motive seen (r :: rest))
    (visit : ∀ seen raw args rest, raw ∉ seen →
      motive (raw :: seen) (s.superRefs (.concrete raw args)) →
      motive (s.seenAfter (raw :: seen) (s.superRefs (.concrete raw args))) rest →
      motive seen (.concrete raw args :: rest))
    (seen : List TypeId) (pending : List TypeRef) : motive seen pending := by
  match pending with
  | [] => exact nil seen
  | .param k :: rest =>
    exact skip seen _ rest (fun t h => by simp at h) (visits_induct s nil skip visit seen rest)
  | .unbound :: rest =>
    exact skip seen _ rest (fun t h => by simp at h) (visits_induct s nil skip visit seen rest)
  | .concrete raw args :: rest =>
    by_cases hraw : raw ∈ seen
    · exact skip seen _ rest (fun t h => by simp_all) (visits_induct s nil skip visit seen rest)
    · exact visit seen raw args rest hraw (visits_induct s nil skip visit _ _)
        (visits_induct s nil skip visit _ _)
termination_by (s.hierarchy.unseen seen, pending.length)
decreasing_by
  · exact Prod.Lex.right _ (Nat.lt_succ_self _)
  · exact Prod.Lex.right _ (Nat.lt_succ_self _)
  · exact Prod.Lex.right _ (Nat.lt_succ_self _)
  · have hsub : seen ⊆ raw :: seen := List.subset_cons_self _ _
    by_cases hknown : raw ∈ s.known
    · exact Prod.Lex.left _ _ (s.hierarchy.unseen_lt hsub hknown hraw List.mem_cons_self)
    · rw [superRefs_eq_nil_of_notMem_known hknown]
      rcases Nat.lt_or_eq_of_le (s.hierarchy.unseen_le hsub) with hlt | heq
      · exact Prod.Lex.left _ _ hlt
      · rw [heq]
        exact Prod.Lex.right _ (Nat.zero_lt_succ _)
  · have hsub : seen ⊆ s.seenAfter (raw :: seen) (s.superRefs (.concrete raw args)) :=
      List.Subset.trans (List.subset_cons_self _ _) (s.subset_seenAfter _ _)
    rcases Nat.lt_or_eq_of_le (s.hierarchy.unseen_le hsub) with hlt | heq
    · exact Prod.Lex.left _ _ hlt
    · rw [heq]
      exact Prod.Lex.right _ (Nat.lt_succ_self _)

/-! ## What has been visited -/

/-- Whatever was to be visited has been seen in the end. -/
theorem mem_seenAfter_of_mem {seen : List TypeId} {pending : List TypeRef} {r : TypeRef}
    (hr : r ∈ pending) {t : TypeId} (ht : r.raw? = some t) : t ∈ s.seenAfter seen pending := by
  induction seen, pending using visits_induct s with
  | nil seen => simp at hr
  | skip seen q rest hq ih =>
    rw [seenAfter_cons_of_skipped hq]
    rcases List.mem_cons.1 hr with rfl | hr
    · exact subset_seenAfter _ _ _ (hq t ht)
    · exact ih hr
  | visit seen raw args rest hraw _ ih =>
    rw [seenAfter_cons_of_notMem hraw]
    rcases List.mem_cons.1 hr with rfl | hr
    · obtain rfl : raw = t := by simpa using ht
      exact subset_seenAfter _ _ _ (subset_seenAfter _ _ _ List.mem_cons_self)
    · exact ih hr

/-- What is above a visited reference has been seen in the end. -/
theorem mem_seenAfter_of_superRef {seen : List TypeId} {pending : List TypeRef} {q r : TypeRef}
    (hq : q ∈ s.visitsFrom seen pending) (hr : r ∈ s.superRefs q) {t : TypeId}
    (ht : r.raw? = some t) : t ∈ s.seenAfter seen pending := by
  induction seen, pending using visits_induct s with
  | nil seen => simp at hq
  | skip seen p rest hp ih =>
    rw [visitsFrom_cons_of_skipped hp] at hq
    rw [seenAfter_cons_of_skipped hp]
    exact ih hq
  | visit seen raw args rest hraw ihabove ihrest =>
    rw [visitsFrom_cons_of_notMem hraw, List.mem_cons, List.mem_append] at hq
    rw [seenAfter_cons_of_notMem hraw]
    rcases hq with rfl | hq | hq
    · exact subset_seenAfter _ _ _ (mem_seenAfter_of_mem hr ht)
    · exact subset_seenAfter _ _ _ (ihabove hq)
    · exact ihrest hq

theorem exists_raw_of_mem_visitsFrom {seen : List TypeId} {pending : List TypeRef} {r : TypeRef}
    (hr : r ∈ s.visitsFrom seen pending) : ∃ t, r.raw? = some t := by
  induction seen, pending using visits_induct s with
  | nil seen => simp at hr
  | skip seen q rest hq ih => exact ih (visitsFrom_cons_of_skipped hq rest ▸ hr)
  | visit seen raw args rest hraw ihabove ihrest =>
    rw [visitsFrom_cons_of_notMem hraw, List.mem_cons, List.mem_append] at hr
    rcases hr with rfl | hr | hr
    · exact ⟨raw, rfl⟩
    · exact ihabove hr
    · exact ihrest hr

/-- A visited reference is reached on a way along visited references. -/
theorem exists_trail_subset_visitsFrom {seen : List TypeId} {pending : List TypeRef} {r : TypeRef}
    (hr : r ∈ s.visitsFrom seen pending) : ∃ p ∈ pending, ∃ path,
      follow s.superRefs p path = some r ∧
        trail s.superRefs p path ⊆ s.visitsFrom seen pending := by
  induction seen, pending using visits_induct s with
  | nil seen => simp at hr
  | skip seen q rest hq ih =>
    rw [visitsFrom_cons_of_skipped hq] at hr ⊢
    obtain ⟨p, hp, hpath⟩ := ih hr
    exact ⟨p, List.mem_cons_of_mem _ hp, hpath⟩
  | visit seen raw args rest hraw ihabove ihrest =>
    rw [visitsFrom_cons_of_notMem hraw] at hr ⊢
    rcases List.mem_cons.1 hr with rfl | hr
    · exact ⟨_, List.mem_cons_self, [], rfl, by simp⟩
    · rcases List.mem_append.1 hr with hr | hr
      · obtain ⟨p, hp, path, hpath, hsub⟩ := ihabove hr
        obtain ⟨i, hi⟩ := List.getElem?_of_mem hp
        refine ⟨_, List.mem_cons_self, i :: path, by simp [hi, hpath], ?_⟩
        rw [trail_cons hi]
        exact List.cons_subset_cons _ (List.Subset.trans hsub (List.subset_append_left _ _))
      · obtain ⟨p, hp, path, hpath, hsub⟩ := ihrest hr
        refine ⟨p, List.mem_cons_of_mem _ hp, path, hpath, fun q hq => ?_⟩
        exact List.mem_cons_of_mem _ (List.mem_append_right _ (hsub hq))

/-- Nothing is visited that was seen before, and no type is visited twice. -/
theorem nodup_visitsFrom (s : TypeStore) (seen : List TypeId) (pending : List TypeRef) :
    (∀ t ∈ (s.visitsFrom seen pending).filterMap TypeRef.raw?, t ∉ seen) ∧
      ((s.visitsFrom seen pending).filterMap TypeRef.raw?).Nodup := by
  induction seen, pending using visits_induct s with
  | nil seen => simp
  | skip seen r rest hr ih => rwa [visitsFrom_cons_of_skipped hr]
  | visit seen raw args rest hraw ihabove ihrest =>
    obtain ⟨habove, hnodup⟩ := ihabove
    obtain ⟨hrest, hnodup'⟩ := ihrest
    have hnew : ∀ t ∈ (s.visitsFrom (s.seenAfter (raw :: seen) (s.superRefs (.concrete raw args)))
        rest).filterMap TypeRef.raw?, t ∉ (s.visitsFrom (raw :: seen)
          (s.superRefs (.concrete raw args))).filterMap TypeRef.raw? ∧ t ∉ raw :: seen := by
      intro t ht
      have hold := hrest t ht
      rwa [seenAfter, List.mem_append, List.mem_reverse, not_or] at hold
    simp only [visitsFrom_cons_of_notMem hraw, List.filterMap_cons, TypeRef.raw?_concrete,
      List.filterMap_append, List.mem_cons, List.mem_append, List.nodup_cons, List.nodup_append]
    refine ⟨?_, ?_, hnodup, hnodup', ?_⟩
    · rintro t (rfl | ht | ht)
      · exact hraw
      · exact fun hseen => habove t ht (List.mem_cons_of_mem _ hseen)
      · exact fun hseen => (hnew t ht).2 (List.mem_cons_of_mem _ hseen)
    · rintro (ht | ht)
      · exact habove raw ht List.mem_cons_self
      · exact (hnew raw ht).2 List.mem_cons_self
    · rintro t ht _ ht' rfl
      exact (hnew t ht').1 ht

/-- Two visited references to one type are the same reference. -/
theorem eq_of_mem_visitsFrom {seen : List TypeId} {pending : List TypeRef} {q r : TypeRef}
    (hq : q ∈ s.visitsFrom seen pending) (hr : r ∈ s.visitsFrom seen pending)
    {t : TypeId} (hqt : q.raw? = some t) (hrt : r.raw? = some t) : q = r := by
  obtain ⟨l₁, l₂, hl⟩ := List.append_of_mem hq
  have hnodup := (s.nodup_visitsFrom seen pending).2
  rw [hl, List.filterMap_append, List.filterMap_cons, hqt, List.nodup_append] at hnodup
  rw [hl, List.mem_append, List.mem_cons] at hr
  rcases hr with hr | rfl | hr
  · exact absurd rfl (hnodup.2.2 t (List.mem_filterMap.2 ⟨r, hr, hrt⟩) t List.mem_cons_self)
  · rfl
  · exact absurd (List.mem_filterMap.2 ⟨r, hr, hrt⟩) (List.nodup_cons.1 hnodup.2.1).1

end TypeStore
end VariableNaming
