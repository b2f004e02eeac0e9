import VariableNaming.Proofs.Adapter.Nearest
import VariableNaming.Proofs.TypeStore.CollectionLike
import VariableNaming.Proofs.TypeStore.Grown

/-!
# Types that come in later

A clause may mention a type before the type is there.  When it comes in, the hierarchy grows above
every type that mentions it: other wrappers may be found, and found first.  But nothing that was
above a type goes away, so that a type which is like a collection stays so, and a type with an
adapter keeps one, of a wrapper that is no farther away.

* `Grown.isCollectionLike`, `Grown.follow_supertypes` — what a grown store keeps.
* `AdapterRegistry.registerAll` — the registry with more wrappers.
* `exists_nearest?_of_grown` — the nearest wrapper is at most as far away as it was.
* `classification_run` — **no later registration takes a classification back.**
-/

set_option autoImplicit false

namespace VariableNaming

/-! ## Grown stores -/

namespace TypeStore

variable {s s' : TypeStore} {t u : TypeId}

theorem Grown.extends (h : s.Grown s') (hclause : s.Extends t u) : s'.Extends t u := by
  obtain ⟨info, args, hinfo, hclause⟩ := hclause
  exact ⟨info, args, h.get? hinfo, hclause⟩

/-- What is like a collection stays so. -/
theorem Grown.isCollectionLike (h : s.Grown s') (hlike : s.isCollectionLike t = true) :
    s'.isCollectionLike t = true := by
  obtain ⟨root, hpath, hroot⟩ := isCollectionLike_iff.1 hlike
  obtain ⟨info, hinfo, hmark⟩ := marks_collection_iff.1 hroot
  have hpath' : Relation.ReflTransGen s'.Extends t root :=
    Relation.ReflTransGen.mono (fun _ _ => h.extends) _ _ hpath
  exact isCollectionLike_iff.2
    ⟨root, hpath', marks_collection_iff.2 ⟨info, h.get? hinfo, hmark⟩⟩

/-- The supertypes of a known type keep their numbers; a type that is not known has none. -/
theorem Grown.getElem?_supertypes (h : s.Grown s') {i : Nat}
    (hi : (s.supertypes t)[i]? = some u) : (s'.supertypes t)[i]? = some u := by
  cases hinfo : s.get? t with
  | none => simp [supertypes, hinfo] at hi
  | some info => simpa [supertypes, hinfo, h.get? hinfo] using hi

theorem Grown.follow_supertypes (h : s.Grown s') {path : List Nat}
    (hpath : follow s.supertypes t path = some u) : follow s'.supertypes t path = some u :=
  follow_mono h.getElem?_supertypes hpath

end TypeStore

/-! ## Grown registries -/

namespace AdapterRegistry

/-- The registry with every wrapper of a list registered, one after the other. -/
def registerAll (r : AdapterRegistry) (ws : List Adapter) : AdapterRegistry :=
  ws.foldl (fun r w => r.register w.wrapper w.kind) r

theorem contains_register_of_contains {r : AdapterRegistry} {t : TypeId} (h : r.contains t = true)
    (w : TypeId) (k : AdapterKind) : (r.register w k).contains t = true := by
  rw [← isSome_get?, get?_register]
  split
  · rfl
  · rwa [isSome_get?]

/-- A wrapper stays a wrapper, though its kind may be replaced. -/
theorem contains_registerAll {r : AdapterRegistry} {t : TypeId} (h : r.contains t = true)
    (ws : List Adapter) : (r.registerAll ws).contains t = true := by
  induction ws generalizing r with
  | nil => exact h
  | cons w ws ih => exact ih (contains_register_of_contains h w.wrapper w.kind)

/-- **The nearest wrapper is no farther away than it was.**  The walk to it is the old one, or one
that comes before the old one. -/
theorem exists_nearest?_of_grown {r r' : AdapterRegistry} {s s' : TypeStore} {t : TypeId}
    (hs : s.Grown s') (hr : ∀ w, r.contains w = true → r'.contains w = true) {a : Adapter}
    (h : r.nearest? s t = some a) :
    ∃ path a' path', IsFirst s.supertypes t (fun w => r.contains w = true) path a.wrapper ∧
      r'.nearest? s' t = some a' ∧
      IsFirst s'.supertypes t (fun w => r'.contains w = true) path' a'.wrapper ∧
      (path' = path ∨ Sooner path' path) := by
  obtain ⟨-, path, hold⟩ := (r.nearest?_eq_some_iff s t a).1 h
  have hpath : follow s'.supertypes t path = some a.wrapper := hs.follow_supertypes hold.follow_eq
  have hwrapper : r'.contains a.wrapper = true := hr _ hold.goal_end
  obtain ⟨path', w, hnew⟩ := exists_isFirst (fun w => r'.contains w = true) hpath hwrapper
  obtain ⟨a', ha'⟩ : ∃ a', r'.get? w = some a' := by
    rw [← Option.isSome_iff_exists, isSome_get?]
    exact hnew.goal_end
  obtain rfl := wrapper_of_get? ha'
  exact ⟨path, a', path', hold, (r'.nearest?_eq_some_iff s' t a').2 ⟨ha', path', hnew⟩, hnew,
    hnew.le hpath hwrapper⟩

end AdapterRegistry

/-! ## Runs -/

namespace TypeStore

/-- **No later registration takes a classification back.**  Whatever run made a store, whatever run
goes on from there, and whatever wrappers are added to a registry: what was like a collection still
is, and a type that had an adapter still has one.  The adapter may be that of another wrapper, but
only if a walk leads to it that comes before the first walk there was. -/
theorem classification_run (gs gs' : List Growth) (hroom : initial.allocations (gs ++ gs') < room)
    (r : AdapterRegistry) (ws : List Adapter) (t : TypeId) :
    let s := initial.run gs
    let s' := s.run gs'
    let r' := r.registerAll ws
    (s.isCollectionLike t = true → s'.isCollectionLike t = true) ∧
    ((r.nearest? s t).isSome = true → (r'.nearest? s' t).isSome = true) ∧
    ∀ a, r.nearest? s t = some a →
      ∃ path a' path', IsFirst s.supertypes t (fun w => r.contains w = true) path a.wrapper ∧
        r'.nearest? s' t = some a' ∧
        IsFirst s'.supertypes t (fun w => r'.contains w = true) path' a'.wrapper ∧
        (path' = path ∨ Sooner path' path) := by
  intro s s' r'
  rw [allocations_append] at hroom
  have hn : s.Numbered (initial.allocations gs) := numbered_run gs (by omega)
  have hgrown : s.Grown s' := (Grown.refl s).run hn hroom
  have hwrappers : ∀ w, r.contains w = true → r'.contains w = true := fun w hw =>
    AdapterRegistry.contains_registerAll hw ws
  refine ⟨hgrown.isCollectionLike, fun h => ?_, fun a ha =>
    AdapterRegistry.exists_nearest?_of_grown hgrown hwrappers ha⟩
  obtain ⟨a, ha⟩ := Option.isSome_iff_exists.1 h
  obtain ⟨-, a', -, -, ha', -⟩ := AdapterRegistry.exists_nearest?_of_grown hgrown hwrappers ha
  rw [ha', Option.isSome_some]

/-- A ticker is a feed, which is a stream, and a stream is a collection.  It also extends a type
that is not there yet. -/
def tickerRun : List Growth := [
  .register { TypeInfo.ofInterface "Stream" with marks := { collection := true } },
  .register { TypeInfo.ofInterface "Feed" with interfaces := [.erased ⟨2⟩] },
  .register { TypeInfo.ofClass "Ticker" with
    superclass := some (.erased ⟨5⟩), interfaces := [.erased ⟨3⟩] }]

/-- The type that the ticker extends comes in.  It extends one that never does. -/
def ledgerRun : List Growth := [
  .register { TypeInfo.ofClass "Ledger" with superclass := some (.erased ⟨6⟩) }]

/-- The stream is a wrapper, and so is the type that never comes in. -/
def tickerWrappers : AdapterRegistry :=
  (AdapterRegistry.empty.register ⟨2⟩ .multiValue).register ⟨6⟩ .singleValue

/-- First the ticker has the adapter of the stream.  With the ledger it is still like a collection
and still has an adapter, but that of the other wrapper: now there is a walk to it over the class,
which comes before the walk over the feed. -/
theorem classification_ticker :
    let s := initial.run tickerRun
    let s' := s.run ledgerRun
    let r' := tickerWrappers.registerAll [⟨⟨2⟩, .noValue⟩]
    initial.allocations (tickerRun ++ ledgerRun) < room ∧
      s.isCollectionLike ⟨4⟩ = true ∧ s'.isCollectionLike ⟨4⟩ = true ∧
      tickerWrappers.nearest? s ⟨4⟩ = some ⟨⟨2⟩, .multiValue⟩ ∧
      (r'.nearest? s' ⟨4⟩).isSome = true ∧
      ∃ path a' path', follow s.supertypes ⟨4⟩ path = some ⟨2⟩ ∧
        r'.nearest? s' ⟨4⟩ = some a' ∧ a'.wrapper = ⟨6⟩ ∧ Sooner path' path := by
  intro s s' r'
  have hroom : initial.allocations (tickerRun ++ ledgerRun) < room := by decide
  have hvisit : s.hierarchy.breadthFirst ⟨4⟩ = [⟨4⟩, ⟨5⟩, ⟨3⟩, ⟨2⟩] :=
    Digraph.breadthFirst_eq_of_levelsWithin? _ 3 (by decide)
  have hvisit' : s'.hierarchy.breadthFirst ⟨4⟩ = [⟨4⟩, ⟨5⟩, ⟨3⟩, ⟨6⟩, ⟨2⟩] :=
    Digraph.breadthFirst_eq_of_levelsWithin? _ 3 (by decide)
  have hlike : s.isCollectionLike ⟨4⟩ = true := by
    rw [isCollectionLike, hvisit]
    decide
  have hnear : tickerWrappers.nearest? s ⟨4⟩ = some ⟨⟨2⟩, .multiValue⟩ := by
    rw [AdapterRegistry.nearest?, hvisit]
    decide
  have hnear' : r'.nearest? s' ⟨4⟩ = some ⟨⟨6⟩, .singleValue⟩ := by
    rw [AdapterRegistry.nearest?, hvisit']
    decide
  obtain ⟨hcollection, hadapter, hsooner⟩ :=
    classification_run tickerRun ledgerRun hroom tickerWrappers [⟨⟨2⟩, .noValue⟩] ⟨4⟩
  obtain ⟨path, a', path', hold, ha', hnew, hle⟩ := hsooner _ hnear
  obtain rfl : a' = ⟨⟨6⟩, .singleValue⟩ := Option.some.inj (ha'.symm.trans hnear')
  refine ⟨hroom, hlike, hcollection hlike, hnear, hadapter (by rw [hnear]; rfl), path, _, path',
    hold.follow_eq, ha', rfl, hle.resolve_left ?_⟩
  -- the old walk is still there, and still ends at the stream
  rintro rfl
  have hgrown : s.Grown s' := (Grown.refl s).run (numbered_run tickerRun (by decide)) (by decide)
  cases hnew.follow_eq.symm.trans (hgrown.follow_supertypes hold.follow_eq)

end TypeStore
end VariableNaming
