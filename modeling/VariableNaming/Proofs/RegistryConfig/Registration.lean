import Mathlib.Data.List.Dedup
import Mathlib.Data.List.Find
import VariableNaming.Proofs.Adapter.Nearest
import VariableNaming.Proofs.TypeStore.Bookkeeping
import VariableNaming.RegistryConfig.Build

/-!
# The registry that a configuration makes

A configuration may name a type more than once, and may name what is no type.  The first name that
is unknown stops the registration.  If there is none, each type that is named becomes a wrapper of
the kind that its last entry gives, and as no type has two names there are as many wrappers as
names.

* `RegistryConfig.firstUnknown?`, `RegistryConfig.lastNamed?` — the entries that decide.
* `registerEntries_eq_error`, `exists_registerEntries_eq_ok` — what stops the registration.
* `get?_registerEntries` — what is registered, by the last entry for each type.
* `size_ofConfig` — how many wrappers there are.
* `ofConfig_run` — **the registry of a configuration, after any run of the store.**
-/

set_option autoImplicit false

namespace VariableNaming

/-! ## Entries -/

namespace RegistryConfig

/-- The names that stand in a configuration, with repetitions. -/
def typeNames (c : RegistryConfig) : List String := c.adapters.map (·.typeName)

/-- The first entry whose name no type has. -/
def firstUnknown? (c : RegistryConfig) (s : TypeStore) : Option AdapterEntry :=
  c.adapters.find? fun e => (s.find? e.typeName).isNone

/-- The last entry with a name. -/
def lastNamed? (c : RegistryConfig) (name : String) : Option AdapterEntry :=
  c.adapters.reverse.find? (·.typeName = name)

theorem firstUnknown?_eq_none_iff {c : RegistryConfig} {s : TypeStore} :
    c.firstUnknown? s = none ↔ ∀ e ∈ c.adapters, s.find? e.typeName ≠ none := by
  simp [firstUnknown?]

end RegistryConfig

/-- The last entry whose name belongs to a type. -/
def TypeStore.lastFor? (s : TypeStore) (t : TypeId) (es : List AdapterEntry) :
    Option AdapterEntry :=
  es.reverse.find? fun e => s.find? e.typeName = some t

section Entries

variable {s : TypeStore} {t : TypeId}

/-- An entry counts for its type as long as no later entry does. -/
theorem TypeStore.lastFor?_cons (e : AdapterEntry) (es : List AdapterEntry) :
    s.lastFor? t (e :: es) =
      (s.lastFor? t es).or (if s.find? e.typeName = some t then some e else none) := by
  by_cases h : s.find? e.typeName = some t <;>
    simp [lastFor?, List.find?_append, h]

/-- Where each type is called by its name, the last entry for a type is the last one with the name
of the type. -/
theorem TypeStore.CalledByNames.lastFor?_eq (h : s.CalledByNames) {name : String}
    (ht : s.find? name = some t) (c : RegistryConfig) :
    s.lastFor? t c.adapters = c.lastNamed? name := by
  refine List.find?_congr fun e _ => decide_eq_decide.2 ⟨fun he => h.find?_inj he ht, ?_⟩
  rintro rfl
  exact ht

end Entries

/-! ## Registration -/

namespace AdapterRegistry

section Registration

variable {s : TypeStore} {es : List AdapterEntry}

/-- The first unknown name stops the registration. -/
theorem registerEntries_eq_error (r : AdapterRegistry) {e : AdapterEntry}
    (h : es.find? (fun e => (s.find? e.typeName).isNone) = some e) :
    registerEntries s r es = .error (.unknownType e.typeName) := by
  induction es generalizing r with
  | nil => cases h
  | cons d es ih =>
    rw [registerEntries]
    cases hd : s.find? d.typeName with
    | none =>
      obtain rfl : d = e := by simpa [hd] using h
      rfl
    | some t => exact ih (r.register t d.kind) (by simpa [hd] using h)

/-- Nothing else does. -/
theorem exists_registerEntries_eq_ok (r : AdapterRegistry)
    (h : es.find? (fun e => (s.find? e.typeName).isNone) = none) :
    ∃ r', registerEntries s r es = .ok r' := by
  induction es generalizing r with
  | nil => exact ⟨r, rfl⟩
  | cons d es ih =>
    rw [registerEntries]
    cases hd : s.find? d.typeName with
    | none => simp [hd] at h
    | some t => exact ih (r.register t d.kind) (by simpa [hd] using h)

/-- **The last entry for a type decides**, and what no entry is for stays as it was. -/
theorem get?_registerEntries {r r' : AdapterRegistry} (h : registerEntries s r es = .ok r')
    (t : TypeId) :
    r'.get? t = ((s.lastFor? t es).map fun e => ⟨t, e.kind⟩).or (r.get? t) := by
  induction es generalizing r with
  | nil =>
    obtain rfl := Except.ok.inj h
    rfl
  | cons e es ih =>
    rw [registerEntries] at h
    cases he : s.find? e.typeName with
    | none =>
      rw [he] at h
      cases h
    | some u =>
      rw [he] at h
      rw [ih h, get?_register, TypeStore.lastFor?_cons, he]
      by_cases hu : t = u
      · subst hu
        cases s.lastFor? t es <;> simp
      · cases s.lastFor? t es <;> simp [hu, Ne.symm hu]

end Registration

/-! ## Configurations -/

section Configured

variable {s : TypeStore} {c : RegistryConfig} {r : AdapterRegistry}

theorem ofConfig_eq_error_iff {error : ConfigError} :
    ofConfig c s = .error error ↔
      ∃ e, c.firstUnknown? s = some e ∧ error = .unknownType e.typeName := by
  constructor
  · intro h
    cases hunknown : c.firstUnknown? s with
    | none =>
      obtain ⟨r, hr⟩ := exists_registerEntries_eq_ok empty hunknown
      cases h.symm.trans hr
    | some e =>
      have hfail := registerEntries_eq_error empty hunknown
      exact ⟨e, rfl, Except.error.inj (h.symm.trans hfail)⟩
  · rintro ⟨e, hunknown, rfl⟩
    exact registerEntries_eq_error empty hunknown

theorem exists_ofConfig_eq_error_iff :
    (∃ error, ofConfig c s = .error error) ↔ ∃ e ∈ c.adapters, s.find? e.typeName = none := by
  simp only [ofConfig_eq_error_iff]
  constructor
  · rintro ⟨error, e, he, -⟩
    exact ⟨e, List.mem_of_find?_eq_some he, by simpa using List.find?_some he⟩
  · rintro ⟨e, hmem, he⟩
    obtain ⟨d, hd⟩ := Option.ne_none_iff_exists'.1 fun hnone =>
      RegistryConfig.firstUnknown?_eq_none_iff.1 hnone e hmem he
    exact ⟨_, d, hd, rfl⟩

theorem get?_ofConfig (h : ofConfig c s = .ok r) (t : TypeId) :
    r.get? t = (s.lastFor? t c.adapters).map fun e => ⟨t, e.kind⟩ := by
  rw [get?_registerEntries h, get?_empty, Option.or_none]

theorem get?_ofConfig_eq_some_iff (hnames : s.CalledByNames) (h : ofConfig c s = .ok r)
    {t : TypeId} {a : Adapter} :
    r.get? t = some a ↔ a.wrapper = t ∧
      ∃ name e, s.find? name = some t ∧ c.lastNamed? name = some e ∧ e.kind = a.kind := by
  rw [get?_ofConfig h, Option.map_eq_some_iff]
  constructor
  · rintro ⟨e, he, rfl⟩
    have hfind : s.find? e.typeName = some t := by simpa using List.find?_some he
    rw [hnames.lastFor?_eq hfind] at he
    exact ⟨rfl, e.typeName, e, hfind, he, rfl⟩
  · rintro ⟨rfl, name, e, hfind, he, hkind⟩
    exact ⟨e, (hnames.lastFor?_eq hfind c).trans he, by rw [hkind]⟩

/-- The wrappers are the types that are named. -/
theorem mem_keys_ofConfig_iff (h : ofConfig c s = .ok r) {t : TypeId} :
    t ∈ r.kinds.keys ↔ ∃ name ∈ c.typeNames, s.find? name = some t := by
  have hsome : t ∈ r.kinds.keys ↔ (r.get? t).isSome := by
    rw [isSome_get?, contains, Std.TreeMap.mem_keys, Std.TreeMap.mem_iff_contains]
  rw [hsome, get?_ofConfig h]
  simp [TypeStore.lastFor?, RegistryConfig.typeNames]

/-- **There are as many wrappers as different names.** -/
theorem size_ofConfig (hnames : s.CalledByNames) (hknown : c.firstUnknown? s = none)
    (h : ofConfig c s = .ok r) : r.size = c.typeNames.dedup.length := by
  have hfound : ∀ name ∈ c.typeNames, s.find? name ≠ none := by
    simpa [RegistryConfig.typeNames] using RegistryConfig.firstUnknown?_eq_none_iff.1 hknown
  -- the names and the wrappers correspond one to one
  have hperm : List.Perm (c.typeNames.dedup.map s.find?) (r.kinds.keys.map some) := by
    refine (List.perm_ext_iff_of_nodup ?_ ?_).2 fun o => ?_
    · refine c.typeNames.nodup_dedup.map_on fun name hname name' hname' heq => ?_
      obtain ⟨t, ht⟩ := Option.ne_none_iff_exists'.1 (hfound name (List.mem_dedup.1 hname))
      exact hnames.find?_inj ht (heq.symm.trans ht)
    · exact Std.TreeMap.nodup_keys.map (Option.some_injective _)
    · rw [List.mem_map, List.mem_map]
      constructor
      · rintro ⟨name, hname, rfl⟩
        have hmem := List.mem_dedup.1 hname
        obtain ⟨t, ht⟩ := Option.ne_none_iff_exists'.1 (hfound name hmem)
        exact ⟨t, (mem_keys_ofConfig_iff h).2 ⟨name, hmem, ht⟩, ht.symm⟩
      · rintro ⟨t, ht, rfl⟩
        obtain ⟨name, hmem, hfind⟩ := (mem_keys_ofConfig_iff h).1 ht
        exact ⟨name, List.mem_dedup.2 hmem, hfind⟩
  have hlength := hperm.length_eq
  rw [List.length_map, List.length_map, Std.TreeMap.length_keys] at hlength
  exact hlength.symm

end Configured

/-- **A configuration makes a registry unless it names what is unknown.**  It fails just when some
name is unknown, and then with the first such name.  Otherwise the wrappers are the types that are
named, each with the kind of the last entry with its name, and there are as many of them as there
are different names. -/
theorem ofConfig_run (gs : List TypeStore.Growth)
    (hroom : TypeStore.initial.allocations gs < TypeStore.room) (c : RegistryConfig) :
    let s := TypeStore.initial.run gs
    ((∃ error, ofConfig c s = .error error) ↔ ∃ e ∈ c.adapters, s.find? e.typeName = none) ∧
    (∀ error, ofConfig c s = .error error ↔
      ∃ e, c.firstUnknown? s = some e ∧ error = .unknownType e.typeName) ∧
    ((∀ e ∈ c.adapters, s.find? e.typeName ≠ none) → ∃ r, ofConfig c s = .ok r ∧
      (∀ t a, r.get? t = some a ↔ a.wrapper = t ∧
        ∃ name e, s.find? name = some t ∧ c.lastNamed? name = some e ∧ e.kind = a.kind) ∧
      r.size = c.typeNames.dedup.length) := by
  intro s
  have hnames : s.CalledByNames := TypeStore.calledByNames_run gs hroom
  refine ⟨exists_ofConfig_eq_error_iff, fun error => ofConfig_eq_error_iff, fun hknown => ?_⟩
  have hnone := RegistryConfig.firstUnknown?_eq_none_iff.2 hknown
  obtain ⟨r, hr⟩ := exists_registerEntries_eq_ok empty hnone
  exact ⟨r, hr, fun t a => get?_ofConfig_eq_some_iff hnames hr, size_ofConfig hnames hnone hr⟩

/-- A class, another one, and a class that takes the name of the first. -/
def monoRun : List TypeStore.Growth := [
  .register (.ofClass "app.Mono"),
  .register (.ofClass "app.Flux"),
  .register (.ofClass "app.Mono")]

/-- The later class with the name, under which there are two entries. -/
def monoConfig : RegistryConfig :=
  ⟨[⟨"app.Mono", .singleValue⟩, ⟨"app.Flux", .multiValue⟩, ⟨"app.Mono", .noValue⟩]⟩

/-- Only the later class is a wrapper, and only the later entry counts.  With names that are
unknown, the first of them is told. -/
theorem ofConfig_monoConfig :
    TypeStore.initial.allocations monoRun < TypeStore.room ∧
      (∃ r, ofConfig monoConfig (TypeStore.initial.run monoRun) = .ok r ∧
        r.get? ⟨2⟩ = none ∧ r.get? ⟨4⟩ = some ⟨⟨4⟩, .noValue⟩ ∧ r.size = 2) ∧
      ofConfig ⟨monoConfig.adapters ++ [⟨"app.Maybe", .singleValue⟩, ⟨"app.Some", .noValue⟩]⟩
        (TypeStore.initial.run monoRun) = .error (.unknownType "app.Maybe") := by
  have hroom : TypeStore.initial.allocations monoRun < TypeStore.room := by decide
  have hknown : ∀ e ∈ monoConfig.adapters,
      (TypeStore.initial.run monoRun).find? e.typeName ≠ none := by decide +kernel
  obtain ⟨r, hr, hget, hsize⟩ := (ofConfig_run monoRun hroom monoConfig).2.2 hknown
  refine ⟨hroom, ⟨r, hr, ?_, ?_, hsize⟩, ?_⟩
  · rw [Option.eq_none_iff_forall_ne_some]
    intro a ha
    obtain ⟨-, name, e, hfind, -, -⟩ := (hget _ a).1 ha
    -- the earlier class is still called by the name, but the name belongs to the later one
    have hname : some "app.Mono" = some name :=
      (by decide : some "app.Mono" = (TypeStore.initial.run monoRun).name? ⟨2⟩).trans
        (TypeStore.calledByNames_run monoRun hroom hfind)
    obtain rfl := Option.some.inj hname
    exact absurd hfind (by decide +kernel)
  · exact (hget _ _).2 ⟨rfl, "app.Mono", ⟨"app.Mono", .noValue⟩, by decide +kernel, by decide, rfl⟩
  · refine ((ofConfig_run monoRun hroom _).2.1 _).2 ⟨⟨"app.Maybe", .singleValue⟩, ?_, rfl⟩
    decide +kernel

end AdapterRegistry
end VariableNaming
