import Mathlib.Data.List.Induction
import VariableNaming.Proofs.TypeStore.Growth

/-!
# The books that a store of types keeps

A store keeps the descriptions of types, the types of names, the array types over components and the
next id.  What the four say after a run is told by the run: by how many ids it took, by which
registrations it has and in what order, and by when it asked for an array type first.

* `get?_run`, `arrays_run` — descriptions and array types stay as they are.
* `arrays_run_eq_none_iff` — there is an array type over each component for which one was asked.
* `find?_run_iff` — a name belongs to the last type that was registered under it.
* `Bookkeeping`, `bookkeeping_run` — all that is true after a run that finds enough ids.
-/

set_option autoImplicit false

namespace VariableNaming
namespace TypeStore

variable {s : TypeStore} {n : Nat}

/-! ## Longer runs -/

@[simp] theorem run_nil (s : TypeStore) : s.run [] = s := rfl

@[simp] theorem run_cons (s : TypeStore) (g : Growth) (gs : List Growth) :
    s.run (g :: gs) = (s.grow g).run gs := rfl

theorem run_append (s : TypeStore) (gs gs' : List Growth) :
    s.run (gs ++ gs') = (s.run gs).run gs' := by
  simp [run, List.foldl_append]

theorem allocations_append (s : TypeStore) (gs gs' : List Growth) :
    s.allocations (gs ++ gs') = s.allocations gs + (s.run gs).allocations gs' := by
  induction gs generalizing s with
  | nil => simp [allocations]
  | cons g gs ih => rw [List.cons_append, allocations, allocations, ih, run_cons, Nat.add_assoc]

/-- What was true after a step is true after the run, if every step with an id left keeps it. -/
theorem Numbered.run_induct {motive : TypeStore → Prop}
    (step : ∀ {n s}, s.Numbered n → ∀ g, motive s → motive (s.grow g)) (h : s.Numbered n)
    {gs : List Growth} (hroom : n + s.allocations gs < room) (hs : motive s) :
    motive (s.run gs) := by
  induction gs generalizing s n with
  | nil => exact hs
  | cons g gs ih =>
    rw [allocations, ← Nat.add_assoc] at hroom
    exact ih (h.grow g (by omega)) hroom (step h g hs)

/-! ## Descriptions -/

/-- What is known does not change in a run. -/
theorem Numbered.get?_run (h : s.Numbered n) {gs : List Growth}
    (hroom : n + s.allocations gs < room) {t : TypeId} {info : TypeInfo}
    (ht : s.get? t = some info) : (s.run gs).get? t = some info :=
  h.run_induct (motive := fun s => s.get? t = some info) (fun h g ht => h.get?_grow ht g) hroom ht

/-- One step puts in as many types as it takes ids. -/
theorem Numbered.size_grow (h : s.Numbered n) (g : Growth) :
    (s.grow g).size = s.size + s.allocates g := by
  have hnext : s.types.contains s.next = false := by
    rw [← Std.TreeMap.isSome_getElem?_eq_contains]
    exact congrArg Option.isSome h.get?_next
  cases g with
  | register info =>
    show (s.types.insert s.next info).size = s.types.size + 1
    rw [Std.TreeMap.size_insert, hnext]
    rfl
  | arrayOf c =>
    cases hc : s.arrays[c]? with
    | some a => simp [TypeStore.grow, allocates, hc, arrayOf_of_some hc]
    | none =>
      simp [TypeStore.grow, TypeStore.arrayOf, allocates, hc, size, Std.TreeMap.size_insert, hnext]

theorem Numbered.size_run (h : s.Numbered n) {gs : List Growth}
    (hroom : n + s.allocations gs < room) :
    (s.run gs).size = s.size + s.allocations gs := by
  induction gs generalizing s n with
  | nil => rfl
  | cons g gs ih =>
    rw [allocations, ← Nat.add_assoc] at hroom
    rw [run_cons, ih (h.grow g (by omega)) hroom, h.size_grow, allocations, Nat.add_assoc]

/-! ## Names -/

theorem find?_initial (name : String) :
    initial.find? name = if name = objectName then some .object else none := by
  simp [initial, find?, Std.TreeMap.getElem?_insert, @eq_comm _ name]

/-- The type of a name is the last one that was registered under it in the run, and if there is none
the type that had the name before. -/
theorem find?_run_iff (s : TypeStore) (gs : List Growth) (name : String) (t : TypeId) :
    (s.run gs).find? name = some t ↔
      (∃ gs₁ info gs₂, gs = gs₁ ++ .register info :: gs₂ ∧ info.name = name ∧
        (s.run gs₁).next = t ∧ ∀ info', .register info' ∈ gs₂ → info'.name ≠ name) ∨
      (s.find? name = some t ∧ ∀ info', .register info' ∈ gs → info'.name ≠ name) := by
  induction gs generalizing s with
  | nil => simp
  | cons g gs ih =>
    rw [run_cons, ih]
    constructor
    · rintro (⟨gs₁, info, gs₂, rfl, hname, ht, hlast⟩ | ⟨ht, hnone⟩)
      · exact Or.inl ⟨g :: gs₁, info, gs₂, rfl, hname, ht, hlast⟩
      · cases g with
        | arrayOf c =>
          refine Or.inr ⟨?_, by simpa using hnone⟩
          rwa [grow, find?, names_arrayOf] at ht
        | register info =>
          rw [grow, find?_register] at ht
          split at ht
          · rename_i hname
            exact Or.inl ⟨[], info, gs, rfl, hname.symm, Option.some.inj ht, hnone⟩
          · rename_i hname
            refine Or.inr ⟨ht, fun info' hinfo' => ?_⟩
            rcases List.mem_cons.1 hinfo' with heq | hinfo'
            · obtain rfl := Growth.register.inj heq
              exact Ne.symm hname
            · exact hnone info' hinfo'
    · rintro (⟨gs₁, info, gs₂, hgs, hname, ht, hlast⟩ | ⟨ht, hnone⟩)
      · rcases List.cons_eq_append_iff.1 hgs with ⟨rfl, heq⟩ | ⟨gs₁, rfl, rfl⟩
        · -- the step itself is the registration
          obtain ⟨rfl, rfl⟩ := List.cons.inj heq
          refine Or.inr ⟨?_, hlast⟩
          rw [grow, find?_register, if_pos hname.symm]
          exact congrArg some ht
        · exact Or.inl ⟨gs₁, info, gs₂, rfl, hname, ht, hlast⟩
      · refine Or.inr ⟨?_, fun info' hinfo' => hnone info' (List.mem_cons_of_mem _ hinfo')⟩
        cases g with
        | arrayOf c => rwa [grow, find?, names_arrayOf]
        | register info =>
          rw [grow, find?_register, if_neg]
          · exact ht
          · exact Ne.symm (hnone info List.mem_cons_self)

/-- The type of each name is called by it. -/
def CalledByNames (s : TypeStore) : Prop :=
  ∀ {name : String} {t : TypeId}, s.find? name = some t → s.name? t = some name

theorem calledByNames_initial : initial.CalledByNames := by
  intro name t ht
  rw [find?_initial] at ht
  obtain ⟨rfl, rfl⟩ : name = objectName ∧ TypeId.object = t := by simpa using ht
  rfl

theorem CalledByNames.grow (h : s.CalledByNames) (hn : s.Numbered n) (g : Growth) :
    (s.grow g).CalledByNames := by
  intro name t ht
  cases g with
  | arrayOf c =>
    rw [TypeStore.grow, find?, names_arrayOf] at ht
    exact hn.name?_grow (h ht) (.arrayOf c)
  | register info =>
    rw [TypeStore.grow, find?_register] at ht
    split at ht
    · rename_i hname
      obtain rfl := Option.some.inj ht
      have hget : (s.grow (.register info)).get? s.next = some info := by
        rw [TypeStore.grow, get?_register, if_pos rfl]
      exact Option.map_eq_some_iff.2 ⟨info, hget, hname.symm⟩
    · exact hn.name?_grow (h ht) (.register info)

/-- After a run, the type of each name is called by it. -/
theorem calledByNames_run (gs : List Growth) (hroom : initial.allocations gs < room) :
    (initial.run gs).CalledByNames :=
  numbered_initial.run_induct (motive := CalledByNames) (fun hn g h => h.grow hn g)
    (by simpa using hroom) calledByNames_initial

/-- No two names belong to one type. -/
theorem CalledByNames.find?_inj (h : s.CalledByNames) {name name' : String} {t : TypeId}
    (ht : s.find? name = some t) (ht' : s.find? name' = some t) : name = name' :=
  Option.some.inj ((h ht).symm.trans (h ht'))

/-! ## Array types -/

/-- An array type that is there stays the one over its component. -/
theorem arrays_grow {c a : TypeId} (h : s.arrays[c]? = some a) (g : Growth) :
    (s.grow g).arrays[c]? = some a := by
  cases g with
  | register info => exact h
  | arrayOf d =>
    rw [grow, arrays_arrayOf]
    split
    · rename_i heq
      subst heq
      rw [arrayOf_of_some h]
    · exact h

theorem arrays_run {c a : TypeId} (h : s.arrays[c]? = some a) (gs : List Growth) :
    (s.run gs).arrays[c]? = some a := by
  induction gs generalizing s with
  | nil => exact h
  | cons g gs ih => exact ih (arrays_grow h g)

/-- There is no array type over a component just when there was none and none was asked for. -/
theorem arrays_run_eq_none_iff (s : TypeStore) (gs : List Growth) (c : TypeId) :
    (s.run gs).arrays[c]? = none ↔ s.arrays[c]? = none ∧ .arrayOf c ∉ gs := by
  induction gs generalizing s with
  | nil => simp
  | cons g gs ih =>
    rw [run_cons, ih]
    cases g with
    | register info => simp [grow, register]
    | arrayOf d =>
      rw [grow, arrays_arrayOf]
      by_cases hd : c = d <;> simp [hd]

/-- The array type over a component for which one was asked: the run finds the same one. -/
theorem arrays_run_of_mem {c : TypeId} {gs : List Growth} (h : .arrayOf c ∈ gs) :
    (s.run gs).arrays[c]? = some ((s.run gs).arrayOf c).1 := by
  cases hc : (s.run gs).arrays[c]? with
  | none => exact absurd h ((s.arrays_run_eq_none_iff gs c).1 hc).2
  | some a => rw [arrayOf_of_some hc]

/-- Asking again gives the array type that was given before. -/
theorem arrayOf_run_append_cons (s : TypeStore) (gs₁ gs₂ : List Growth) (c : TypeId) :
    (s.run (gs₁ ++ .arrayOf c :: gs₂)).arrayOf c =
      (((s.run gs₁).arrayOf c).1, s.run (gs₁ ++ .arrayOf c :: gs₂)) := by
  refine arrayOf_of_some ?_
  rw [run_append, run_cons]
  refine arrays_run ?_ gs₂
  rw [grow, arrays_arrayOf, if_pos rfl]

/-- Different components have different array types. -/
theorem Numbered.array_inj (h : s.Numbered n) {c d a : TypeId} (hc : s.arrays[c]? = some a)
    (hd : s.arrays[d]? = some a) : c = d := by
  obtain ⟨name, hget, -⟩ := h.get?_array hc
  obtain ⟨name', hget', -⟩ := h.get?_array hd
  have hinfo : TypeInfo.ofArray c name = .ofArray d name' :=
    Option.some.inj (hget.symm.trans hget')
  simpa using congrArg TypeInfo.component? hinfo

/-- The type is known, and was not put in as an array type over a component. -/
def Registered (s : TypeStore) (t : TypeId) : Prop :=
  (∃ info, s.get? t = some info) ∧ ∀ c : TypeId, s.arrays[c]? ≠ some t

theorem Numbered.registered_grow (h : s.Numbered n) {t : TypeId} (ht : s.Registered t)
    (g : Growth) : (s.grow g).Registered t := by
  obtain ⟨⟨info, hinfo⟩, hnone⟩ := ht
  refine ⟨⟨info, h.get?_grow hinfo g⟩, fun c => ?_⟩
  cases g with
  | register i => exact hnone c
  | arrayOf d =>
    rw [TypeStore.grow, arrays_arrayOf]
    split
    · -- the array type over `d` is one that was there, or has the next id
      cases hd : s.arrays[d]? with
      | some a =>
        rw [arrayOf_of_some hd]
        exact fun heq => hnone d (hd.trans heq)
      | none =>
        rw [fst_arrayOf_of_none hd]
        exact fun heq => h.ne_next hinfo (Option.some.inj heq).symm
    · exact hnone c

theorem Numbered.registered_register (h : s.Numbered n) (info : TypeInfo) :
    (s.grow (.register info)).Registered s.next := by
  refine ⟨⟨info, by rw [TypeStore.grow, get?_register, if_pos rfl]⟩, fun c hc => ?_⟩
  obtain ⟨name, hget, -⟩ := h.get?_array (c := c) hc
  exact h.ne_next hget rfl

theorem registered_object : initial.Registered .object :=
  ⟨⟨.object, rfl⟩, fun c => by simp [initial]⟩

/-- A type that a run registers is registered at its end. -/
theorem registered_run {gs gs₁ gs₂ : List Growth} {info : TypeInfo}
    (hgs : gs = gs₁ ++ .register info :: gs₂) (hroom : initial.allocations gs < room) :
    (initial.run gs).Registered (initial.run gs₁).next := by
  subst hgs
  rw [allocations_append, allocations] at hroom
  have h := numbered_run gs₁ (by omega)
  rw [run_append, run_cons]
  refine (h.grow (.register info) (by omega)).run_induct
    (motive := fun s => s.Registered (initial.run gs₁).next)
    (fun h g ht => h.registered_grow ht g) (by omega) (h.registered_register info)

/-- A type that has a name was registered. -/
theorem registered_of_find? {gs : List Growth} (hroom : initial.allocations gs < room)
    {name : String} {t : TypeId} (ht : (initial.run gs).find? name = some t) :
    (initial.run gs).Registered t := by
  rcases (initial.find?_run_iff gs name t).1 ht with ⟨gs₁, info, gs₂, hgs, -, rfl, -⟩ | ⟨ht, -⟩
  · exact registered_run hgs hroom
  · rw [find?_initial] at ht
    obtain ⟨-, rfl⟩ : name = objectName ∧ TypeId.object = t := by simpa using ht
    exact numbered_initial.run_induct (motive := fun s => s.Registered .object)
      (fun h g ht => h.registered_grow ht g) (by simpa using hroom) registered_object

/-! ## After a run -/

/-- What is true of the store after a run. -/
structure Bookkeeping (gs : List Growth) : Prop where
  /-- The known ids are the numbers from 1 to the number of types. -/
  mem_known_iff {t : TypeId} : t ∈ (initial.run gs).known ↔
    1 ≤ t.index.toNat ∧ t.index.toNat ≤ (initial.run gs).size
  /-- The next type that is registered has the number after them. -/
  toNat_fst_register (info : TypeInfo) :
    ((initial.run gs).register info).1.index.toNat = (initial.run gs).size + 1
  /-- So has the next array type over a component for which none was asked. -/
  toNat_fst_arrayOf {c : TypeId} (hc : .arrayOf c ∉ gs) :
    ((initial.run gs).arrayOf c).1.index.toNat = (initial.run gs).size + 1
  /-- What was known at any time is known as it was. -/
  get?_of_earlier {gs₁ gs₂ : List Growth} (hgs : gs = gs₁ ++ gs₂) {t : TypeId} {info : TypeInfo}
    (ht : (initial.run gs₁).get? t = some info) : (initial.run gs).get? t = some info
  /-- A name belongs to the last type that was registered under it.  The name of the top type
  belongs to this one until another type is registered under it. -/
  find?_iff {name : String} {t : TypeId} : (initial.run gs).find? name = some t ↔
    (∃ gs₁ info gs₂, gs = gs₁ ++ .register info :: gs₂ ∧ info.name = name ∧
      ((initial.run gs₁).register info).1 = t ∧
        ∀ info', .register info' ∈ gs₂ → info'.name ≠ name) ∨
    (name = objectName ∧ t = .object ∧ ∀ info', .register info' ∈ gs → info'.name ≠ name)
  /-- Asking for an array type changes no name. -/
  find?_arrayOf (c : TypeId) (name : String) :
    ((initial.run gs).arrayOf c).2.find? name = (initial.run gs).find? name
  /-- An array type that was given at any time is given again, and changes nothing. -/
  arrayOf_of_earlier {gs₁ gs₂ : List Growth} {c : TypeId} (hgs : gs = gs₁ ++ .arrayOf c :: gs₂) :
    (initial.run gs).arrayOf c = (((initial.run gs₁).arrayOf c).1, initial.run gs)
  /-- Its component is the one for which it was asked. -/
  component?_array {c : TypeId} (hc : .arrayOf c ∈ gs) :
    (initial.run gs).component? ((initial.run gs).arrayOf c).1 = some c
  /-- It is called after its component as that was called when it was asked for first. -/
  name?_array {gs₁ gs₂ : List Growth} {c : TypeId} (hgs : gs = gs₁ ++ .arrayOf c :: gs₂)
    (hfirst : .arrayOf c ∉ gs₁) : (initial.run gs).name? ((initial.run gs).arrayOf c).1 =
      some ((initial.run gs₁).qualifiedName c ++ "[]")
  /-- It belongs to no name. -/
  find?_ne_array {c : TypeId} (hc : .arrayOf c ∈ gs) (name : String) :
    (initial.run gs).find? name ≠ some ((initial.run gs).arrayOf c).1
  /-- Different components have different array types. -/
  array_inj {c d : TypeId} (hc : .arrayOf c ∈ gs) (hd : .arrayOf d ∈ gs)
    (h : ((initial.run gs).arrayOf c).1 = ((initial.run gs).arrayOf d).1) : c = d
  /-- No type that was registered is one of them, not even an array type over the same component. -/
  array_ne_registered {gs₁ gs₂ : List Growth} {info : TypeInfo} {c : TypeId}
    (hgs : gs = gs₁ ++ .register info :: gs₂) (hc : .arrayOf c ∈ gs) :
    ((initial.run gs).arrayOf c).1 ≠ ((initial.run gs₁).register info).1

/-- The name of an array type, from when it was asked for first. -/
theorem name?_array_run {gs₁ gs₂ : List Growth} {c : TypeId} (hfirst : .arrayOf c ∉ gs₁)
    (hroom : initial.allocations (gs₁ ++ .arrayOf c :: gs₂) < room) :
    (initial.run (gs₁ ++ .arrayOf c :: gs₂)).name? ((initial.run gs₁).arrayOf c).1 =
      some ((initial.run gs₁).qualifiedName c ++ "[]") := by
  rw [allocations_append, allocations] at hroom
  have h := numbered_run gs₁ (by omega)
  have hnone : (initial.run gs₁).arrays[c]? = none :=
    (initial.arrays_run_eq_none_iff gs₁ c).2 ⟨by simp [initial], hfirst⟩
  have hget : ((initial.run gs₁).arrayOf c).2.get? ((initial.run gs₁).arrayOf c).1 =
      some (.ofArray c ((initial.run gs₁).qualifiedName c)) := by
    rw [fst_arrayOf_of_none hnone, get?_arrayOf_of_none hnone, if_pos rfl]
  have hend : (initial.run (gs₁ ++ .arrayOf c :: gs₂)).get? ((initial.run gs₁).arrayOf c).1 =
      some (.ofArray c ((initial.run gs₁).qualifiedName c)) := by
    rw [run_append, run_cons]
    exact (h.grow (.arrayOf c) (by omega)).get?_run (by omega) hget
  exact Option.map_eq_some_iff.2 ⟨_, hend, rfl⟩

/-- **The books of a store are in order after every run that finds enough ids.** -/
theorem bookkeeping_run (gs : List Growth) (hroom : initial.allocations gs < room) :
    Bookkeeping gs := by
  have h := numbered_run gs hroom
  have hsize : (initial.run gs).next.index.toNat = (initial.run gs).size + 1 := by
    rw [h.toNat_next, numbered_initial.size_run (by simpa using hroom)]
    have : initial.size = 1 := rfl
    omega
  have harray {c : TypeId} (hc : .arrayOf c ∈ gs) :=
    h.get?_array (arrays_run_of_mem (s := initial) hc)
  refine
    { mem_known_iff := fun {t} => ?_
      toNat_fst_register := fun info => hsize
      toNat_fst_arrayOf := fun {c} hc => ?_
      get?_of_earlier := fun {gs₁ gs₂} hgs {t info} ht => ?_
      find?_iff := fun {name t} => ?_
      find?_arrayOf := fun c name => by rw [find?, find?, names_arrayOf]
      arrayOf_of_earlier := fun {gs₁ gs₂ c} hgs => ?_
      component?_array := fun {c} hc => ?_
      name?_array := fun {gs₁ gs₂ c} hgs hfirst => ?_
      find?_ne_array := fun {c} hc name hname => ?_
      array_inj := fun {c d} hc hd heq => ?_
      array_ne_registered := fun {gs₁ gs₂ info c} hgs hc heq => ?_ }
  · rw [mem_known, h.isSome_get?_iff, hsize]
    omega
  · have hnone := (initial.arrays_run_eq_none_iff gs c).2 ⟨by simp [initial], hc⟩
    rw [fst_arrayOf_of_none hnone, hsize]
  · subst hgs
    rw [allocations_append] at hroom
    rw [run_append]
    exact (numbered_run gs₁ (by omega)).get?_run (by omega) ht
  · rw [find?_run_iff, find?_initial]
    simp [eq_comm, and_assoc]
  · subst hgs
    exact arrayOf_run_append_cons initial gs₁ gs₂ c
  · obtain ⟨name, hget, -⟩ := harray hc
    rw [component?, hget]
    rfl
  · subst hgs
    rw [arrayOf_run_append_cons]
    exact name?_array_run hfirst hroom
  · exact (registered_of_find? hroom hname).2 c (arrays_run_of_mem hc)
  · refine h.array_inj (arrays_run_of_mem hc) ?_
    rw [heq]
    exact arrays_run_of_mem hd
  · refine (registered_run hgs hroom).2 c ?_
    rw [arrays_run_of_mem hc, heq, fst_register]

/-- An array type asked for before its component is known, an array type over the same component
that is registered beside it, and a class that takes the name of the top type. -/
def crowdedRun : List Growth := [
  .arrayOf ⟨3⟩,
  .register (.ofClass "Item"),
  .register (.ofArray ⟨3⟩ "Item"),
  .register (.ofClass "Object"),
  .arrayOf ⟨3⟩]

/-- The array type keeps the name it got when its component had none, the registered one is another
type, and the name of the top type has gone to the class. -/
theorem bookkeeping_crowdedRun :
    initial.allocations crowdedRun < room ∧ Bookkeeping crowdedRun ∧
      (initial.run crowdedRun).name? ((initial.run crowdedRun).arrayOf ⟨3⟩).1 = some "[]" ∧
      ((initial.run crowdedRun).arrayOf ⟨3⟩).1 ≠ ⟨4⟩ ∧
      (initial.run crowdedRun).find? "Object" = some ⟨5⟩ := by
  have hroom : initial.allocations crowdedRun < room := by decide
  have h := bookkeeping_run crowdedRun hroom
  have hasked : .arrayOf ⟨3⟩ ∈ crowdedRun := List.mem_cons_self
  have hsplit : crowdedRun = [.arrayOf ⟨3⟩, .register (.ofClass "Item")] ++
      .register (.ofArray ⟨3⟩ "Item") :: [.register (.ofClass "Object"), .arrayOf ⟨3⟩] := rfl
  have hfirst : .arrayOf ⟨3⟩ ∉ ([] : List Growth) := List.not_mem_nil
  refine ⟨hroom, h, h.name?_array rfl hfirst, ?_, h.find?_iff.2 (Or.inl ?_)⟩
  · exact h.array_ne_registered hsplit hasked
  · exact ⟨crowdedRun.take 3, .ofClass "Object", [.arrayOf ⟨3⟩], rfl, rfl, rfl, by simp⟩

end TypeStore
end VariableNaming
