import Mathlib.Data.List.Basic
import VariableNaming.TypeStore.Basic

/-!
# How a store of types grows

A store starts with the top type and grows by registered types and by array types.  Each of them
takes the next id, except that an array type which is there already takes none.

* `Growth`, `grow`, `run` — one way to grow, and a whole run of them.
* `allocations` — how many ids a run takes.
* `Numbered` — after so many ids, as long as there are enough of them: which ids are known, and what
  is known of the array types.  `Numbered.grow` says that one step keeps it, and `numbered_run` that
  every run does.
-/

set_option autoImplicit false

namespace VariableNaming
namespace TypeStore

/-! ## Runs -/

/-- The ways for a store to grow. -/
inductive Growth where
  | register (info : TypeInfo)
  | arrayOf (component : TypeId)

/-- The store after one of them. -/
def grow (s : TypeStore) : Growth → TypeStore
  | .register info => (s.register info).2
  | .arrayOf c => (s.arrayOf c).2

/-- The store after all of them. -/
def run (s : TypeStore) (gs : List Growth) : TypeStore := gs.foldl grow s

/-- How many ids one of them takes. -/
def allocates (s : TypeStore) : Growth → Nat
  | .register _ => 1
  | .arrayOf c => if s.arrays[c]? = none then 1 else 0

/-- How many ids all of them take. -/
def allocations (s : TypeStore) : List Growth → Nat
  | [] => 0
  | g :: gs => s.allocates g + (s.grow g).allocations gs

/-- How many ids there are for the types that a store grows by. -/
def room : Nat := UInt32.size - 2

variable {s : TypeStore} {n : Nat}

/-! ## What has been numbered -/

/-- What is true of a store that has taken `n` ids, none of them for the second time. -/
structure Numbered (n : Nat) (s : TypeStore) : Prop where
  toNat_next : s.next.index.toNat = n + 2
  isSome_get?_iff {t : TypeId} :
    (s.get? t).isSome ↔ 0 < t.index.toNat ∧ t.index.toNat < s.next.index.toNat
  get?_object : s.get? .object = some .object
  get?_array {c a : TypeId} (h : s.arrays[c]? = some a) : ∃ name,
    s.get? a = some (.ofArray c name) ∧ (name = "" ∨ s.name? c = some name)

theorem eq_iff_toNat_eq {t u : TypeId} : t = u ↔ t.index.toNat = u.index.toNat := by
  cases t
  cases u
  simp [UInt32.toNat_inj]

theorem get?_initial (t : TypeId) :
    initial.get? t = if t = .object then some .object else none := by
  simp [initial, get?, Std.TreeMap.getElem?_insert, @eq_comm _ t]

theorem numbered_initial : initial.Numbered 0 where
  toNat_next := rfl
  isSome_get?_iff {t} := by
    have hobject : t = .object ↔ t.index.toNat = 1 := eq_iff_toNat_eq
    have hnext : initial.next.index.toNat = 2 := rfl
    rw [get?_initial, hnext]
    by_cases ht : t = .object
    · rw [if_pos ht, Option.isSome_some]
      have := hobject.1 ht
      simp only [true_iff]
      omega
    · rw [if_neg ht, Option.isSome_none]
      have := mt hobject.2 ht
      simp only [Bool.false_eq_true, false_iff]
      omega
  get?_object := rfl
  get?_array h := by simp [initial] at h

/-- The next id is free. -/
theorem Numbered.get?_next (h : s.Numbered n) : s.get? s.next = none := by
  rw [← Option.not_isSome_iff_eq_none, h.isSome_get?_iff]
  omega

theorem Numbered.ne_next (h : s.Numbered n) {t : TypeId} {info : TypeInfo}
    (ht : s.get? t = some info) : t ≠ s.next := by
  rintro rfl
  rw [h.get?_next] at ht
  cases ht

/-- What is known does not change. -/
theorem Numbered.get?_grow (h : s.Numbered n) {t : TypeId} {info : TypeInfo}
    (ht : s.get? t = some info) (g : Growth) : (s.grow g).get? t = some info := by
  have hne := h.ne_next ht
  cases g with
  | register i =>
    show (s.register i).2.get? t = some info
    rw [get?_register, if_neg hne, ht]
  | arrayOf c =>
    show (s.arrayOf c).2.get? t = some info
    cases hc : s.arrays[c]? with
    | none => rw [get?_arrayOf_of_none hc, if_neg hne, ht]
    | some a => rw [arrayOf_of_some hc, ht]

theorem Numbered.name?_grow (h : s.Numbered n) {t : TypeId} {name : String}
    (ht : s.name? t = some name) (g : Growth) : (s.grow g).name? t = some name := by
  obtain ⟨info, hinfo, rfl⟩ := Option.map_eq_some_iff.1 ht
  exact Option.map_eq_some_iff.2 ⟨info, h.get?_grow hinfo g, rfl⟩

/-- The array types that were there are still there. -/
theorem Numbered.get?_array_grow (h : s.Numbered n) {c a : TypeId} (ha : s.arrays[c]? = some a)
    (g : Growth) : ∃ name, (s.grow g).get? a = some (.ofArray c name) ∧
      (name = "" ∨ (s.grow g).name? c = some name) := by
  obtain ⟨name, hinfo, hname⟩ := h.get?_array ha
  exact ⟨name, h.get?_grow hinfo g, hname.imp_right fun hname => h.name?_grow hname g⟩

/-- A description under the next id leaves no other id free or taken than before. -/
theorem Numbered.isSome_get?_of_insert (h : s.Numbered n) (hroom : n + 1 < room) {s' : TypeStore}
    (hnext : s'.next = s.next.succ) {info : TypeInfo}
    (hget : ∀ t, s'.get? t = if t = s.next then some info else s.get? t) :
    s'.next.index.toNat = n + 1 + 2 ∧
      (∀ t, (s'.get? t).isSome ↔ 0 < t.index.toNat ∧ t.index.toNat < s'.next.index.toNat) := by
  have htoNat : s'.next.index.toNat = n + 1 + 2 := by
    have hlast := h.toNat_next
    rw [hnext, TypeId.succ, UInt32.toNat_add, hlast]
    rw [room, UInt32.size] at hroom
    show (n + 2 + 1) % 2 ^ 32 = n + 1 + 2
    omega
  refine ⟨htoNat, fun t => ?_⟩
  have hlast := h.toNat_next
  have heq : t = s.next ↔ t.index.toNat = s.next.index.toNat := eq_iff_toNat_eq
  rw [hget t, htoNat]
  by_cases ht : t = s.next
  · have := heq.1 ht
    simp only [if_pos ht, Option.isSome_some, true_iff]
    omega
  · have := mt heq.2 ht
    rw [if_neg ht, h.isSome_get?_iff]
    omega

/-- **One step numbers one type more, or none.** -/
theorem Numbered.grow (h : s.Numbered n) (g : Growth) (hroom : n + s.allocates g < room) :
    (s.grow g).Numbered (n + s.allocates g) := by
  cases g with
  | register info =>
    obtain ⟨hnext, hsome⟩ := h.isSome_get?_of_insert hroom rfl (get?_register s info)
    exact
      { toNat_next := hnext
        isSome_get?_iff := hsome _
        get?_object := h.get?_grow h.get?_object _
        get?_array := fun ha => h.get?_array_grow ha (.register info) }
  | arrayOf c =>
    cases hc : s.arrays[c]? with
    | some a =>
      have hnone : s.allocates (.arrayOf c) = 0 := by simp [allocates, hc]
      show (s.arrayOf c).2.Numbered _
      rw [hnone, arrayOf_of_some hc]
      exact h
    | none =>
      have hone : s.allocates (.arrayOf c) = 1 := by simp [allocates, hc]
      rw [hone] at hroom ⊢
      have hnext : (s.arrayOf c).2.next = s.next.succ := by simp [TypeStore.arrayOf, hc]
      obtain ⟨htoNat, hsome⟩ := h.isSome_get?_of_insert hroom hnext (get?_arrayOf_of_none hc)
      refine ⟨htoNat, hsome _, h.get?_grow h.get?_object _, fun {d a} ha => ?_⟩
      rw [TypeStore.grow, arrays_arrayOf] at ha
      split at ha
      · -- the new array type: it is called after what its component is called now
        rename_i hd
        obtain rfl : s.next = a := by simpa [fst_arrayOf_of_none hc] using ha
        refine ⟨s.qualifiedName c, ?_, ?_⟩
        · rw [TypeStore.grow, get?_arrayOf_of_none hc, if_pos rfl, hd]
        · cases hname : s.name? c with
          | none =>
            rw [qualifiedName, hname]
            exact Or.inl rfl
          | some name =>
            rw [hd, qualifiedName, hname]
            exact Or.inr (h.name?_grow hname (.arrayOf c))
      · exact h.get?_array_grow ha (.arrayOf c)

/-- **A run numbers as many types as it takes ids.** -/
theorem Numbered.run (h : s.Numbered n) (gs : List Growth) (hroom : n + s.allocations gs < room) :
    (s.run gs).Numbered (n + s.allocations gs) := by
  induction gs generalizing s n with
  | nil => exact h
  | cons g gs ih =>
    rw [allocations, ← Nat.add_assoc] at hroom ⊢
    exact ih (h.grow g (by omega)) hroom

theorem numbered_run (gs : List Growth) (hroom : initial.allocations gs < room) :
    (initial.run gs).Numbered (initial.allocations gs) := by
  simpa using numbered_initial.run gs (by simpa using hroom)

end TypeStore
end VariableNaming
