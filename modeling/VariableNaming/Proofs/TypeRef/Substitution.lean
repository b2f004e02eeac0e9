import VariableNaming.TypeStore.ElementType

/-!
# Lists of arguments act on references

To put arguments in place of type parameters is an action: two lists of arguments, one after the
other, do what one list does, the first with the second put into it, and the list of the parameters
themselves does nothing.  A parameter for which there is no argument is lost, and no later list
brings it back.

* `substitute_congr` — only the arguments for the parameters that are mentioned matter.
* `substitute_substitute`, `substitute_params` — the two laws.
* `substitute_append_replicate` — a missing argument is as good as an unbound one.
* `substitute_action` — **all of it.**
* `mentions_substitute_iff` — the parameters that an instance mentions.
* `superRefs_substitute` — what this means for the supertypes of a reference.
-/

set_option autoImplicit false

namespace VariableNaming
namespace TypeRef

variable {as bs : List TypeRef}

/-- Only the arguments for the parameters that are mentioned matter. -/
theorem substitute_congr {r : TypeRef}
    (h : ∀ k, Mentions k r → (param k).substitute as = (param k).substitute bs) :
    r.substitute as = r.substitute bs := by
  induction r with
  | concrete t args ih =>
    have hargs : args.map (substitute as) = args.map (substitute bs) :=
      List.map_congr_left fun a ha => ih a ha fun k hk => h k (.inside ha hk)
    rw [substitute_concrete, substitute_concrete, hargs]
  | param k => exact h k .here
  | unbound => rw [substitute_unbound, substitute_unbound]

/-! ## The two laws -/

/-- **Two lists of arguments do what one does.** -/
theorem substitute_substitute (r : TypeRef) (as bs : List TypeRef) :
    (r.substitute as).substitute bs = r.substitute (as.map (substitute bs)) := by
  induction r with
  | concrete t args ih =>
    have hargs : (args.map (substitute as)).map (substitute bs) =
        args.map (substitute (as.map (substitute bs))) := by
      rw [List.map_map]
      exact List.map_congr_left ih
    rw [substitute_concrete, substitute_concrete, substitute_concrete, hargs]
  | param k =>
    -- the same parameters are lost on both sides
    cases hk : as[k]? <;> simp [hk]
  | unbound => simp

/-- **The parameters themselves do nothing**, if there are enough of them. -/
theorem substitute_params {r : TypeRef} {n : Nat} (h : ∀ k, Mentions k r → k < n) :
    r.substitute ((List.range n).map param) = r := by
  induction r with
  | concrete t args ih =>
    have hargs : args.map (substitute ((List.range n).map param)) = args :=
      (List.map_congr_left fun a ha => ih a ha fun k hk => h k (.inside ha hk)).trans
        (List.map_id args)
    rw [substitute_concrete, hargs]
  | param k =>
    have hk : k < n := h k .here
    simp [hk]
  | unbound => rw [substitute_unbound]

/-! ## Missing arguments -/

theorem substitute_param_of_length_le {k : Nat} (h : as.length ≤ k) :
    (param k).substitute as = unbound := by
  rw [substitute_param, List.getElem?_eq_none h, Option.getD_none]

/-- A missing argument is as good as an unbound one. -/
theorem substitute_append_replicate (r : TypeRef) (as : List TypeRef) (n : Nat) :
    r.substitute (as ++ List.replicate n unbound) = r.substitute as := by
  refine substitute_congr fun k _ => ?_
  rcases Nat.lt_or_ge k as.length with hk | hk
  · rw [substitute_param, substitute_param, List.getElem?_append_left hk]
  · rw [substitute_param_of_length_le hk, substitute_param, List.getElem?_append_right hk,
      List.getElem?_replicate]
    split <;> rfl

/-- **Lists of arguments act on references.**  Two of them do what the first does with the second
put into each of its items.  A parameter beyond the end of a list becomes unbound, as it does under
the list filled up with unbound arguments, and stays so under every other list.  And the list of the
first `n` parameters does nothing to a reference that mentions no other parameters. -/
theorem substitute_action (r : TypeRef) :
    (∀ as bs : List TypeRef,
      (r.substitute as).substitute bs = r.substitute (as.map (substitute bs))) ∧
    (∀ (as : List TypeRef) (k : Nat), as.length ≤ k → (param k).substitute as = unbound ∧
      ∀ bs : List TypeRef, ((param k).substitute as).substitute bs = unbound) ∧
    (∀ (as : List TypeRef) (n : Nat),
      r.substitute (as ++ List.replicate n unbound) = r.substitute as) ∧
    ∀ n : Nat, (∀ k, Mentions k r → k < n) → r.substitute ((List.range n).map param) = r := by
  refine ⟨r.substitute_substitute, fun as k hk => ?_, r.substitute_append_replicate,
    fun n => substitute_params⟩
  have hlost : (param k).substitute as = unbound := substitute_param_of_length_le hk
  refine ⟨hlost, fun bs => ?_⟩
  rw [hlost, substitute_unbound]

/-- A map whose values are lists: `Map<K, List<V>>` with the parameters 0 and 1. -/
def mapOfLists : TypeRef := .concrete ⟨3⟩ [.param 0, .concrete ⟨2⟩ [.param 1]]

/-- With one argument the element type of the lists is lost; the argument may have a parameter of
its own, which the next list replaces.  Both parameters together leave the map as it is. -/
theorem substitute_mapOfLists :
    (mapOfLists.substitute [.concrete ⟨2⟩ [.param 1]]).substitute [.unbound, .erased ⟨4⟩] =
        .concrete ⟨3⟩ [.concrete ⟨2⟩ [.erased ⟨4⟩], .concrete ⟨2⟩ [.unbound]] ∧
      (param 1).substitute [.concrete ⟨2⟩ [.param 1]] = unbound ∧
      mapOfLists.substitute [.param 0, .param 1] = mapOfLists := by
  obtain ⟨haction, hlost, -, hparams⟩ := substitute_action mapOfLists
  refine ⟨?_, (hlost _ 1 (by decide)).1, hparams 2 fun k hk => ?_⟩
  · rw [haction]
    simp [mapOfLists, erased]
  · obtain rfl | rfl : k = 0 ∨ k = 1 := by simpa [mapOfLists] using hk
    · decide
    · decide

/-! ## The parameters of an instance -/

/-- **An instance mentions what the arguments mention** that are put in place of the parameters of
the reference, and nothing else. -/
theorem mentions_substitute_iff {r : TypeRef} {k : Nat} :
    Mentions k (r.substitute as) ↔ ∃ i a, Mentions i r ∧ as[i]? = some a ∧ Mentions k a := by
  induction r with
  | concrete t args ih =>
    simp only [substitute_concrete, mentions_concrete_iff, List.mem_map]
    constructor
    · rintro ⟨_, ⟨b, hb, rfl⟩, hk⟩
      obtain ⟨i, a, hi, ha, hk⟩ := (ih b hb).1 hk
      exact ⟨i, a, ⟨b, hb, hi⟩, ha, hk⟩
    · rintro ⟨i, a, ⟨b, hb, hi⟩, ha, hk⟩
      exact ⟨_, ⟨b, hb, rfl⟩, (ih b hb).2 ⟨i, a, hi, ha, hk⟩⟩
  | param i => cases hi : as[i]? <;> simp [hi]
  | unbound => simp

/-- No arguments change a reference without parameters. -/
theorem substitute_eq_self {r : TypeRef} (h : ∀ k, ¬ Mentions k r) (as : List TypeRef) :
    r.substitute as = r :=
  (substitute_congr fun k hk => absurd hk (h k)).trans
    (substitute_params (n := 0) fun k hk => absurd hk (h k))

end TypeRef

/-! ## Supertypes -/

/-- **The supertypes of an instance are the instances of the supertypes.** -/
theorem TypeStore.superRefs_substitute (s : TypeStore) (t : TypeId) (as bs : List TypeRef) :
    s.superRefs ((TypeRef.concrete t as).substitute bs) =
      (s.superRefs (.concrete t as)).map (TypeRef.substitute bs) := by
  rw [TypeRef.substitute_concrete]
  cases hinfo : s.get? t with
  | none => simp [superRefs, hinfo]
  | some info =>
    cases hroot : info.marks.collection with
    | true => simp [superRefs, hinfo, hroot]
    | false => simp [superRefs, hinfo, hroot, TypeRef.substitute_substitute]

end VariableNaming
