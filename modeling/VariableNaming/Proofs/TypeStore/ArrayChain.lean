import Mathlib.Logic.Relation
import VariableNaming.TypeStore.ShortName

/-!
# The components of array types

From an array type a chain leads to its component, to the component of that, and so on.  It ends at
a type that is no array, unless it runs in a circle.

* `ArrayChain` — the chain from a type, with the type at its end and the number of arrays on it.
* `NoArrayCircle` — no chain runs in a circle; then every chain ends.  It is so where every array
  was put in after its component.
* `ArrayChain.shortName?_eq`, `ArrayChain.variableName?_eq` — the names of a type are those of the
  type at the end of the chain and a pair of brackets for each array.
* `isSome_shortName?_iff` — there are names just where the chain ends.
* `noArrayCircle_iff_forall_isSome_shortName?` — every type has a name just if there is no circle.
-/

set_option autoImplicit false

namespace VariableNaming

/-- A type that is no array, with a number of arrays around it. -/
structure ArrayShape where
  base : TypeId
  depth : Nat
deriving DecidableEq, Repr

/-- The shape with one array more around it. -/
def ArrayShape.wrap (a : ArrayShape) : ArrayShape := ⟨a.base, a.depth + 1⟩

namespace TypeStore

/-- The chain of components from a type ends, and has this shape. -/
inductive ArrayChain (s : TypeStore) : TypeId → ArrayShape → Prop
  | base {t : TypeId} (h : s.component? t = none) : ArrayChain s t ⟨t, 0⟩
  | wrap {t c : TypeId} {a : ArrayShape} (h : s.component? t = some c) (chain : ArrayChain s c a) :
      ArrayChain s t a.wrap

/-- No type is among its own components, at any depth. -/
def NoArrayCircle (s : TypeStore) : Prop :=
  ∀ t, ¬ Relation.TransGen (fun u c => s.component? u = some c) t t

variable {s : TypeStore} {t : TypeId} {a : ArrayShape}

@[simp] theorem depth_wrap (a : ArrayShape) : a.wrap.depth = a.depth + 1 := rfl

@[simp] theorem base_wrap (a : ArrayShape) : a.wrap.base = a.base := rfl

/-- The chain from an array type goes on with the chain from its component. -/
theorem ArrayChain.exists_of_component? {c : TypeId} (h : s.ArrayChain t a)
    (hc : s.component? t = some c) : ∃ b, s.ArrayChain c b ∧ b.wrap = a := by
  cases h with
  | base hnone => cases hnone.symm.trans hc
  | wrap hc' chain =>
    obtain rfl := Option.some.inj (hc'.symm.trans hc)
    exact ⟨_, chain, rfl⟩

theorem ArrayChain.unique {b : ArrayShape} (ha : s.ArrayChain t a) (hb : s.ArrayChain t b) :
    a = b := by
  induction ha generalizing b with
  | base h =>
    cases hb with
    | base _ => rfl
    | wrap h' _ => cases h.symm.trans h'
  | wrap h _ ih =>
    obtain ⟨b, chain, rfl⟩ := hb.exists_of_component? h
    rw [ih chain]

/-- Further down a chain fewer arrays are left. -/
theorem ArrayChain.exists_shorter {c : TypeId} (h : s.ArrayChain t a)
    (hc : Relation.TransGen (fun u c => s.component? u = some c) t c) :
    ∃ b, s.ArrayChain c b ∧ b.depth < a.depth := by
  induction hc with
  | single hc =>
    obtain ⟨b, chain, rfl⟩ := h.exists_of_component? hc
    exact ⟨b, chain, Nat.lt_succ_self _⟩
  | tail _ hc ih =>
    obtain ⟨b, chain, hlt⟩ := ih
    obtain ⟨b', chain', rfl⟩ := chain.exists_of_component? hc
    exact ⟨b', chain', Nat.lt_of_succ_lt hlt⟩

/-- A chain that ends does not start in a circle. -/
theorem ArrayChain.not_transGen_self (h : s.ArrayChain t a) :
    ¬ Relation.TransGen (fun u c => s.component? u = some c) t t := by
  intro hcircle
  obtain ⟨b, chain, hlt⟩ := h.exists_shorter hcircle
  obtain rfl := h.unique chain
  exact Nat.lt_irrefl _ hlt

theorem mem_known_of_component?_eq_some {c : TypeId} (h : s.component? t = some c) :
    t ∈ s.known := by
  rw [mem_known]
  cases ht : s.get? t with
  | none => simp [component?, ht] at h
  | some info => rfl

/-- A chain that has come by the types in `seen` ends, because each of them is known and none comes
twice. -/
theorem NoArrayCircle.exists_chain_of_seen (h : s.NoArrayCircle) (seen : List TypeId) (t : TypeId)
    (hseen : ∀ u ∈ seen, Relation.TransGen (fun u c => s.component? u = some c) u t) :
    ∃ a, s.ArrayChain t a := by
  cases hc : s.component? t with
  | none => exact ⟨_, .base hc⟩
  | some c =>
    have hlt : s.hierarchy.unseen (t :: seen) < s.hierarchy.unseen seen :=
      s.hierarchy.unseen_lt (List.subset_cons_self t seen) (mem_known_of_component?_eq_some hc)
        (fun ht => h t (hseen t ht)) List.mem_cons_self
    obtain ⟨a, chain⟩ := h.exists_chain_of_seen (t :: seen) c fun u hu => by
      rcases List.mem_cons.1 hu with rfl | hu
      · exact .single hc
      · exact (hseen u hu).tail hc
    exact ⟨_, .wrap hc chain⟩
termination_by s.hierarchy.unseen seen

/-- Without circles every chain ends. -/
theorem NoArrayCircle.exists_chain (h : s.NoArrayCircle) (t : TypeId) : ∃ a, s.ArrayChain t a :=
  h.exists_chain_of_seen [] t (by simp)

/-- Nothing runs in a circle where every array type has a higher rank than its component. -/
theorem noArrayCircle_of_rank (rank : TypeId → Nat)
    (h : ∀ t ∈ s.known, ∀ c ∈ s.component? t, rank c < rank t) : s.NoArrayCircle := by
  have hstep : ∀ t c, s.component? t = some c → rank c < rank t := by
    intro t c hc
    exact h t (mem_known_of_component?_eq_some hc) c hc
  have hchain : ∀ t c, Relation.TransGen (fun u c => s.component? u = some c) t c →
      rank c < rank t := by
    intro t c hc
    induction hc with
    | single hc => exact hstep _ _ hc
    | tail _ hc ih => exact Nat.lt_trans (hstep _ _ hc) ih
  intro t ht
  exact Nat.lt_irrefl _ (hchain t t ht)

/-- Nothing runs in a circle where every array was put in after its component. -/
theorem noArrayCircle_of_lt
    (h : ∀ t ∈ s.known, ∀ c ∈ s.component? t, c.index.toNat < t.index.toNat) :
    s.NoArrayCircle :=
  noArrayCircle_of_rank (·.index.toNat) h

/-- A chain is the same in another store that knows the same components on it. -/
theorem ArrayChain.congr {s' : TypeStore} (h : s.ArrayChain t a)
    (hagree : ∀ u b, s.ArrayChain u b → b.depth ≤ a.depth → s'.component? u = s.component? u) :
    s'.ArrayChain t a := by
  induction h with
  | base h => exact .base ((hagree _ _ (.base h) (Nat.le_refl _)).trans h)
  | wrap h chain ih =>
    refine .wrap ((hagree _ _ (.wrap h chain) (Nat.le_refl _)).trans h) (ih fun u b hb hle => ?_)
    exact hagree u b hb (Nat.le_succ_of_le hle)

/-- The end of a chain is no array. -/
theorem ArrayChain.chain_base (h : s.ArrayChain t a) : s.ArrayChain a.base ⟨a.base, 0⟩ := by
  induction h with
  | base h => exact .base h
  | wrap _ _ ih => exact ih

/-! ## The names of array types -/

/-- The endings of so many arrays. -/
def arrayEndings (depth : Nat) : String :=
  String.join (List.replicate depth QualifiedName.arrayEnding)

theorem arrayEndings_succ (depth : Nat) :
    arrayEndings (depth + 1) = arrayEndings depth ++ QualifiedName.arrayEnding := by
  simp [arrayEndings, List.replicate_succ', String.join_append]

/-- Where the chain ends, the recursion on components ends. -/
theorem ArrayChain.shortName?_eq (h : s.ArrayChain t a) :
    s.shortName? t =
      some (QualifiedName.dotted (s.simpleName a.base) ++ arrayEndings a.depth) := by
  induction h with
  | base h =>
    rw [shortName?_of_component?_eq_none h]
    exact congrArg some String.append_empty.symm
  | wrap h _ ih =>
    rw [shortName?_of_component? h, ih, Option.map_some, base_wrap, depth_wrap, arrayEndings_succ,
      String.append_assoc]

/-- **There is a short name just where the chain ends.** -/
theorem isSome_shortName?_iff : (s.shortName? t).isSome ↔ ∃ a, s.ArrayChain t a := by
  constructor
  · intro h
    obtain ⟨name, hname⟩ := Option.isSome_iff_exists.1 h
    refine shortName?_induct s (motive := fun t _ => ∃ a, s.ArrayChain t a)
      (fun t hc => ⟨_, .base hc⟩) (fun t c name hc => ?_) hname
    rintro ⟨a, chain⟩
    exact ⟨_, .wrap hc chain⟩
  · rintro ⟨a, chain⟩
    rw [chain.shortName?_eq]
    rfl

/-- In a circle there are no names. -/
theorem shortName?_eq_none_of_circle
    (h : Relation.TransGen (fun u c => s.component? u = some c) t t) : s.shortName? t = none := by
  rw [← Option.not_isSome_iff_eq_none, isSome_shortName?_iff]
  rintro ⟨a, chain⟩
  exact chain.not_transGen_self h

/-- **Every type has a short name just if no chain runs in a circle.** -/
theorem noArrayCircle_iff_forall_isSome_shortName? :
    s.NoArrayCircle ↔ ∀ t, (s.shortName? t).isSome := by
  constructor
  · exact fun h t => isSome_shortName?_iff.2 (h.exists_chain t)
  · intro h t hcircle
    have hname := h t
    rw [shortName?_eq_none_of_circle hcircle] at hname
    cases hname

@[simp] theorem isSome_variableName?_iff :
    (s.variableName? t).isSome ↔ (s.shortName? t).isSome := by
  rw [variableName?, Option.isSome_map]

theorem ArrayChain.exists_variableName? (h : s.ArrayChain t a) :
    ∃ name, s.variableName? t = some name :=
  Option.isSome_iff_exists.1 (isSome_variableName?_iff.2 (isSome_shortName?_iff.2 ⟨a, h⟩))

theorem NoArrayCircle.exists_shortName? (h : s.NoArrayCircle) (t : TypeId) :
    ∃ name, s.shortName? t = some name :=
  Option.isSome_iff_exists.1 (noArrayCircle_iff_forall_isSome_shortName?.1 h t)

theorem NoArrayCircle.exists_variableName? (h : s.NoArrayCircle) (t : TypeId) :
    ∃ name, s.variableName? t = some name := by
  obtain ⟨a, chain⟩ := h.exists_chain t
  exact chain.exists_variableName?

theorem NoArrayCircle.exists_wrappedName? (h : s.NoArrayCircle) (element wrapper : TypeId) :
    ∃ name, s.wrappedName? element wrapper = some name := by
  obtain ⟨inner, hinner⟩ := h.exists_variableName? element
  obtain ⟨outer, houter⟩ := h.exists_shortName? wrapper
  exact ⟨inner ++ outer, wrappedName?_eq_some_iff.2 ⟨inner, outer, hinner, houter, rfl⟩⟩

/-- Brackets do not change which segment of a name is the last. -/
theorem simple_append_arrayEnding (name : String) :
    QualifiedName.simple (name ++ QualifiedName.arrayEnding) =
      QualifiedName.simple name ++ QualifiedName.arrayEnding := by
  have hsep : QualifiedName.packageSeparator ∉ QualifiedName.arrayEnding.toList := by decide
  rw [← String.toList_inj]
  simp [Text.lastSegment_append_of_notMem hsep]

/-- Brackets do not change which letter becomes small. -/
theorem decapitalize_append_arrayEnding (name : String) :
    Identifier.decapitalize (name ++ QualifiedName.arrayEnding) =
      Identifier.decapitalize name ++ QualifiedName.arrayEnding := by
  have hbrackets : QualifiedName.arrayEnding.toList = ['[', ']'] := by decide
  have hupper : Letter.isUppercase '[' = false := by decide
  have hlower : Letter.lowerForm '[' = '[' := by decide
  rw [← String.toList_inj, String.toList_append, Identifier.toList_decapitalize,
    Identifier.toList_decapitalize, String.toList_append, hbrackets]
  match name.toList with
  | [] => simp [Identifier.decapitalizeChars, hupper, hlower]
  | [c] => simp [Identifier.decapitalizeChars, hupper]
  | c :: d :: cs =>
    simp only [Identifier.decapitalizeChars, List.cons_append]
    split <;> simp

/-- The name for an array type is the one for its component, with brackets. -/
theorem variableName?_of_component? {c : TypeId} (h : s.component? t = some c) :
    s.variableName? t = (s.variableName? c).map (· ++ QualifiedName.arrayEnding) := by
  rw [variableName?, variableName?, shortName?_of_component? h, Option.map_map, Option.map_map]
  refine congrArg (Option.map · (s.shortName? c)) (funext fun name => ?_)
  rw [Function.comp_apply, Function.comp_apply, simple_append_arrayEnding,
    decapitalize_append_arrayEnding]

theorem ArrayChain.variableName?_eq (h : s.ArrayChain t a) :
    s.variableName? t = (s.variableName? a.base).map (· ++ arrayEndings a.depth) := by
  induction h with
  | @base t h =>
    obtain ⟨name, hname⟩ := (ArrayChain.base h).exists_variableName?
    rw [hname]
    exact congrArg some String.append_empty.symm
  | @wrap t c a h chain ih =>
    obtain ⟨name, hname⟩ := chain.chain_base.exists_variableName?
    rw [variableName?_of_component? h, ih, base_wrap, hname, Option.map_some, Option.map_some,
      Option.map_some, depth_wrap, arrayEndings_succ, String.append_assoc]

end TypeStore
end VariableNaming
