import VariableNaming.TypeId

/-!
# References to types

A declaration mentions a type with arguments (`List<Product>`), without them (`List`, an erased
mention), a type parameter of the declaring type by its position, or something that is not known at
all, such as a wildcard.

* `ind` — induction over references.
* `substitute` — the reference in which every type parameter is replaced by an argument.
* `raw?`, `args` — the head of a reference and its arguments.
* `Mentions` — the type parameters that a reference mentions, at any depth.
-/

set_option autoImplicit false

namespace VariableNaming

/-- A mention of a type in a declaration. -/
inductive TypeRef where
  /-- A type with its arguments; without any it is erased. -/
  | concrete (raw : TypeId) (args : List TypeRef)
  /-- The type parameter of the declaring type at a position. -/
  | param (position : Nat)
  /-- A wildcard, or a type that cannot be told. -/
  | unbound
deriving Repr, Inhabited

namespace TypeRef

mutual

/-- Equality of references is decided part by part. -/
def decEq : (r s : TypeRef) → Decidable (r = s)
  | concrete t as, concrete u bs =>
    match (inferInstance : Decidable (t = u)), decEqAll as bs with
    | isTrue ht, isTrue has => isTrue (by rw [ht, has])
    | isFalse ht, _ => isFalse fun h => ht (concrete.inj h).1
    | _, isFalse has => isFalse fun h => has (concrete.inj h).2
  | param k, param l =>
    if h : k = l then isTrue (by rw [h]) else isFalse fun he => h (param.inj he)
  | unbound, unbound => isTrue rfl
  | concrete _ _, param _ => isFalse nofun
  | concrete _ _, unbound => isFalse nofun
  | param _, concrete _ _ => isFalse nofun
  | param _, unbound => isFalse nofun
  | unbound, concrete _ _ => isFalse nofun
  | unbound, param _ => isFalse nofun

/-- Equality of lists of references is decided item by item. -/
def decEqAll : (rs ss : List TypeRef) → Decidable (rs = ss)
  | [], [] => isTrue rfl
  | r :: rs, s :: ss =>
    match decEq r s, decEqAll rs ss with
    | isTrue h, isTrue hs => isTrue (by rw [h, hs])
    | isFalse h, _ => isFalse fun he => h (List.cons.inj he).1
    | _, isFalse hs => isFalse fun he => hs (List.cons.inj he).2
  | [], _ :: _ => isFalse nofun
  | _ :: _, [] => isFalse nofun

end

instance : DecidableEq TypeRef := decEq

/-- A mention without arguments. -/
def erased (t : TypeId) : TypeRef := concrete t []

/-- The type at the head, if there is one. -/
def raw? : TypeRef → Option TypeId
  | concrete raw _ => some raw
  | _ => none

/-- The arguments; none if the reference is not concrete. -/
def args : TypeRef → List TypeRef
  | concrete _ args => args
  | _ => []

/-- The argument at a position. -/
def arg? (r : TypeRef) (i : Nat) : Option TypeRef := r.args[i]?

/-- The type at the head; the top type if there is none. -/
def rawOrObject (r : TypeRef) : TypeId := r.raw?.getD .object

/-- The type at the head of the argument at a position; the top type if the argument is missing, a
parameter or unknown. -/
def argOrObject (r : TypeRef) (i : Nat) : TypeId := ((r.arg? i).bind raw?).getD .object

@[simp] theorem raw?_concrete (t : TypeId) (as : List TypeRef) :
    (concrete t as).raw? = some t := rfl

@[simp] theorem raw?_param (k : Nat) : (param k).raw? = none := rfl

@[simp] theorem raw?_unbound : unbound.raw? = none := rfl

@[simp] theorem args_concrete (t : TypeId) (as : List TypeRef) :
    (concrete t as).args = as := rfl

theorem raw?_eq_some_iff {r : TypeRef} {t : TypeId} :
    r.raw? = some t ↔ r = concrete t r.args := by
  cases r <;> simp [raw?, args]

/-- Induction over references: what holds of each argument may be used for a concrete reference. -/
@[elab_as_elim, induction_eliminator]
theorem ind {motive : TypeRef → Prop}
    (concrete : ∀ t as, (∀ a ∈ as, motive a) → motive (concrete t as))
    (param : ∀ k, motive (param k)) (unbound : motive unbound) : ∀ r, motive r
  | .concrete t as => concrete t as fun a _ => ind concrete param unbound a
  | .param k => param k
  | .unbound => unbound

/-! ## Substitution -/

mutual

/-- The reference with the argument at position `k` in place of parameter `k`; a parameter without
an argument becomes unbound. -/
def substitute (actual : List TypeRef) : TypeRef → TypeRef
  | concrete raw args => concrete raw (substituteAll actual args)
  | param k => actual[k]?.getD unbound
  | unbound => unbound

/-- The substitution in each reference of a list. -/
def substituteAll (actual : List TypeRef) : List TypeRef → List TypeRef
  | [] => []
  | r :: rs => substitute actual r :: substituteAll actual rs

end

@[simp] theorem substituteAll_eq_map (actual rs : List TypeRef) :
    substituteAll actual rs = rs.map (substitute actual) := by
  induction rs with
  | nil => simp [substituteAll]
  | cons r rs ih => simp [substituteAll, ih]

@[simp] theorem substitute_concrete (actual : List TypeRef) (t : TypeId) (as : List TypeRef) :
    (concrete t as).substitute actual = concrete t (as.map (substitute actual)) := by
  simp [substitute]

@[simp] theorem substitute_param (actual : List TypeRef) (k : Nat) :
    (param k).substitute actual = actual[k]?.getD unbound := by
  simp [substitute]

@[simp] theorem substitute_unbound (actual : List TypeRef) :
    unbound.substitute actual = unbound := by
  simp [substitute]

/-! ## The parameters of a reference -/

/-- The reference mentions the parameter at position `k`, at any depth. -/
inductive Mentions (k : Nat) : TypeRef → Prop
  | here : Mentions k (param k)
  | inside {raw : TypeId} {args : List TypeRef} {r : TypeRef} (mem : r ∈ args)
      (mentions : Mentions k r) : Mentions k (concrete raw args)

@[simp] theorem mentions_concrete_iff {k : Nat} {t : TypeId} {as : List TypeRef} :
    Mentions k (concrete t as) ↔ ∃ a ∈ as, Mentions k a := by
  constructor
  · rintro (_ | ⟨ha, hk⟩)
    exact ⟨_, ha, hk⟩
  · rintro ⟨a, ha, hk⟩
    exact .inside ha hk

@[simp] theorem mentions_param_iff {k l : Nat} : Mentions k (param l) ↔ k = l := by
  constructor
  · rintro ⟨⟩
    rfl
  · rintro rfl
    exact .here

@[simp] theorem not_mentions_unbound (k : Nat) : ¬ Mentions k unbound := nofun

end TypeRef
end VariableNaming
