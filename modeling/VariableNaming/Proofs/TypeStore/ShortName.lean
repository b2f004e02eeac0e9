import VariableNaming.Proofs.Text.LastPart
import VariableNaming.Proofs.TypeStore.ArrayChain
import VariableNaming.Proofs.TypeStore.Growth

/-!
# Short names at any depth

The names of an array type are those of the type at the end of its chain, with a pair of brackets
for each array on the way.  Nothing but the end of the chain stops the recursion of `shortName?` on
components.  Where no chain runs in a circle it always ends, and how many calls it makes is told by
the number of arrays.

* `shortNameWithin?` — the recursion, if it takes no more than so many calls.
* `ArrayChain.shortNameWithin?_eq` — it makes one call for each array on the chain and one for the
  end.  `shortName?_eq_some_iff`: the short name is what some number of calls gives.
* `names_of_noArrayCircle` — both names of a type, told by the qualified name at the end of its
  chain.
-/

set_option autoImplicit false

namespace VariableNaming
namespace TypeStore

open QualifiedName

variable {s : TypeStore} {t : TypeId} {a : ArrayShape}

/-! ## The calls of the recursion -/

/-- The short name by recursion on the components, if it takes no more than so many calls. -/
def shortNameWithin? (s : TypeStore) : Nat → TypeId → Option String
  | 0, _ => none
  | calls + 1, t =>
    match s.component? t with
    | none => some (dotted (s.simpleName t))
    | some c => (s.shortNameWithin? calls c).map (· ++ arrayEnding)

theorem ArrayChain.shortNameWithin?_eq (h : s.ArrayChain t a) (calls : Nat) :
    s.shortNameWithin? calls t = if a.depth < calls then s.shortName? t else none := by
  induction h generalizing calls with
  | base h =>
    cases calls with
    | zero => rfl
    | succ calls =>
      rw [shortNameWithin?, h, if_pos (Nat.succ_pos calls), shortName?_of_component?_eq_none h]
  | wrap h chain ih =>
    cases calls with
    | zero => rfl
    | succ calls =>
      simp only [shortNameWithin?, h, ih calls, shortName?_of_component? h, depth_wrap,
        Nat.add_lt_add_iff_right]
      split <;> rfl

/-- **The short name is what the recursion gives with calls enough**, and there is none if no number
of calls is enough. -/
theorem shortName?_eq_some_iff {name : String} :
    s.shortName? t = some name ↔ ∃ calls, s.shortNameWithin? calls t = some name := by
  constructor
  · intro h
    obtain ⟨a, chain⟩ := isSome_shortName?_iff.1 (Option.isSome_iff_exists.2 ⟨name, h⟩)
    refine ⟨a.depth + 1, ?_⟩
    rw [chain.shortNameWithin?_eq, if_pos (Nat.lt_succ_self _), h]
  · rintro ⟨calls, h⟩
    induction calls generalizing t name with
    | zero => cases h
    | succ calls ih =>
      rw [shortNameWithin?] at h
      split at h
      · rename_i hc
        rw [shortName?_of_component?_eq_none hc, h]
      · rename_i c hc
        obtain ⟨inner, hinner, rfl⟩ := Option.map_eq_some_iff.1 h
        rw [shortName?_of_component? hc, ih hinner, Option.map_some]

/-! ## Names told by a qualified name -/

/-- **The names of a type without circles of arrays.**  The chain from the type comes to an end, and
the recursion along it ends, with one call more than there are arrays.  The short name is what
stands behind the last dot in the qualified name at the end of the chain, with dots for dollar
signs; the name of a variable is what stands there behind the last dot or dollar sign,
decapitalized; and both have a pair of brackets for each array.  What is not known has the empty
name. -/
theorem names_of_noArrayCircle (h : s.NoArrayCircle) (t : TypeId) :
    (∃ (b : TypeId) (k : Nat), s.ArrayChain t ⟨b, k⟩) ∧
    ∀ (b : TypeId) (k : Nat), s.ArrayChain t ⟨b, k⟩ →
      (∀ calls, s.shortNameWithin? calls t = if k < calls then s.shortName? t else none) ∧
      (s.contains b = false → s.qualifiedName b = "") ∧
      ∃ outer inner : List Char,
        Text.IsLastPart (· = '.') (s.qualifiedName b).toList outer ∧
        Text.IsLastPart (fun c => c = '.' ∨ c = '$') (s.qualifiedName b).toList inner ∧
        s.shortName? t = some (String.ofList (outer.map fun c => if c = '$' then '.' else c) ++
          String.join (List.replicate k "[]")) ∧
        s.variableName? t = some (Identifier.decapitalize (String.ofList inner) ++
          String.join (List.replicate k "[]")) := by
  constructor
  · obtain ⟨a, chain⟩ := h.exists_chain t
    exact ⟨a.base, a.depth, chain⟩
  · intro b k chain
    let outer := Text.lastSegment packageSeparator (s.qualifiedName b).toList
    have houter : Text.IsLastPart (· = '.') (s.qualifiedName b).toList outer :=
      Text.isLastPart_lastSegment _ _
    have hinner : Text.IsLastPart (· = '$') outer (Text.lastSegment nestingSeparator outer) :=
      Text.isLastPart_lastSegment _ _
    refine ⟨chain.shortNameWithin?_eq, qualifiedName_of_contains_eq_false, outer, _, houter,
      houter.trans hinner, ?_, ?_⟩
    · rw [chain.shortName?_eq, simpleName_eq, dotted, toList_simple]
      rfl
    · have hbase : s.component? b = none := by
        cases chain.chain_base with
        | base hb => exact hb
      have hcut : simple (dotted (simple (s.qualifiedName b))) =
          String.ofList (Text.lastSegment nestingSeparator outer) := by
        rw [simple, toList_dotted, toList_simple,
          Text.lastSegment_replaceChar (Text.not_mem_lastSegment _ _)]
      rw [chain.variableName?_eq, variableName?_of_component?_eq_none hbase, simpleName_eq, hcut]
      rfl

/-- The arrays of arrays of a nested class, where the inner array type was registered before the
class. -/
def gridStore : TypeStore :=
  initial.run [
    .register (.ofArray ⟨3⟩ "com.app.Outer$Item"),
    .register (.ofClass "com.app.Outer$Item"),
    .arrayOf ⟨2⟩]

/-- The types of a grid have no circle, although one of them names a later one. -/
theorem noArrayCircle_gridStore : gridStore.NoArrayCircle :=
  noArrayCircle_of_rank (fun t => if t = ⟨4⟩ then 2 else if t = ⟨2⟩ then 1 else 0) (by decide)

/-- Both names of a grid. -/
theorem names_gridStore :
    gridStore.NoArrayCircle ∧ gridStore.ArrayChain ⟨4⟩ ⟨⟨3⟩, 2⟩ ∧
      gridStore.shortNameWithin? 3 ⟨4⟩ = some "Outer.Item[][]" ∧
      gridStore.shortName? ⟨4⟩ = some "Outer.Item[][]" ∧
      gridStore.variableName? ⟨4⟩ = some "item[][]" := by
  have chain : gridStore.ArrayChain ⟨4⟩ ⟨⟨3⟩, 2⟩ :=
    .wrap (c := ⟨2⟩) (by decide) (.wrap (c := ⟨3⟩) (by decide) (.base (by decide)))
  obtain ⟨hcalls, -, outer, inner, houter, hinner, hshort, hvariable⟩ :=
    (names_of_noArrayCircle noArrayCircle_gridStore ⟨4⟩).2 ⟨3⟩ 2 chain
  have hname : (gridStore.qualifiedName ⟨3⟩).toList = "com.app.Outer$Item".toList := by decide
  rw [hname] at houter hinner
  obtain rfl := houter.unique (Text.isLastPart_lastSegment '.' _)
  obtain rfl := hinner.unique
    ((Text.isLastPart_lastSegment '.' _).trans (Text.isLastPart_lastSegment '$' _))
  have hshort' : gridStore.shortName? ⟨4⟩ = some "Outer.Item[][]" := by
    rw [hshort]
    decide
  refine ⟨noArrayCircle_gridStore, chain, ?_, hshort', ?_⟩
  · rw [hcalls, if_pos (by decide), hshort']
  · rw [hvariable]
    decide +kernel

end TypeStore
end VariableNaming
