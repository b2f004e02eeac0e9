import VariableNaming.Proofs.Derivation.Declaration

/-!
# When there is no name

A question is answered with a name or with an error, and which of them it is can be told without the
search for the name.  The conditions are written down here as relations that say what is wrong with
a question, with the number of the diagnostic, and the answers are shown to be errors under just
these conditions.  No adapter has a part in them.

* `Refuses` — an answer that is an error with a route, a subject and a number.
* `Container.Withholds`, `Value.Unnameable`, `Uninformative`, `TypeStore.Untyped` — what can be
  wrong with a container, with a value, with a value next to a declaration, and with a declaration.
* `Inquiry.Unanswerable` — what can be wrong with a question.
* `refuses_ofValue_iff`, `refuses_ofDeclaration_iff` — the two derivations.
* `refuses_answer_iff` — **the answer is an error just when the question is unanswerable.**
-/

set_option autoImplicit false

namespace VariableNaming

/-! ## Errors as answers -/

/-- The answer is an error that says this about its route, its subject and its number. -/
def Refuses {α : Type} (x : Except NamingError α) (route : Route) (subject : String)
    (code : Nat) : Prop :=
  ∃ d : Diagnostic, x = .error ⟨route, subject, d⟩ ∧ d.code = code

section Refuses

variable {α β : Type} {route : Route} {subject : String} {code : Nat}

@[simp] theorem refuses_error_iff {e : NamingError} :
    Refuses (.error e : Except NamingError α) route subject code ↔
      e.route = route ∧ e.subject = subject ∧ e.diagnostic.code = code := by
  constructor
  · rintro ⟨d, h, hcode⟩
    cases h
    exact ⟨rfl, rfl, hcode⟩
  · rintro ⟨rfl, rfl, rfl⟩
    exact ⟨e.diagnostic, rfl, rfl⟩

@[simp] theorem not_refuses_ok {a : α} :
    ¬ Refuses (.ok a : Except NamingError α) route subject code := by
  rintro ⟨d, h, -⟩
  cases h

@[simp] theorem refuses_map_iff {f : α → β} {x : Except NamingError α} :
    Refuses (x.map f) route subject code ↔ Refuses x route subject code := by
  simp only [Refuses, map_eq_error_iff]

end Refuses

/-! ## What can be wrong -/

/-- A container that does not show its first element: it reports none, which has a number of its own
in each place, or it reports elements and has nothing, or the null value, where the first should
be. -/
inductive Container.Withholds (whenEmpty : Nat) : Container Value → Nat → Prop
  | reportsEmpty (items : List Value) : Withholds whenEmpty ⟨true, items⟩ whenEmpty
  | nothing : Withholds whenEmpty ⟨false, []⟩ 2001
  | null (rest : List Value) : Withholds whenEmpty ⟨false, .null :: rest⟩ 2002

/-- A value that cannot be called after anything. -/
inductive Value.Unnameable (s : TypeStore) : Value → String → Nat → Prop
  | null : Unnameable s .null "null" 1001
  | collection (t : TypeId) {c : Container Value} {code : Nat} (h : c.Withholds 1002 code) :
      Unnameable s (.collection t c) (s.qualifiedName t) code

/-- A value, or none, from which the elements of a collection cannot be told. -/
inductive Uninformative : Option Value → Nat → Prop
  | other {v : Option Value} (h : v.bind Value.container? = none) : Uninformative v 1004
  | collection (t : TypeId) {c : Container Value} {code : Nat} (h : c.Withholds 1005 code) :
      Uninformative (some (.collection t c)) code

/-- A declared type that is like a collection, is no array and does not tell its elements. -/
structure TypeStore.Untyped (s : TypeStore) (resolved : TypeId) (declared : TypeRef) : Prop where
  component?_eq_none : s.component? resolved = none
  isCollectionLike : s.isCollectionLike resolved = true
  elementType?_eq_none : s.elementType? declared = none

/-- A question that cannot be answered, with the route, the subject and the number of the error.
The null value is as good as none in what a method returns; any other value is called by itself if
the return type is the top type, and has to tell the elements of an untyped collection. -/
inductive Inquiry.Unanswerable (s : TypeStore) : Inquiry → Route → String → Nat → Prop
  | value {v : Value} {subject : String} {code : Nat} (h : v.Unnameable s subject code) :
      Unanswerable s (.value v) .value subject code
  | parameter {p : Parameter} (h : s.Untyped p.rawType p.declared) :
      Unanswerable s (.parameter p) .parameter (p.method.name ++ "#" ++ p.index.repr) 1003
  | nothingReturned {m : Method} {v : Option Value} (h : v = none ∨ v = some .null) :
      Unanswerable s (.returned m .object v) .returnType m.name 1006
  | valueReturned {m : Method} {v : Value} {subject : String} {code : Nat} (hnull : v ≠ .null)
      (h : v.Unnameable s subject code) :
      Unanswerable s (.returned m .object (some v)) .value subject code
  | returned {m : Method} {resolved : TypeId} {v : Option Value} {code : Nat}
      (hobject : resolved ≠ .object) (h : s.Untyped resolved (m.declarationOf resolved))
      (hv : Uninformative v code) :
      Unanswerable s (.returned m resolved v) .returnType m.name code

section Values

variable {s : TypeStore} {route : Route} {subject : String} {code : Nat}

/-! ## From a value -/

/-- A container that reports elements shows its first one unless there is none to show. -/
theorem refuses_firstClass_iff {c : Container Value} (here : Route) (this : String)
    (whenEmpty : Diagnostic) :
    Refuses (if c.reportsEmpty then .error ⟨here, this, whenEmpty⟩
        else c.firstClass.mapError (⟨here, this, ·⟩)) route subject code ↔
      here = route ∧ this = subject ∧ c.Withholds whenEmpty.code code := by
  obtain ⟨reports, items⟩ := c
  cases reports with
  | true =>
    have hiff : Container.Withholds whenEmpty.code ⟨true, items⟩ code ↔ whenEmpty.code = code :=
      ⟨fun h => by cases h; rfl, by rintro rfl; exact .reportsEmpty items⟩
    rw [hiff]
    exact refuses_error_iff
  | false =>
    rcases items with _ | ⟨v, rest⟩
    · have hiff : Container.Withholds whenEmpty.code ⟨false, []⟩ code ↔ 2001 = code :=
        ⟨fun h => by cases h; rfl, by rintro rfl; exact .nothing⟩
      rw [hiff]
      exact refuses_error_iff
    · cases v with
      | null =>
        have hiff : Container.Withholds whenEmpty.code ⟨false, .null :: rest⟩ code ↔ 2002 = code :=
          ⟨fun h => by cases h; rfl, by rintro rfl; exact .null rest⟩
        rw [hiff]
        exact refuses_error_iff
      | _ => exact iff_of_false not_refuses_ok (by rintro ⟨-, -, ⟨⟩⟩)

/-- There is no name for a value just when it is unnameable. -/
theorem refuses_ofValue_iff {v : Value} :
    Refuses (Derivation.ofValue s v) route subject code ↔
      .value = route ∧ v.Unnameable s subject code := by
  cases v with
  | null =>
    rw [Derivation.ofValue, refuses_error_iff]
    refine and_congr_right' ⟨?_, ?_⟩
    · rintro ⟨rfl, rfl⟩
      exact .null
    · rintro ⟨⟩
      exact ⟨rfl, rfl⟩
  | object t => exact iff_of_false not_refuses_ok (by rintro ⟨-, ⟨⟩⟩)
  | array c elements => exact iff_of_false not_refuses_ok (by rintro ⟨-, ⟨⟩⟩)
  | collection t c =>
    have hshow : Derivation.ofValue s (.collection t c) =
        (if c.reportsEmpty then .error ⟨.value, s.qualifiedName t, .emptyCollection⟩
          else c.firstClass.mapError (⟨.value, s.qualifiedName t, ·⟩)).map
            fun k => .plural (.runtime k) := by
      rw [Derivation.ofValue]
      split <;> rfl
    rw [hshow, refuses_map_iff, refuses_firstClass_iff]
    refine and_congr_right' ⟨?_, ?_⟩
    · rintro ⟨rfl, h⟩
      exact .collection t h
    · intro h
      cases h with
      | collection _ h => exact ⟨rfl, h⟩

theorem uninformative_iff_of_container?_eq_none {v : Option Value}
    (hnone : v.bind Value.container? = none) : Uninformative v code ↔ 1004 = code := by
  constructor
  · intro h
    cases h with
    | other => rfl
    | collection t h => cases hnone
  · rintro rfl
    exact .other hnone

/-- The null value tells as little as none. -/
theorem uninformative_filter_iff {v : Option Value} :
    Uninformative (v.filter (!·.isNull)) code ↔ Uninformative v code := by
  rcases v with _ | v
  · rfl
  · cases v with
    | null =>
      rw [uninformative_iff_of_container?_eq_none rfl, uninformative_iff_of_container?_eq_none rfl]
    | _ => rfl

/-- The value at a site leaves the elements open just when it is uninformative. -/
theorem refuses_classInValue_iff {site : Site} :
    Refuses (ElementSource.classInValue site) route subject code ↔
      site.route = route ∧ site.subject = subject ∧ Uninformative site.value code := by
  cases hc : site.value.bind Value.container? with
  | none =>
    have hopen : ElementSource.classInValue site =
        .error (site.error .untypedReturnOtherValue) := by
      rw [ElementSource.classInValue, hc]
    rw [hopen, refuses_error_iff, uninformative_iff_of_container?_eq_none hc]
    rfl
  | some c =>
    obtain ⟨t, hv⟩ : ∃ t, site.value = some (.collection t c) := by
      obtain ⟨v, hv, hcv⟩ := Option.bind_eq_some_iff.1 hc
      cases v with
      | collection t d => exact ⟨t, by rw [hv, Option.some.inj hcv]⟩
      | _ => cases hcv
    have hshow : ElementSource.classInValue site =
        if c.reportsEmpty then .error ⟨site.route, site.subject, .untypedReturnEmptyValue⟩
        else c.firstClass.mapError (⟨site.route, site.subject, ·⟩) := by
      rw [ElementSource.classInValue, hc]
      rfl
    rw [hshow, refuses_firstClass_iff, hv]
    refine and_congr_right' (and_congr_right' ⟨fun h => .collection t h, fun h => ?_⟩)
    cases h with
    | other hnone => cases hnone
    | collection _ h => exact h

end Values

section Declarations

variable {s : TypeStore} {route : Route} {subject : String} {code : Nat}

/-! ## From a declaration -/

/-- There is no name for a declaration just when it is untyped and the other sources of an element
type do not make up for it. -/
theorem refuses_ofDeclaration_iff {r : AdapterRegistry} {site : Site} {resolved : TypeId}
    {rest : List ElementSource} {unresolved : Diagnostic} :
    Refuses (Derivation.ofDeclaration s r site resolved (.declaration :: rest) unresolved)
        route subject code ↔
      s.Untyped resolved site.declared ∧
        Refuses (findElement s site unresolved rest) route subject code := by
  rcases ofDeclaration_cases s r site resolved (.declaration :: rest) unresolved with
    ⟨c, hc, hroute⟩ | ⟨hc, hlike, hroute⟩ | ⟨hc, hlike, hroute⟩ <;> rw [hroute]
  · refine iff_of_false not_refuses_ok fun h => ?_
    cases hc.symm.trans h.1.component?_eq_none
  · rw [refuses_map_iff]
    cases helement : s.elementType? site.declared with
    | some e =>
      rw [findElement_of_elementType? unresolved rest helement]
      refine iff_of_false not_refuses_ok fun h => ?_
      cases helement.symm.trans h.1.elementType?_eq_none
    | none =>
      rw [findElement_of_elementType?_eq_none unresolved rest helement]
      exact (and_iff_right ⟨hc, hlike, helement⟩).symm
  · refine iff_of_false not_refuses_ok fun h => ?_
    cases hlike.symm.trans h.1.isCollectionLike

end Declarations

/-! ## From what is returned for the top type -/

section Returned

variable {s : TypeStore} {r : AdapterRegistry} {m : Method}

/-- For the top type the value decides alone, and the null value is as good as none. -/
theorem refuses_derive_returned_object_iff {v : Option Value} {route : Route} {subject : String}
    {code : Nat} :
    Refuses ((Inquiry.returned m .object v).derive s r) route subject code ↔
      Inquiry.Unanswerable s (.returned m .object v) route subject code := by
  -- only here does the null value count for none; by itself it has an error of its own
  by_cases hnothing : v = none ∨ v = some .null
  · rw [Inquiry.derive_returned_object_of_nothing s r m hnothing, refuses_error_iff]
    constructor
    · rintro ⟨rfl, rfl, rfl⟩
      exact .nothingReturned hnothing
    · intro h
      cases h with
      | nothingReturned _ => exact ⟨rfl, rfl, rfl⟩
      | valueReturned hnull _ =>
        exact absurd (hnothing.resolve_left nofun) fun heq => hnull (Option.some.inj heq)
      | returned hobject _ _ => exact absurd rfl hobject
  · obtain ⟨w, rfl, hw⟩ := Inquiry.exists_value_of_not_nothing hnothing
    rw [Inquiry.derive_returned_object_of_value s r m hw, refuses_ofValue_iff]
    constructor
    · rintro ⟨rfl, h⟩
      exact .valueReturned hw h
    · intro h
      cases h with
      | nothingReturned h => exact absurd h hnothing
      | valueReturned _ h => exact ⟨rfl, h⟩
      | returned hobject _ _ => exact absurd rfl hobject

end Returned

/-! ## Answers -/

namespace TypeStore

/-- **There is no name just when the question is unanswerable.**  The error has the route, the
subject and the number that belong to what is wrong. -/
theorem refuses_answer_iff (s : TypeStore) (r : AdapterRegistry) (q : Inquiry) (route : Route)
    (subject : String) (code : Nat) :
    Refuses (q.answer s r).answer route subject code ↔ q.Unanswerable s route subject code := by
  rw [answer_answer, refuses_map_iff]
  cases q with
  | value v =>
    rw [Inquiry.derive, refuses_ofValue_iff]
    constructor
    · rintro ⟨rfl, h⟩
      exact .value h
    · intro h
      cases h with
      | value h => exact ⟨rfl, h⟩
  | parameter p =>
    rw [Inquiry.derive, ElementSource.ofParameter, refuses_ofDeclaration_iff, findElement,
      refuses_error_iff]
    constructor
    · rintro ⟨h, rfl, rfl, rfl⟩
      exact .parameter h
    · intro h
      cases h with
      | parameter h => exact ⟨h, rfl, rfl, rfl⟩
  | returned m resolved v =>
    by_cases hobject : resolved = .object
    · subst hobject
      exact refuses_derive_returned_object_iff
    · rw [Inquiry.derive, if_neg hobject, ElementSource.ofReturnType, refuses_ofDeclaration_iff,
        findElement_value_cons, refuses_map_iff, refuses_classInValue_iff]
      -- the site has dropped the null value, which is as uninformative as none
      constructor
      · rintro ⟨h, rfl, rfl, hv⟩
        exact .returned hobject h (uninformative_filter_iff.1 hv)
      · intro h
        cases h with
        | returned _ h hv => exact ⟨h, rfl, rfl, uninformative_filter_iff.2 hv⟩
        | _ => exact absurd rfl hobject

end TypeStore
end VariableNaming
