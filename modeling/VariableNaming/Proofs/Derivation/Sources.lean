import VariableNaming.Derivation.ElementSource

/-!
# Lists of sources

The sources of an element type are asked in the order of a list, until one tells the type or stops
the search.  A value always does the one or the other, and a declaration that leaves the type open
leaves it open again when it is asked again.  So a list of sources, however long, is as good as the
part of it up to the first value, with one declaration for all the declarations in it.

* `ElementSource.resolve_declaration`, `ElementSource.resolve_value` — what one source does.
* `resolveElement_cons` — one step of the search.
* `ElementSource.collapse` — the short list.  There are four of them: `collapse_eq`.
* `RunsThrough` — every source leaves the type open, so that the diagnostic is all there is to say.
* `resolveElement_eq_collapse` — **all of it.**
-/

set_option autoImplicit false

namespace VariableNaming

variable (s : TypeStore) (site : Site)

/-! ## One source -/

/-- What a container yields first is not null, and so has a class. -/
theorem Container.exists_class_of_peek {c : Container Value} {v : Value} (h : c.peek = .ok v) :
    ∃ k, v.runtimeClass? = some k := by
  cases hv : v.runtimeClass? with
  | some k => exact ⟨k, rfl⟩
  | none =>
    obtain rfl := Value.runtimeClass?_eq_none_iff.1 hv
    rw [Container.peek] at h
    split at h <;> simp_all

namespace ElementSource

/-- The source tells no type, and leaves it to the next. -/
def LeavesOpen (source : ElementSource) : Prop := source.resolve s site = ⟨.ok none, s⟩

theorem resolve_declaration :
    declaration.resolve s site = ⟨.ok (s.elementType? site.declared), s⟩ := by
  rw [resolve, find]
  cases s.elementType? site.declared <;> rfl

/-- A value is asked for its first element, and this one for its class.  Where there is no first
element, the error of the look at it is told of the site. -/
theorem resolve_value :
    value.resolve s site =
      match site.value.bind Value.container? with
      | none => ⟨.error (site.error .untypedReturnOtherValue), s⟩
      | some c =>
        if c.reportsEmpty then ⟨.error (site.error .untypedReturnEmptyValue), s⟩
        else
          match c.peek with
          | .error e => ⟨.error (e.within site.route site.subject), s⟩
          | .ok v =>
            match v.runtimeClass? with
            | none => ⟨.ok none, s⟩
            | some k => ⟨.ok (some (s.namesakeOfClass k).1), (s.namesakeOfClass k).2⟩ := by
  rw [resolve, find, classInValue]
  cases site.value.bind Value.container? with
  | none => rfl
  | some c =>
    dsimp only
    cases c.reportsEmpty with
    | true => rfl
    | false =>
      cases hpeek : c.peek with
      | error e =>
        rw [Container.firstClass_eq_error_iff.2 ⟨e, hpeek, rfl⟩]
        rfl
      | ok v =>
        obtain ⟨k, hk⟩ := Container.exists_class_of_peek hpeek
        rw [Container.firstClass_eq_ok_iff.2 ⟨v, hpeek, hk⟩, if_neg Bool.false_ne_true,
          if_neg Bool.false_ne_true]
        simp only [hk]
        rfl

variable {s site}

/-- A source that tells no type and does not stop the search leaves the store as it is. -/
theorem leavesOpen_of_answer {source : ElementSource}
    (h : (source.resolve s site).answer = .ok none) : source.LeavesOpen s site := by
  rw [LeavesOpen]
  rw [resolve] at h ⊢
  split at h
  · cases h
  · rfl
  · cases h

/-- **A value never leaves the type open.**  What it yields first is not null and has a class, or
else the search stops there. -/
theorem not_leavesOpen_value : ¬ value.LeavesOpen s site := by
  rw [LeavesOpen, resolve_value]
  split
  · nofun
  · split
    · nofun
    · split
      · nofun
      · rename_i v hpeek
        obtain ⟨k, hk⟩ := Container.exists_class_of_peek hpeek
        rw [hk]
        nofun

/-- A declaration leaves the type open if it tells no element type. -/
theorem leavesOpen_declaration_iff :
    declaration.LeavesOpen s site ↔ s.elementType? site.declared = none := by
  simp [LeavesOpen, resolve_declaration]

end ElementSource

/-! ## One step of the search -/

/-- The search stops at the first source that does not leave the type open, and goes on from the
same store otherwise. -/
theorem resolveElement_cons (d : Diagnostic) (source : ElementSource)
    (sources : List ElementSource) :
    resolveElement s site d (source :: sources) =
      match source.resolve s site with
      | ⟨.error e, s'⟩ => ⟨.error e, s'⟩
      | ⟨.ok (some t), s'⟩ => ⟨.ok t, s'⟩
      | ⟨.ok none, s'⟩ => resolveElement s' site d sources := by
  rw [resolveElement, findElement, ElementSource.resolve]
  cases hfind : source.find s site with
  | error e => rfl
  | ok told => cases told <;> rfl

variable {s site}

theorem resolveElement_of_open {source : ElementSource} (h : source.LeavesOpen s site)
    (d : Diagnostic) (sources : List ElementSource) :
    resolveElement s site d (source :: sources) = resolveElement s site d sources := by
  rw [resolveElement_cons, h]

/-- Nothing after a source that does not leave the type open is asked. -/
theorem resolveElement_of_not_open {source : ElementSource}
    (h : ¬ source.LeavesOpen s site) (d d' : Diagnostic) (sources sources' : List ElementSource) :
    resolveElement s site d (source :: sources) =
      resolveElement s site d' (source :: sources') := by
  rw [resolveElement_cons, resolveElement_cons]
  split
  · rfl
  · rfl
  · rename_i s' heq
    exact absurd (ElementSource.leavesOpen_of_answer (congrArg Outcome.answer heq)) h

/-! ## What is never asked, and what is asked in vain -/

namespace ElementSource

/-- The sources up to the first value, and this value. -/
def throughValue : List ElementSource → List ElementSource
  | [] => []
  | declaration :: sources => declaration :: throughValue sources
  | value :: _ => [value]

/-- The sources up to the first value, each of them once. -/
def collapse (sources : List ElementSource) : List ElementSource :=
  (throughValue sources).eraseDups

/-- Of the sources up to the first value only this one is no declaration. -/
theorem filter_throughValue (sources : List ElementSource) :
    (throughValue sources).filter (!· == declaration) =
      if value ∈ sources then [value] else [] := by
  induction sources with
  | nil => rfl
  | cons source sources ih =>
    cases source with
    | declaration => simpa [throughValue] using ih
    | value => simp [throughValue]

theorem collapse_cons_declaration (sources : List ElementSource) :
    collapse (declaration :: sources) =
      declaration :: (throughValue sources).filter (!· == declaration) := by
  rw [collapse, throughValue, List.eraseDups_cons, filter_throughValue]
  split <;> rfl

/-- **The four short lists.**  A declaration is left if the first source is one, and a value if
there is one anywhere. -/
theorem collapse_eq (sources : List ElementSource) :
    collapse sources = (if sources.head? = some declaration then [declaration] else []) ++
      if value ∈ sources then [value] else [] := by
  cases sources with
  | nil => rfl
  | cons source sources =>
    cases source with
    | declaration => simp [collapse_cons_declaration, filter_throughValue]
    | value => simp [collapse, throughValue, List.eraseDups_cons]

example : collapse [declaration, declaration, value, declaration, value] = [declaration, value] := by
  decide

end ElementSource

open ElementSource

theorem resolveElement_throughValue (d : Diagnostic) (sources : List ElementSource) :
    resolveElement s site d (throughValue sources) = resolveElement s site d sources := by
  induction sources with
  | nil => rfl
  | cons source sources ih =>
    cases source with
    | declaration =>
      rw [throughValue]
      by_cases h : declaration.LeavesOpen s site
      · rw [resolveElement_of_open h, resolveElement_of_open h, ih]
      · exact resolveElement_of_not_open h d d _ sources
    | value => exact resolveElement_of_not_open not_leavesOpen_value d d [] sources

/-- A declaration that leaves the type open can be left out wherever it is. -/
theorem resolveElement_filter_declaration (h : declaration.LeavesOpen s site) (d : Diagnostic)
    (sources : List ElementSource) :
    resolveElement s site d (sources.filter (!· == declaration)) =
      resolveElement s site d sources := by
  induction sources with
  | nil => rfl
  | cons source sources ih =>
    cases source with
    | declaration => simpa [resolveElement_of_open h] using ih
    | value => exact resolveElement_of_not_open not_leavesOpen_value d d _ sources

theorem resolveElement_collapse (d : Diagnostic) (sources : List ElementSource) :
    resolveElement s site d (collapse sources) = resolveElement s site d sources := by
  cases sources with
  | nil => rfl
  | cons source sources =>
    cases source with
    | declaration =>
      rw [collapse_cons_declaration]
      by_cases h : declaration.LeavesOpen s site
      · rw [resolveElement_of_open h, resolveElement_of_open h,
          resolveElement_filter_declaration h, resolveElement_throughValue]
      · exact resolveElement_of_not_open h d d _ sources
    | value => exact resolveElement_of_not_open not_leavesOpen_value d d [] sources

/-! ## Running through all sources -/

/-- Every source leaves the type open. -/
def RunsThrough (s : TypeStore) (site : Site) (sources : List ElementSource) : Prop :=
  ∀ source ∈ sources, source.LeavesOpen s site

theorem runsThrough_iff {sources : List ElementSource} : RunsThrough s site sources ↔
    value ∉ sources ∧ (sources = [] ∨ s.elementType? site.declared = none) := by
  constructor
  · intro h
    have hvalue : value ∉ sources := fun hmem => not_leavesOpen_value (h value hmem)
    refine ⟨hvalue, ?_⟩
    cases sources with
    | nil => exact Or.inl rfl
    | cons source sources =>
      cases source with
      | declaration => exact Or.inr (leavesOpen_declaration_iff.1 (h _ List.mem_cons_self))
      | value => exact absurd List.mem_cons_self hvalue
  · rintro ⟨hvalue, hnone⟩ source hsource
    cases source with
    | declaration =>
      exact leavesOpen_declaration_iff.2 (hnone.resolve_left (List.ne_nil_of_mem hsource))
    | value => exact absurd hsource hvalue

theorem RunsThrough.resolveElement_eq {sources : List ElementSource}
    (h : RunsThrough s site sources) (d : Diagnostic) :
    resolveElement s site d sources = ⟨.error (site.error d), s⟩ := by
  induction sources with
  | nil => rfl
  | cons source sources ih =>
    obtain ⟨hopen, hrest⟩ := List.forall_mem_cons.1 h
    rw [resolveElement_of_open hopen, ih hrest]

/-- Where some source does not leave the type open, the diagnostic for the end is not used. -/
theorem resolveElement_congr_diagnostic {sources : List ElementSource}
    (h : ¬ RunsThrough s site sources) (d d' : Diagnostic) :
    resolveElement s site d sources = resolveElement s site d' sources := by
  induction sources with
  | nil => exact absurd (fun _ hmem => absurd hmem List.not_mem_nil) h
  | cons source sources ih =>
    by_cases hopen : source.LeavesOpen s site
    · rw [resolveElement_of_open hopen, resolveElement_of_open hopen]
      exact ih fun hrest => h (List.forall_mem_cons.2 ⟨hopen, hrest⟩)
    · exact resolveElement_of_not_open hopen d d' sources sources

/-- The diagnostic for the end is the answer, whichever it is, only if the search comes to the end.
-/
theorem runsThrough_iff_forall_resolveElement {sources : List ElementSource} :
    RunsThrough s site sources ↔
      ∀ d, resolveElement s site d sources = ⟨.error (site.error d), s⟩ := by
  refine ⟨RunsThrough.resolveElement_eq, fun h => Classical.byContradiction fun hnot => ?_⟩
  have heq := resolveElement_congr_diagnostic hnot .nullValue .emptyCollection
  rw [h, h] at heq
  simp [Site.error] at heq

/-- **Lists of sources collapse.**  A list of sources has the same answer, and leaves the same store
behind, as its part up to the first value with each source once, and this is one of four lists.  The
search runs through all sources just when there is no value among them and they are none at all or
the declaration tells no element type; and just then the diagnostic for the end, whichever it is, is
the answer. -/
theorem resolveElement_eq_collapse (s : TypeStore) (site : Site) (d : Diagnostic)
    (sources : List ElementSource) :
    resolveElement s site d sources = resolveElement s site d (collapse sources) ∧
      collapse sources ∈ [[], [declaration], [value], [declaration, value]] ∧
      (RunsThrough s site sources ↔
        value ∉ sources ∧ (sources = [] ∨ s.elementType? site.declared = none)) ∧
      (RunsThrough s site sources ↔
        ∀ d, resolveElement s site d sources = ⟨.error (site.error d), s⟩) := by
  refine ⟨(resolveElement_collapse d sources).symm, ?_, runsThrough_iff,
    runsThrough_iff_forall_resolveElement⟩
  rw [collapse_eq]
  split <;> split <;> simp

end VariableNaming
