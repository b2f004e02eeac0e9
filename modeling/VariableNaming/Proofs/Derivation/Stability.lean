import VariableNaming.Proofs.Derivation.Mentioned
import VariableNaming.Proofs.TypeStore.Grown
import VariableNaming.Proofs.Value.ArrayClass

/-!
# Answers outlast the growth of the store

Whoever asks for a name may make the store grow: the class of an array that was met at run time is
put in if it is not there.  Other questions, and types put in meanwhile, decide which id it gets.
None of this shows in a name: a question that mentions known types only is answered the same ever
after, if the store was closed when it was asked first.

* `Grown.derive_eq`, `exists_write` — grown stores give the same derivation and write one name.
* `Use`, `useAll` — what can be done with a store, and a whole run of it.
* `answer_stable` — the answers stay the same whatever is done, and in whatever order one asks.
-/

set_option autoImplicit false

namespace VariableNaming
namespace TypeStore

variable {s s' : TypeStore} {n n' : Nat}

/-! ## The derivation of a name -/

theorem Grown.ofValue_eq (h : s.Grown s') {v : Value} (hv : v.types ⊆ s.known) :
    Derivation.ofValue s' v = Derivation.ofValue s v := by
  cases v with
  | null => rfl
  | object t => rfl
  | array c elements => rfl
  | collection t c =>
    rw [Value.types_collection] at hv
    rw [Derivation.ofValue, Derivation.ofValue, h.qualifiedName_eq (hv List.mem_cons_self)]

theorem Grown.findElement_eq (h : s.Grown s') (hclosed : s.Closed) {site : Site}
    (hsite : site.types ⊆ s.known) (unresolved : Diagnostic) (sources : List ElementSource) :
    findElement s' site unresolved sources = findElement s site unresolved sources := by
  have hdeclared := List.Subset.trans site.types_declared_subset hsite
  induction sources with
  | nil => rfl
  | cons source sources ih =>
    have hfind : source.find s' site = source.find s site := by
      cases source with
      | declaration =>
        rw [ElementSource.find, ElementSource.find, h.elementType?_eq hclosed hdeclared]
      | value => rfl
    rw [findElement, findElement, hfind, ih]

theorem Grown.ofDeclaration_eq (h : s.Grown s') (hclosed : s.Closed) {site : Site}
    (hsite : site.types ⊆ s.known) {resolved : TypeId} (hresolved : resolved ∈ s.known)
    (r : AdapterRegistry) (sources : List ElementSource) (unresolved : Diagnostic) :
    Derivation.ofDeclaration s' r site resolved sources unresolved =
      Derivation.ofDeclaration s r site resolved sources unresolved := by
  rw [Derivation.ofDeclaration, Derivation.ofDeclaration, h.component?_eq hresolved,
    h.isCollectionLike_eq hclosed hresolved, h.findElement_eq hclosed hsite,
    h.nearest?_eq hclosed hresolved]

/-- **A grown store gives the same derivation.** -/
theorem Grown.derive_eq (h : s.Grown s') (hclosed : s.Closed) (hobject : .object ∈ s.known)
    {q : Inquiry} (hq : q.types ⊆ s.known) (r : AdapterRegistry) :
    q.derive s' r = q.derive s r := by
  cases q with
  | value v => exact h.ofValue_eq hq
  | parameter p =>
    have hsite := List.Subset.trans p.types_site_subset hq
    have hdeclared := List.Subset.trans p.types_declared_subset hq
    exact h.ofDeclaration_eq hclosed hsite (TypeRef.rawOrObject_mem hdeclared hobject) r _ _
  | returned m resolved v =>
    have hsite := List.Subset.trans (m.types_returnSite_subset resolved v) hq
    have hresolved : resolved ∈ s.known := hq List.mem_cons_self
    rw [Inquiry.derive, Inquiry.derive, h.ofDeclaration_eq hclosed hsite hresolved]
    refine ite_congr rfl (fun _ => ?_) fun _ => rfl
    cases hv : (m.returnSite resolved v).value with
    | none => rfl
    | some w => exact h.ofValue_eq (List.Subset.trans (Site.types_value_subset hv) hsite)

/-! ## The name that is written -/

/-- An array type is called the same in every grown store: after its component, or after the top
type if it looks generated. -/
theorem exists_variableName?_array (hn : s.Numbered n) (hclosed : s.Closed)
    (hcircle : s.NoArrayCircle) (hobject : .object ∈ s.known) {c : TypeId} (hc : c ∈ s.known) :
    ∃ name, ∀ (s' : TypeStore) (a : TypeId), s.Grown s' → s'.arrays[c]? = some a →
      s'.variableName? (s'.normalize a) = some name := by
  obtain ⟨name, hname⟩ := exists_get?_array hn hc
  obtain ⟨top, htop⟩ := hcircle.exists_variableName? .object
  obtain ⟨inner, hinner⟩ := hcircle.exists_variableName? c
  refine ⟨if QualifiedName.nestingSeparator ∈
      (QualifiedName.simple name ++ QualifiedName.arrayEnding).toList
    then top else inner ++ QualifiedName.arrayEnding, ?_⟩
  intro s' a h ha
  have hget := hname s' a h ha
  rw [normalize_of_array hget, simpleName_of_array hget]
  split
  · rw [h.variableName?_eq hclosed hcircle hobject, htop]
  · rw [variableName?_of_component? (component?_of_array hget),
      h.variableName?_eq hclosed hcircle hc, hinner, Option.map_some]

/-- Putting in an array type makes a store grow. -/
theorem Grown.arrayOf (h : s.Grown s') (hn' : s'.Numbered n') (c : TypeId) :
    s.Grown (s'.arrayOf c).2 ∧ (s'.arrayOf c).2.arrays[c]? = some (s'.arrayOf c).1 := by
  refine ⟨h.grow hn' (.arrayOf c), ?_⟩
  rw [arrays_arrayOf, if_pos rfl]

/-- A namesake has a name, and the same one in every grown store. -/
theorem exists_variableName?_typeOfNamesake (hn : s.Numbered n) (hclosed : s.Closed)
    (hcircle : s.NoArrayCircle) (hobject : .object ∈ s.known) {m : Namesake}
    (hm : m.mentioned ∈ s.known) :
    ∃ name, ∀ (s' : TypeStore) (n' : Nat), s.Grown s' → s'.Numbered n' →
      (s'.typeOfNamesake m).2.variableName? (s'.typeOfNamesake m).1 = some name := by
  match m with
  | .declared t =>
    obtain ⟨name, hname⟩ := hcircle.exists_variableName? t
    exact ⟨name, fun s' n' h _ => (h.variableName?_eq hclosed hcircle hm).trans hname⟩
  | .runtime (.ofType t) =>
    have ht : t ∈ s.known := hm
    obtain ⟨name, hname⟩ := hcircle.exists_variableName? (s.normalize t)
    refine ⟨name, fun s' n' h _ => ?_⟩
    show s'.variableName? (s'.normalize t) = some name
    rw [h.normalize_eq hclosed ht,
      h.variableName?_eq hclosed hcircle (hclosed.normalize_mem_known ht), hname]
  | .runtime (.arrayOver c) =>
    obtain ⟨name, hname⟩ := exists_variableName?_array hn hclosed hcircle hobject hm
    refine ⟨name, fun s' n' h hn' => ?_⟩
    obtain ⟨hgrown, harray⟩ := h.arrayOf hn' c
    exact hname _ _ hgrown harray

/-- **Every grown store writes one name for a derivation.** -/
theorem exists_write (hn : s.Numbered n) (hclosed : s.Closed) (hcircle : s.NoArrayCircle)
    (hobject : .object ∈ s.known) {d : Derivation} (hd : d.types ⊆ s.known) :
    ∃ name, ∀ (s' : TypeStore) (n' : Nat), s.Grown s' → s'.Numbered n' →
      (d.write s').1 = some name := by
  cases d with
  | single m =>
    exact exists_variableName?_typeOfNamesake hn hclosed hcircle hobject (hd List.mem_cons_self)
  | plural m =>
    obtain ⟨name, hname⟩ :=
      exists_variableName?_typeOfNamesake hn hclosed hcircle hobject (hd List.mem_cons_self)
    exact ⟨Identifier.pluralize name, fun s' n' h hn' =>
      congrArg (Option.map Identifier.pluralize) (hname s' n' h hn')⟩
  | wrapped element wrapper =>
    have hwrapper : wrapper ∈ s.known := hd (List.mem_cons_of_mem _ List.mem_cons_self)
    obtain ⟨name, hname⟩ := hcircle.exists_wrappedName? element wrapper
    exact ⟨name, fun s' n' h _ =>
      (h.wrappedName?_eq hclosed hcircle (hd List.mem_cons_self) hwrapper).trans hname⟩

/-- A question is answered by every grown store, and with one name or error. -/
theorem exists_answer (hn : s.Numbered n) (hclosed : s.Closed) (hcircle : s.NoArrayCircle)
    {q : Inquiry} (hq : q.types ⊆ s.known) (r : AdapterRegistry) :
    ∃ told : Except NamingError String, ∀ (s' : TypeStore) (n' : Nat), s.Grown s' →
      s'.Numbered n' → (q.answer s' r).answer = told.map some := by
  have hobject : .object ∈ s.known := mem_known_iff_exists.2 ⟨_, hn.get?_object⟩
  cases hd : q.derive s r with
  | error e =>
    refine ⟨.error e, fun s' n' h _ => ?_⟩
    rw [answer_answer, h.derive_eq hclosed hobject hq, hd]
    rfl
  | ok d =>
    obtain ⟨name, hname⟩ :=
      exists_write hn hclosed hcircle hobject (types_derive_subset hclosed hobject hq hd)
    refine ⟨.ok name, fun s' n' h hn' => ?_⟩
    rw [answer_answer, h.derive_eq hclosed hobject hq, hd]
    exact congrArg Except.ok (hname s' n' h hn')

/-- A question is answered the same by a grown store, and with a name if not with an error. -/
theorem Grown.answer_eq (h : s.Grown s') (hn : s.Numbered n) (hn' : s'.Numbered n')
    (hclosed : s.Closed) (hcircle : s.NoArrayCircle) {q : Inquiry} (hq : q.types ⊆ s.known)
    (r : AdapterRegistry) :
    (q.answer s' r).answer = (q.answer s r).answer ∧ (q.answer s r).answer ≠ .ok none := by
  obtain ⟨told, htold⟩ := exists_answer hn hclosed hcircle hq r
  rw [htold s' n' h hn', htold s n (.refl s) hn]
  exact ⟨rfl, by cases told <;> nofun⟩

/-! ## Runs in which questions are asked -/

/-- What can be done with a store: it can be made to grow, and names can be asked for. -/
inductive Use where
  | grow (g : Growth)
  | ask (q : Inquiry) (r : AdapterRegistry)

/-- The store after a use. -/
def use (s : TypeStore) : Use → TypeStore
  | .grow g => s.grow g
  | .ask q r => (q.answer s r).store

/-- The store after all of them. -/
def useAll (s : TypeStore) (us : List Use) : TypeStore := us.foldl use s

/-- How many ids a use takes.  A question takes one or none: the next id tells which. -/
def takes (s : TypeStore) : Use → Nat
  | .grow g => s.allocates g
  | .ask q r => if (q.answer s r).store.next = s.next then 0 else 1

/-- How many ids all of them take. -/
def takesAll (s : TypeStore) : List Use → Nat
  | [] => 0
  | u :: us => s.takes u + (s.use u).takesAll us

/-- A name is written without a change of the store, or an array type is put in for it. -/
theorem store_write (s : TypeStore) (d : Derivation) :
    (d.write s).2 = s ∨ ∃ c, (d.write s).2 = (s.arrayOf c).2 := by
  match d with
  | .single (.declared t) => exact Or.inl rfl
  | .single (.runtime (.ofType t)) => exact Or.inl rfl
  | .single (.runtime (.arrayOver c)) => exact Or.inr ⟨c, rfl⟩
  | .plural (.declared t) => exact Or.inl rfl
  | .plural (.runtime (.ofType t)) => exact Or.inl rfl
  | .plural (.runtime (.arrayOver c)) => exact Or.inr ⟨c, rfl⟩
  | .wrapped element wrapper => exact Or.inl rfl

theorem store_answer (s : TypeStore) (r : AdapterRegistry) (q : Inquiry) :
    (q.answer s r).store = s ∨ ∃ c, (q.answer s r).store = (s.arrayOf c).2 := by
  rw [Inquiry.answer]
  cases q.derive s r with
  | error e => exact Or.inl rfl
  | ok d => exact s.store_write d

/-- An array type that is put in takes an id. -/
theorem allocates_arrayOf (s : TypeStore) (c : TypeId) :
    s.allocates (.arrayOf c) = if (s.arrayOf c).2.next = s.next then 0 else 1 := by
  cases hc : s.arrays[c]? with
  | some a => simp [allocates, hc, arrayOf_of_some hc]
  | none =>
    have hnext : (s.arrayOf c).2.next = s.next.succ := by simp [TypeStore.arrayOf, hc]
    have hne : s.next.succ ≠ s.next := by
      intro heq
      have hindex : s.next.index + 1 = s.next.index := congrArg TypeId.index heq
      simp at hindex
    rw [hnext, if_neg hne, allocates, if_pos hc]

/-- A use does what a run does that takes as many ids. -/
theorem exists_run_eq_use (s : TypeStore) (u : Use) :
    ∃ gs, s.use u = s.run gs ∧ s.allocations gs = s.takes u := by
  cases u with
  | grow g => exact ⟨[g], rfl, by simp [allocations, takes]⟩
  | ask q r =>
    rcases s.store_answer r q with hstore | ⟨c, hstore⟩
    · exact ⟨[], hstore, by simp [allocations, takes, hstore]⟩
    · refine ⟨[.arrayOf c], hstore, ?_⟩
      rw [takes, hstore, ← allocates_arrayOf]
      rfl

theorem exists_run_eq_useAll (s : TypeStore) (us : List Use) :
    ∃ gs, s.useAll us = s.run gs ∧ s.allocations gs = s.takesAll us := by
  induction us generalizing s with
  | nil => exact ⟨[], rfl, rfl⟩
  | cons u us ih =>
    obtain ⟨gs, huse, htakes⟩ := s.exists_run_eq_use u
    obtain ⟨gs', huses, htakes'⟩ := ih (s.use u)
    refine ⟨gs ++ gs', ?_, ?_⟩
    · rw [run_append, ← huse, ← huses]
      rfl
    · rw [allocations_append, ← huse, htakes, htakes', takesAll]

/-- A store that was used has grown. -/
theorem Numbered.grown_useAll (hn : s.Numbered n) {us : List Use}
    (hroom : n + s.takesAll us < room) :
    s.Grown (s.useAll us) ∧ (s.useAll us).Numbered (n + s.takesAll us) := by
  obtain ⟨gs, huses, htakes⟩ := s.exists_run_eq_useAll us
  rw [← htakes] at hroom ⊢
  rw [huses]
  exact ⟨(Grown.refl s).run hn hroom, hn.run gs hroom⟩

/-- **Answers last.**  A question that mentions only what a closed store knows is answered, and the
same after any use of the store, and so is a question by the declared return type of a method.  Two
such questions have the same two answers in either order. -/
theorem answer_stable (gs : List Growth) (us : List Use)
    (hroom : initial.allocations gs + (initial.run gs).takesAll us < room)
    (hclosed : (initial.run gs).Closed) (hcircle : (initial.run gs).NoArrayCircle) :
    (∀ (q : Inquiry) (r : AdapterRegistry), q.types ⊆ (initial.run gs).known →
      (q.answer ((initial.run gs).useAll us) r).answer = (q.answer (initial.run gs) r).answer ∧
        (q.answer (initial.run gs) r).answer ≠ .ok none) ∧
    (∀ (m : Method) (v : Option Value) (r : AdapterRegistry), m.types ⊆ (initial.run gs).known →
      (∀ w ∈ v, w.types ⊆ (initial.run gs).known) →
      ((Inquiry.methodReturn m v).answer ((initial.run gs).useAll us) r).answer =
          ((Inquiry.methodReturn m v).answer (initial.run gs) r).answer ∧
        ((Inquiry.methodReturn m v).answer (initial.run gs) r).answer ≠ .ok none) ∧
    ∀ (q q' : Inquiry) (r r' : AdapterRegistry), q.types ⊆ (initial.run gs).known →
      q'.types ⊆ (initial.run gs).known →
      initial.allocations gs + (initial.run gs).takes (.ask q r) < room →
      initial.allocations gs + (initial.run gs).takes (.ask q' r') < room →
      (q.answer (q'.answer (initial.run gs) r').store r).answer =
          (q.answer (initial.run gs) r).answer ∧
        (q'.answer (q.answer (initial.run gs) r).store r').answer =
          (q'.answer (initial.run gs) r').answer := by
  have hn := numbered_run gs (Nat.lt_of_le_of_lt (Nat.le_add_right _ _) hroom)
  have hobject : .object ∈ (initial.run gs).known := mem_known_iff_exists.2 ⟨_, hn.get?_object⟩
  have hlast : ∀ (us : List Use) (q : Inquiry) (r : AdapterRegistry),
      initial.allocations gs + (initial.run gs).takesAll us < room →
      q.types ⊆ (initial.run gs).known →
      (q.answer ((initial.run gs).useAll us) r).answer = (q.answer (initial.run gs) r).answer ∧
        (q.answer (initial.run gs) r).answer ≠ .ok none := by
    intro us q r hroom hq
    obtain ⟨hgrown, hn'⟩ := hn.grown_useAll hroom
    exact hgrown.answer_eq hn hn' hclosed hcircle hq r
  refine ⟨fun q r hq => hlast us q r hroom hq, fun m v r hm hv => ?_,
    fun q q' r r' hq hq' hask hask' => ⟨?_, ?_⟩⟩
  · exact hlast us _ r hroom (Inquiry.types_methodReturn_subset hobject hm hv)
  · exact (hlast [.ask q' r'] q r (by simpa [takesAll] using hask') hq).1
  · exact (hlast [.ask q r] q' r' (by simpa [takesAll] using hask) hq').1

/-- A collection and a type of what may be in it. -/
def shelfRun : List Growth := [
  .register { TypeInfo.ofInterface "Collection" with
    marks := { collection := true }, paramCount := 1 },
  .register { TypeInfo.ofClass "Shelf" with interfaces := [.concrete ⟨2⟩ [.erased ⟨4⟩]] },
  .register (.ofClass "Book")]

/-- A shelf on which an array over a type is met first. -/
def shelfWith (component : TypeId) : Inquiry :=
  .value (.collection ⟨3⟩ ⟨false, [.array component []]⟩)

/-- Which of two shelves is asked about first decides which array type gets the next id, and neither
answer. -/
theorem answer_shelfWith :
    ((initial.run shelfRun).arrayOf ⟨4⟩).1 = ⟨5⟩ ∧
    (((shelfWith .object).answer (initial.run shelfRun) .empty).store.arrayOf ⟨4⟩).1 = ⟨6⟩ ∧
    ((shelfWith ⟨4⟩).answer ((initial.run shelfRun).useAll
      [.ask (shelfWith .object) .empty, .grow (.register (.ofClass "Book"))]) .empty).answer =
        ((shelfWith ⟨4⟩).answer (initial.run shelfRun) .empty).answer ∧
    ((shelfWith ⟨4⟩).answer (initial.run shelfRun) .empty).answer ≠ .ok none ∧
    ((shelfWith .object).answer
      ((shelfWith ⟨4⟩).answer (initial.run shelfRun) .empty).store .empty).answer =
        ((shelfWith .object).answer (initial.run shelfRun) .empty).answer := by
  have hclosed : (initial.run shelfRun).Closed := closed_of_forall_known (by decide)
  have hcircle : (initial.run shelfRun).NoArrayCircle := noArrayCircle_of_lt (by decide)
  have hbook : (shelfWith ⟨4⟩).types ⊆ (initial.run shelfRun).known := by decide
  have hobject : (shelfWith .object).types ⊆ (initial.run shelfRun).known := by decide
  obtain ⟨hlast, -, horder⟩ := answer_stable shelfRun
    [.ask (shelfWith .object) .empty, .grow (.register (.ofClass "Book"))] (by decide) hclosed
    hcircle
  obtain ⟨-, hother⟩ := horder (shelfWith ⟨4⟩) (shelfWith .object) .empty .empty hbook hobject
    (by decide) (by decide)
  obtain ⟨hsame, hanswered⟩ := hlast _ .empty hbook
  exact ⟨by decide, by decide, hsame, hanswered, hother⟩

end TypeStore
end VariableNaming
