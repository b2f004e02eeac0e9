import VariableNaming.Proofs.Derivation.Declaration
import VariableNaming.Proofs.TypeStore.Closed

/-!
# The types that a question mentions

A question mentions types in the declaration and in the value that it is about, and the derivation
of its answer mentions the types that are written into the name.  In a closed store nothing unknown
gets from the one to the other.

* `Inquiry.types`, `Derivation.types` — the types that are mentioned.
* `Inquiry.types_methodReturn_subset` — a question by the declared return type mentions nothing more
  than the method and the value, but for the top type.
* `types_derive_subset` — the derivation mentions known types only, if the question does.
-/

set_option autoImplicit false

namespace VariableNaming

/-! ## Values -/

namespace Value

mutual

/-- The types that a value mentions, its elements included. -/
def types : Value → List TypeId
  | null => []
  | object t => [t]
  | array c elements => c :: typesAll elements
  | collection t container => t :: typesIn container

/-- The types that the items of a container mention. -/
def typesIn : Container Value → List TypeId
  | ⟨_, items⟩ => typesAll items

/-- The types that the values of a list mention. -/
def typesAll : List Value → List TypeId
  | [] => []
  | v :: vs => types v ++ typesAll vs

end

@[simp] theorem typesAll_eq_flatMap (vs : List Value) : typesAll vs = vs.flatMap types := by
  induction vs with
  | nil => simp [typesAll]
  | cons v vs ih => simp [typesAll, ih]

@[simp] theorem types_object (t : TypeId) : (object t).types = [t] := by
  simp [types]

@[simp] theorem types_array (c : TypeId) (elements : List Value) :
    (array c elements).types = c :: elements.flatMap types := by
  simp [types]

@[simp] theorem types_collection (t : TypeId) (container : Container Value) :
    (collection t container).types = t :: container.items.flatMap types := by
  cases container
  simp [types, typesIn]

end Value

/-- The type that a class mentions: itself, or the component of the arrays. -/
def RuntimeClass.mentioned : RuntimeClass → TypeId
  | ofType t => t
  | arrayOver c => c

theorem Value.mentioned_mem_types {v : Value} {k : RuntimeClass} (h : v.runtimeClass? = some k) :
    k.mentioned ∈ v.types := by
  cases v <;> cases h <;> simp [RuntimeClass.mentioned]

/-- The class of the first element of a collection mentions what the collection does. -/
theorem Container.mentioned_mem_types {c : Container Value} {k : RuntimeClass}
    (h : c.firstClass = .ok k) : k.mentioned ∈ c.items.flatMap Value.types := by
  obtain ⟨v, hv, hk⟩ := firstClass_eq_ok_iff.1 h
  have hmem : v ∈ c.items := by
    rw [peek] at hv
    split at hv
    · cases hv
    · cases hv
    · rename_i hitems
      cases hv
      rw [hitems]
      exact List.mem_cons_self
  exact List.mem_flatMap.2 ⟨v, hmem, Value.mentioned_mem_types hk⟩

/-! ## Declarations and questions -/

/-- The types that a declaration mentions. -/
def Method.types (m : Method) : List TypeId :=
  m.declaring :: (m.returnType :: m.parameters).flatMap TypeRef.types

/-- The types that the declaration and the value at a site mention. -/
def Site.types (site : Site) : List TypeId :=
  site.declared.types ++ site.value.toList.flatMap Value.types

/-- The types that a question mentions. -/
def Inquiry.types : Inquiry → List TypeId
  | value v => v.types
  | parameter p => p.method.types
  | returned m resolved v => resolved :: (m.types ++ v.toList.flatMap Value.types)

theorem Method.types_returnType_subset (m : Method) : m.returnType.types ⊆ m.types := fun _ ht =>
  List.mem_cons_of_mem _ (List.mem_flatMap.2 ⟨_, List.mem_cons_self, ht⟩)

theorem Method.types_declarationOf_subset (m : Method) (resolved : TypeId) :
    (m.declarationOf resolved).types ⊆ resolved :: m.types := by
  intro t ht
  rw [declarationOf] at ht
  split at ht
  · exact List.mem_cons_of_mem _ (m.types_returnType_subset ht)
  · obtain rfl : t = resolved := by simpa [TypeRef.erased] using ht
    exact List.mem_cons_self

theorem Parameter.types_declared_subset (p : Parameter) : p.declared.types ⊆ p.method.types := by
  intro t ht
  have hmem : p.declared ∈ p.method.parameters := List.get_mem _ _
  exact List.mem_cons_of_mem _ (List.mem_flatMap.2 ⟨_, List.mem_cons_of_mem _ hmem, ht⟩)

theorem Site.types_declared_subset (site : Site) : site.declared.types ⊆ site.types :=
  List.subset_append_left _ _

theorem Site.types_value_subset {site : Site} {v : Value} (h : site.value = some v) :
    v.types ⊆ site.types := fun _ ht =>
  List.mem_append_right _ (List.mem_flatMap.2 ⟨v, Option.mem_toList.2 h, ht⟩)

/-- The site of a parameter mentions what the question does. -/
theorem Parameter.types_site_subset (p : Parameter) :
    p.site.types ⊆ (Inquiry.parameter p).types := by
  intro t ht
  have ht : t ∈ p.declared.types := by simpa [Site.types, Parameter.site] using ht
  exact p.types_declared_subset ht

/-- So does the site of a return type. -/
theorem Method.types_returnSite_subset (m : Method) (resolved : TypeId) (v : Option Value) :
    (m.returnSite resolved v).types ⊆ (Inquiry.returned m resolved v).types := by
  intro t ht
  rcases List.mem_append.1 ht with ht | ht
  · rcases List.mem_cons.1 (m.types_declarationOf_subset resolved ht) with rfl | ht
    · exact List.mem_cons_self
    · exact List.mem_cons_of_mem _ (List.mem_append_left _ ht)
  · refine List.mem_cons_of_mem _ (List.mem_append_right _ ?_)
    obtain ⟨w, hw, ht⟩ := List.mem_flatMap.1 ht
    rw [Option.mem_toList] at hw
    exact List.mem_flatMap.2 ⟨w, Option.mem_toList.2 (Option.eq_some_of_filter_eq_some hw), ht⟩

section Known

variable {known : List TypeId}

/-- The head of a reference is mentioned, or it is the top type. -/
theorem TypeRef.rawOrObject_mem {r : TypeRef} (hr : r.types ⊆ known)
    (hobject : TypeId.object ∈ known) : r.rawOrObject ∈ known := by
  rw [rawOrObject]
  cases hraw : r.raw? with
  | none => exact hobject
  | some t => exact hr (mem_types_of_raw? hraw)

theorem TypeRef.argOrObject_mem {r : TypeRef} (hr : r.types ⊆ known)
    (hobject : TypeId.object ∈ known) (i : Nat) : r.argOrObject i ∈ known := by
  rw [argOrObject]
  cases harg : (r.arg? i).bind raw? with
  | none => exact hobject
  | some t =>
    obtain ⟨a, ha, hraw⟩ := Option.bind_eq_some_iff.1 harg
    exact hr (types_subset_of_mem_args (List.mem_of_getElem? ha) (mem_types_of_raw? hraw))

/-- A question by the declared return type mentions what the method and the value do, and perhaps
the top type. -/
theorem Inquiry.types_methodReturn_subset {m : Method} {v : Option Value}
    (hobject : TypeId.object ∈ known) (hm : m.types ⊆ known)
    (hv : ∀ w ∈ v, w.types ⊆ known) : (Inquiry.methodReturn m v).types ⊆ known := by
  have hreturn := List.Subset.trans m.types_returnType_subset hm
  intro t ht
  rcases List.mem_cons.1 ht with rfl | ht
  · exact TypeRef.rawOrObject_mem hreturn hobject
  · rcases List.mem_append.1 ht with ht | ht
    · exact hm ht
    · obtain ⟨w, hw, ht⟩ := List.mem_flatMap.1 ht
      exact hv w (Option.mem_toList.1 hw) ht

end Known

/-! ## Derivations -/

/-- The type that a namesake mentions. -/
def Namesake.mentioned : Namesake → TypeId
  | declared t => t
  | runtime k => k.mentioned

/-- The types that a derivation mentions. -/
def Derivation.types : Derivation → List TypeId
  | single n => [n.mentioned]
  | plural n => [n.mentioned]
  | wrapped element wrapper => [element, wrapper]

/-- The class that the value at a site tells is mentioned at the site. -/
theorem Site.mentioned_classInValue {site : Site} {k : RuntimeClass}
    (h : ElementSource.classInValue site = .ok k) : k.mentioned ∈ site.types := by
  rw [ElementSource.classInValue] at h
  split at h
  · cases h
  · rename_i c hc
    split at h
    · cases h
    · obtain ⟨v, hv, hcontainer⟩ := Option.bind_eq_some_iff.1 hc
      have hfirst := Container.mentioned_mem_types (mapError_eq_ok_iff.1 h)
      refine Site.types_value_subset hv ?_
      cases v <;> cases hcontainer
      rw [Value.types_collection]
      exact List.mem_cons_of_mem _ hfirst

namespace TypeStore

variable {s : TypeStore}

theorem types_ofValue_subset {v : Value} (hv : v.types ⊆ s.known) {d : Derivation}
    (hd : Derivation.ofValue s v = .ok d) : d.types ⊆ s.known := by
  cases v with
  | null => cases hd
  | object t =>
    cases hd
    simpa [Derivation.types, Namesake.mentioned, RuntimeClass.mentioned] using hv
  | array c elements =>
    cases hd
    simpa [Derivation.types, Namesake.mentioned] using hv List.mem_cons_self
  | collection t c =>
    rw [Value.types_collection] at hv
    rw [Derivation.ofValue] at hd
    split at hd
    · cases hd
    · obtain ⟨k, hk, rfl⟩ := map_eq_ok_iff.1 hd
      have hfirst := Container.mentioned_mem_types (mapError_eq_ok_iff.1 hk)
      simpa [Derivation.types, Namesake.mentioned] using hv (List.mem_cons_of_mem _ hfirst)

theorem mentioned_findElement (hclosed : s.Closed) {site : Site} (hsite : site.types ⊆ s.known)
    {unresolved : Diagnostic} {sources : List ElementSource} {m : Namesake}
    (hm : findElement s site unresolved sources = .ok m) : m.mentioned ∈ s.known := by
  induction sources with
  | nil => cases hm
  | cons source sources ih =>
    rw [findElement] at hm
    split at hm
    · cases hm
    · rename_i m' hfind
      obtain rfl := Except.ok.inj hm
      cases source with
      | declaration =>
        obtain ⟨e, he, rfl⟩ := Option.map_eq_some_iff.1 (Except.ok.inj hfind)
        exact hclosed.elementType?_mem_known (List.Subset.trans site.types_declared_subset hsite) he
      | value =>
        obtain ⟨k, hk, heq⟩ := map_eq_ok_iff.1 hfind
        obtain rfl := Option.some.inj heq
        exact hsite (Site.mentioned_classInValue hk)
    · exact ih hm

theorem types_ofDeclaration_subset (hclosed : s.Closed) (hobject : .object ∈ s.known) {site : Site}
    (hsite : site.types ⊆ s.known) {resolved : TypeId} (hresolved : resolved ∈ s.known)
    {r : AdapterRegistry} {sources : List ElementSource} {unresolved : Diagnostic} {d : Derivation}
    (hd : Derivation.ofDeclaration s r site resolved sources unresolved = .ok d) :
    d.types ⊆ s.known := by
  rcases ofDeclaration_cases s r site resolved sources unresolved with
    ⟨c, hc, hroute⟩ | ⟨-, -, hroute⟩ | ⟨-, -, hroute⟩ <;> rw [hroute] at hd
  · cases hd
    simpa [Derivation.types, Namesake.mentioned] using hclosed.component hc
  · obtain ⟨m, hm, rfl⟩ := map_eq_ok_iff.1 hd
    simpa [Derivation.types] using mentioned_findElement hclosed hsite hm
  · split at hd
    · cases hd
      have hargument :=
        TypeRef.argOrObject_mem (List.Subset.trans site.types_declared_subset hsite) hobject 0
      simpa [Derivation.types] using ⟨hargument, hresolved⟩
    · cases hd
      simpa [Derivation.types, Namesake.mentioned] using hresolved

/-- **The derivation of a name mentions known types only, if the question does.** -/
theorem types_derive_subset (hclosed : s.Closed) (hobject : .object ∈ s.known) {q : Inquiry}
    (hq : q.types ⊆ s.known) {r : AdapterRegistry} {d : Derivation}
    (hd : q.derive s r = .ok d) : d.types ⊆ s.known := by
  cases q with
  | value v => exact types_ofValue_subset hq hd
  | parameter p =>
    have hdeclared := List.Subset.trans p.types_declared_subset hq
    exact types_ofDeclaration_subset hclosed hobject (List.Subset.trans p.types_site_subset hq)
      (TypeRef.rawOrObject_mem hdeclared hobject) hd
  | returned m resolved v =>
    have hsite := List.Subset.trans (m.types_returnSite_subset resolved v) hq
    rw [Inquiry.derive] at hd
    split at hd
    · split at hd
      · cases hd
      · rename_i w hw
        exact types_ofValue_subset (List.Subset.trans (Site.types_value_subset hw) hsite) hd
    · exact types_ofDeclaration_subset hclosed hobject hsite (hq List.mem_cons_self) hd

end TypeStore
end VariableNaming
