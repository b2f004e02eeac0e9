import VariableNaming.Proofs.Derivation.Declaration
import VariableNaming.Proofs.Letter.CaseImage
import VariableNaming.Proofs.Text.LastPart
import VariableNaming.Proofs.TypeStore.ArrayChain
import VariableNaming.Proofs.TypeStore.Growth

/-!
# Separators in derived names

A qualified name has two separators, one between packages and one before nested types.  What a
variable is called after a type is the last segment of its short name and has neither.  But the name
for a wrapper ends in the whole short name of the wrapper, where the names of the types around a
nested type stand too, each with the separator of packages behind it.

* `packageSeparator_notMem_variableName?`, `nestingSeparator_notMem_variableName?` — no separator is
  left in the name for one type.
* `packageSeparator_mem_shortName?_iff` — which short names have one.
* `separators_answer` — which answers have one.  That some have is seen from a publisher that is
  declared inside another class.
-/

set_option autoImplicit false

namespace VariableNaming

/-! ## Texts -/

theorem Text.lastSegment_subset (sep : Char) (cs : List Char) : lastSegment sep cs ⊆ cs :=
  (isLastPart_lastSegment sep cs).suffix.subset

/-- A separator can only stand in a name with another one in its place if it was there before, or
the other one was. -/
theorem Text.mem_replaceChar_iff {old new : Char} {cs : List Char} :
    new ∈ replaceChar old new cs ↔ new ∈ cs ∨ old ∈ cs := by
  simp only [replaceChar, List.mem_map]
  constructor
  · rintro ⟨c, hc, heq⟩
    split at heq
    · rename_i hold
      exact Or.inr (hold ▸ hc)
    · exact Or.inl (heq ▸ hc)
  · rintro (h | h)
    · exact ⟨new, h, by simp⟩
    · exact ⟨old, h, by simp⟩

/-- The first letter does not become a character that comes before the small letters. -/
theorem Identifier.mem_of_mem_decapitalizeChars {sep : Char} (hsep : sep.toNat < 'a'.toNat)
    {cs : List Char} (h : sep ∈ decapitalizeChars cs) : sep ∈ cs := by
  have hlower : ∀ c, sep = Letter.lowerForm c → sep = c := by
    rintro c rfl
    exact (Letter.lowerForm_eq_self_or_le c).elim id fun hle => absurd hsep (Nat.not_lt.2 hle)
  fun_cases decapitalizeChars cs with
  | case1 => exact h
  | case2 c => simpa using hlower c (by simpa [decapitalizeChars] using h)
  | case3 c d cs hupper => simpa [decapitalizeChars, hupper] using h
  | case4 c d cs hupper =>
    rw [decapitalizeChars, if_neg hupper, List.mem_cons] at h
    exact List.mem_cons.2 (h.imp_left (hlower c))

namespace TypeStore

open QualifiedName

variable {s : TypeStore} {t : TypeId}

/-! ## The names of one type -/

theorem nestingSeparator_notMem_shortName? {name : String} (h : s.shortName? t = some name) :
    nestingSeparator ∉ name.toList := by
  refine shortName?_induct s (motive := fun _ name => nestingSeparator ∉ name.toList)
    (fun t _ => nestingSeparator_notMem_dotted _) (fun t c name _ ih => ?_) h
  rw [String.toList_append, List.mem_append, not_or]
  exact ⟨ih, by decide⟩

theorem packageSeparator_notMem_simpleName (s : TypeStore) (t : TypeId) :
    packageSeparator ∉ (s.simpleName t).toList := by
  rw [simpleName_eq]
  exact packageSeparator_notMem_simple _

/-- The short name of a nested or generated type shows the types around it. -/
theorem packageSeparator_mem_shortName?_iff (h : s.component? t = none) {name : String}
    (hname : s.shortName? t = some name) :
    packageSeparator ∈ name.toList ↔ nestingSeparator ∈ (s.simpleName t).toList := by
  obtain rfl := Option.some.inj ((shortName?_of_component?_eq_none h).symm.trans hname)
  rw [toList_dotted, Text.mem_replaceChar_iff, or_iff_right (packageSeparator_notMem_simpleName s t)]

theorem packageSeparator_notMem_variableName? {name : String} (h : s.variableName? t = some name) :
    packageSeparator ∉ name.toList := by
  obtain ⟨short, -, rfl⟩ := Option.map_eq_some_iff.1 h
  intro hmem
  rw [Identifier.toList_decapitalize] at hmem
  exact packageSeparator_notMem_simple _ (Identifier.mem_of_mem_decapitalizeChars (by decide) hmem)

theorem nestingSeparator_notMem_variableName? {name : String} (h : s.variableName? t = some name) :
    nestingSeparator ∉ name.toList := by
  obtain ⟨short, hshort, rfl⟩ := Option.map_eq_some_iff.1 h
  intro hmem
  rw [Identifier.toList_decapitalize] at hmem
  have hsimple := Identifier.mem_of_mem_decapitalizeChars (by decide) hmem
  rw [toList_simple] at hsimple
  exact nestingSeparator_notMem_shortName? hshort (Text.lastSegment_subset _ _ hsimple)

/-! ## Answers -/

theorem notMem_pluralize {sep : Char} (h : sep ∉ Identifier.pluralEnding.toList) {name : String}
    (hname : sep ∉ name.toList) : sep ∉ (Identifier.pluralize name).toList := by
  rw [Identifier.pluralize, String.toList_append, List.mem_append, not_or]
  exact ⟨hname, h⟩

theorem nestingSeparator_notMem_write {d : Derivation} {name : String}
    (h : (d.write s).1 = some name) : nestingSeparator ∉ name.toList := by
  cases d with
  | single n => exact nestingSeparator_notMem_variableName? h
  | plural n =>
    obtain ⟨one, hone, rfl⟩ := Option.map_eq_some_iff.1 h
    exact notMem_pluralize (by decide) (nestingSeparator_notMem_variableName? hone)
  | wrapped element wrapper =>
    obtain ⟨inner, outer, hinner, houter, rfl⟩ := wrappedName?_eq_some_iff.1 h
    rw [String.toList_append, List.mem_append, not_or]
    exact ⟨nestingSeparator_notMem_variableName? hinner, nestingSeparator_notMem_shortName? houter⟩

/-- Only the name for a wrapper can have the separator of packages in it. -/
theorem packageSeparator_mem_write_iff {d : Derivation} {name : String}
    (h : (d.write s).1 = some name) :
    packageSeparator ∈ name.toList ↔
      ∃ element wrapper outer, d = .wrapped element wrapper ∧ s.shortName? wrapper = some outer ∧
        packageSeparator ∈ outer.toList := by
  cases d with
  | single n =>
    have hnone := packageSeparator_notMem_variableName? h
    simp [hnone]
  | plural n =>
    obtain ⟨one, hone, rfl⟩ := Option.map_eq_some_iff.1 h
    have hnone : packageSeparator ∉ (Identifier.pluralize one).toList :=
      notMem_pluralize (by decide) (packageSeparator_notMem_variableName? hone)
    simp [hnone]
  | wrapped element wrapper =>
    obtain ⟨inner, outer, hinner, houter, rfl⟩ := wrappedName?_eq_some_iff.1 h
    rw [String.toList_append, List.mem_append,
      or_iff_right (packageSeparator_notMem_variableName? hinner)]
    constructor
    · exact fun hmem => ⟨element, wrapper, outer, rfl, houter, hmem⟩
    · rintro ⟨_, _, _, heq, houter', hmem⟩
      cases heq
      obtain rfl := Option.some.inj (houter.symm.trans houter')
      exact hmem

/-- **Which derived names have separators in them.**  None has the separator of nested types.  Just
those names have the separator of packages which are asked for a declared wrapper that looks nested:
its simple name has the separator of nested types in it. -/
theorem separators_answer (s : TypeStore) (r : AdapterRegistry) (q : Inquiry) (name : String)
    (h : (q.answer s r).answer = .ok (some name)) :
    nestingSeparator ∉ name.toList ∧
      (packageSeparator ∈ name.toList ↔
        ∃ wrapper, q.declaredType? = some wrapper ∧ s.Wraps r wrapper ∧
          nestingSeparator ∈ (s.simpleName wrapper).toList) := by
  rw [answer_answer, map_eq_ok_iff] at h
  obtain ⟨d, hd, hname⟩ := h
  refine ⟨nestingSeparator_notMem_write hname, ?_⟩
  rw [packageSeparator_mem_write_iff hname]
  constructor
  · rintro ⟨element, wrapper, outer, rfl, houter, hdot⟩
    obtain ⟨hdeclared, hwraps⟩ := exists_derive_eq_wrapped_iff.1 ⟨element, hd⟩
    exact ⟨wrapper, hdeclared, hwraps,
      (packageSeparator_mem_shortName?_iff hwraps.component?_eq_none houter).1 hdot⟩
  · rintro ⟨wrapper, hdeclared, hwraps, hdollar⟩
    obtain ⟨element, helement⟩ := exists_derive_eq_wrapped_iff.2 ⟨hdeclared, hwraps⟩
    have houter := shortName?_of_component?_eq_none hwraps.component?_eq_none
    exact ⟨element, wrapper, _, Except.ok.inj (hd.symm.trans helement), houter,
      (packageSeparator_mem_shortName?_iff hwraps.component?_eq_none houter).2 hdollar⟩

/-- A product, and a publisher of values inside the class of all publishers. -/
def publisherStore : TypeStore :=
  initial.run [
    .register (.ofClass "com.app.Product"),
    .register (.ofClass "reactor.Publishers"),
    .register { TypeInfo.ofClass "reactor.Publishers$Mono" with
      paramCount := 1, declaring := some ⟨3⟩ }]

/-- The registry of that publisher. -/
def publisherRegistry : AdapterRegistry := AdapterRegistry.empty.register ⟨4⟩ .singleValue

/-- What is asked for a method that takes a publisher of products. -/
def publisherInquiry : Inquiry :=
  .parameter ⟨.ofMethod ⟨2⟩ "handle" [.concrete ⟨4⟩ [.erased ⟨2⟩]] none, 0, by decide⟩

/-- The publisher is called by its short name, in which the class around it stands. -/
theorem answer_publisherInquiry :
    (publisherInquiry.answer publisherStore publisherRegistry).answer =
      .ok (some "productPublishers.Mono") := by
  have hbreadth : publisherStore.hierarchy.breadthFirst ⟨4⟩ = [⟨4⟩, .object] := by
    have hnext : publisherStore.hierarchy.fresh [⟨4⟩] [⟨4⟩] = [.object] := by decide
    have hlast : publisherStore.hierarchy.fresh ([.object] ++ [⟨4⟩]) [.object] = [] := by decide
    rw [Digraph.breadthFirst, Digraph.levelsFrom, hnext, if_neg (by simp), Digraph.levelsFrom,
      if_pos hlast]
    rfl
  have hlike : publisherStore.isCollectionLike ⟨4⟩ = false := by
    rw [isCollectionLike, hbreadth]
    decide
  have hunwraps : publisherRegistry.unwraps publisherStore ⟨4⟩ = true := by
    rw [AdapterRegistry.unwraps, AdapterRegistry.nearest?, hbreadth]
    decide
  have hderive : publisherInquiry.derive publisherStore publisherRegistry =
      .ok (.wrapped ⟨2⟩ ⟨4⟩) := by
    have hscalar := ofDeclaration_of_scalar publisherRegistry
      ⟨.concrete ⟨4⟩ [.erased ⟨2⟩], none, .parameter, "handle#0"⟩ ElementSource.ofParameter
      .untypedParameter (by decide : publisherStore.component? ⟨4⟩ = none) hlike
    rw [if_pos hunwraps] at hscalar
    exact hscalar
  have hproduct : publisherStore.variableName? ⟨2⟩ = some "product" := by
    rw [variableName?_of_component?_eq_none (by decide)]
    decide +kernel
  have hpublisher : publisherStore.shortName? ⟨4⟩ = some "Publishers.Mono" := by
    rw [shortName?_of_component?_eq_none (by decide)]
    decide
  rw [answer_answer, hderive]
  exact congrArg Except.ok (wrappedName?_eq_some_iff.2 ⟨_, _, hproduct, hpublisher, by decide⟩)

/-- The separator in the name for a nested publisher is the one between packages. -/
theorem separators_nestedPublisher :
    (publisherInquiry.answer publisherStore publisherRegistry).answer =
        .ok (some "productPublishers.Mono") ∧
      nestingSeparator ∉ "productPublishers.Mono".toList ∧
        ∃ wrapper, publisherInquiry.declaredType? = some wrapper ∧
          publisherStore.Wraps publisherRegistry wrapper ∧
            nestingSeparator ∈ (publisherStore.simpleName wrapper).toList := by
  obtain ⟨hnesting, hpackage⟩ := separators_answer publisherStore publisherRegistry
    publisherInquiry "productPublishers.Mono" answer_publisherInquiry
  exact ⟨answer_publisherInquiry, hnesting, hpackage.1 (by decide)⟩

/-- That name has a separator in it. -/
theorem packageSeparator_mem_answer_publisherInquiry :
    (publisherInquiry.answer publisherStore publisherRegistry).answer =
        .ok (some "productPublishers.Mono") ∧
      packageSeparator ∈ "productPublishers.Mono".toList :=
  ⟨answer_publisherInquiry, by decide⟩

end TypeStore
end VariableNaming
