import VariableNaming.Proofs.Derivation.Plural

/-!
# What is seen of a collection

Of a collection a question sees its type, what it reports about being empty, and the head of the
first element that it yields.  The other elements, what is inside the first one, and how the
container was made have no part in the answer, nor in the store that is left.

* `Value.SameHead`, `SameFirst` — values with equal heads, and lists that begin alike.
* `firstClass_eq_of_sameFirst` — containers that begin alike show the same class.
* `findElement_congr_site`, `ofDeclaration_congr_site` — what a declaration sees of a value.
* `Value.AnsweredAlike` — two values that no question tells apart.
* `answeredAlike_of_sameFirst` — **only the head of the first element counts.**
-/

set_option autoImplicit false

namespace VariableNaming

/-! ## Equal heads -/

/-- The values have equal heads: both are the null value, objects of one type, arrays over one
component or collections of one type.  What is inside an array or a collection may differ. -/
inductive Value.SameHead : Value → Value → Prop
  | null : SameHead .null .null
  | object (t : TypeId) : SameHead (.object t) (.object t)
  | array (c : TypeId) (es es' : List Value) : SameHead (.array c es) (.array c es')
  | collection (t : TypeId) (c c' : Container Value) :
      SameHead (.collection t c) (.collection t c')

/-- Both lists are empty, or their first items have equal heads. -/
inductive SameFirst : List Value → List Value → Prop
  | nil : SameFirst [] []
  | cons {v v' : Value} (h : v.SameHead v') (vs vs' : List Value) :
      SameFirst (v :: vs) (v' :: vs')

theorem Value.SameHead.runtimeClass?_eq {v v' : Value} (h : v.SameHead v') :
    v.runtimeClass? = v'.runtimeClass? := by
  cases h <;> rfl

/-- Lists that begin alike are both empty or both not. -/
theorem SameFirst.isEmpty_eq {vs vs' : List Value} (h : SameFirst vs vs') :
    vs.isEmpty = vs'.isEmpty := by
  cases h <;> rfl

/-- A container shows the class of its first element, and nothing more of it. -/
theorem firstClass_eq_of_sameFirst {c c' : Container Value} (h : SameFirst c.items c'.items) :
    c.firstClass = c'.firstClass := by
  obtain ⟨reports, vs⟩ := c
  obtain ⟨reports', vs'⟩ := c'
  cases (show SameFirst vs vs' from h) with
  | nil => rfl
  | cons hv vs vs' => simp only [Container.firstClass, List.head?_cons, hv.runtimeClass?_eq]

/-- A deque is a vector with what was pushed in front, the last one first. -/
theorem Container.foldl_pushFront {α : Type} (front items : List α) :
    front.foldl pushFront (ofList items) = ofList (front.reverse ++ items) := by
  induction front generalizing items with
  | nil => rfl
  | cons a front ih =>
    rw [List.foldl_cons, pushFront_ofList, ih, List.reverse_cons, List.append_assoc]
    rfl

/-! ## What a declaration sees of a value -/

section Sites

variable {s : TypeStore} {site site' : Site} (hdeclared : site.declared = site'.declared)
  (herror : site.error = site'.error)
  (hclass : ElementSource.classInValue site = ElementSource.classInValue site')

include hdeclared herror hclass

/-- The sources see the declaration, and the class that the value tells of its elements. -/
theorem findElement_congr_site (unresolved : Diagnostic) (sources : List ElementSource) :
    findElement s site unresolved sources = findElement s site' unresolved sources := by
  have hfind (source : ElementSource) : source.find s site = source.find s site' := by
    cases source with
    | declaration => rw [ElementSource.find, ElementSource.find, hdeclared]
    | value => rw [ElementSource.find, ElementSource.find, hclass]
  induction sources with
  | nil => rw [findElement, findElement, herror]
  | cons source sources ih => rw [findElement, findElement, hfind, ih]

/-- A declaration sees no more than that, on whichever route. -/
theorem ofDeclaration_congr_site (r : AdapterRegistry) (t : TypeId)
    (sources : List ElementSource) (unresolved : Diagnostic) :
    Derivation.ofDeclaration s r site t sources unresolved =
      Derivation.ofDeclaration s r site' t sources unresolved := by
  rw [Derivation.ofDeclaration, Derivation.ofDeclaration, hdeclared,
    findElement_congr_site hdeclared herror hclass]

end Sites

/-! ## Derivations -/

section Collections

variable {s : TypeStore} {c c' : Container Value} (hreports : c.reportsEmpty = c'.reportsEmpty)
  (hfirst : SameFirst c.items c'.items) (t : TypeId)

include hreports hfirst

theorem ofValue_congr_first :
    Derivation.ofValue s (.collection t c) = Derivation.ofValue s (.collection t c') := by
  rw [Derivation.ofValue, Derivation.ofValue, hreports, firstClass_eq_of_sameFirst hfirst]

theorem derive_returned_congr_first (r : AdapterRegistry) (m : Method) (resolved : TypeId) :
    (Inquiry.returned m resolved (some (.collection t c))).derive s r =
      (Inquiry.returned m resolved (some (.collection t c'))).derive s r := by
  by_cases hobject : resolved = .object
  · subst hobject
    rw [Inquiry.derive_returned_object_of_value s r m (by simp),
      Inquiry.derive_returned_object_of_value s r m (by simp), ofValue_congr_first hreports hfirst]
  · have hclass : ElementSource.classInValue (m.returnSite resolved (some (.collection t c))) =
        ElementSource.classInValue (m.returnSite resolved (some (.collection t c'))) := by
      show (if c.reportsEmpty then _ else c.firstClass.mapError _) =
        if c'.reportsEmpty then _ else c'.firstClass.mapError _
      rw [hreports, firstClass_eq_of_sameFirst hfirst]
      rfl
    rw [Inquiry.derive_returned_of_ne_object s r m hobject,
      Inquiry.derive_returned_of_ne_object s r m hobject]
    exact ofDeclaration_congr_site (by rfl) (by rfl) hclass r resolved _ _

end Collections

/-! ## Answers -/

/-- No question that takes a value tells the two apart: it has one answer for both, and leaves one
store behind. -/
structure Value.AnsweredAlike (s : TypeStore) (r : AdapterRegistry) (v v' : Value) : Prop where
  value : (Inquiry.value v).answer s r = (Inquiry.value v').answer s r
  returned (m : Method) (resolved : TypeId) :
    (Inquiry.returned m resolved (some v)).answer s r =
      (Inquiry.returned m resolved (some v')).answer s r
  methodReturn (m : Method) :
    (Inquiry.methodReturn m (some v)).answer s r = (Inquiry.methodReturn m (some v')).answer s r

namespace TypeStore

/-- **Only the head of the first element counts.**  Two collections of one type are answered alike
if they report the same about being empty, and both yield nothing or begin with elements of equal
heads; whatever else they hold, and whatever their containers are.  Vectors, and deques onto whose
front something was pushed, tell the truth about being empty, so that it is enough for them to begin
alike. -/
theorem answeredAlike_of_sameFirst (s : TypeStore) (r : AdapterRegistry) (t : TypeId) :
    (∀ c c' : Container Value, c.reportsEmpty = c'.reportsEmpty → SameFirst c.items c'.items →
      Value.AnsweredAlike s r (.collection t c) (.collection t c')) ∧
    ∀ items items' front front' : List Value,
      SameFirst (front.reverse ++ items) (front'.reverse ++ items') →
      Value.AnsweredAlike s r
        (.collection t (front.foldl Container.pushFront (.ofList items)))
        (.collection t (front'.foldl Container.pushFront (.ofList items'))) := by
  have hcontainers (c c' : Container Value) (hreports : c.reportsEmpty = c'.reportsEmpty)
      (hfirst : SameFirst c.items c'.items) :
      Value.AnsweredAlike s r (.collection t c) (.collection t c') := by
    have hreturned (m : Method) (resolved : TypeId) :
        (Inquiry.returned m resolved (some (.collection t c))).answer s r =
          (Inquiry.returned m resolved (some (.collection t c'))).answer s r := by
      rw [Inquiry.answer, Inquiry.answer, derive_returned_congr_first hreports hfirst]
    refine ⟨?_, hreturned, fun m => hreturned m m.rawReturnType⟩
    rw [Inquiry.answer, Inquiry.answer, Inquiry.derive, Inquiry.derive,
      ofValue_congr_first hreports hfirst]
  refine ⟨hcontainers, fun items items' front front' hfirst => ?_⟩
  rw [Container.foldl_pushFront, Container.foldl_pushFront]
  exact hcontainers _ _ hfirst.isEmpty_eq hfirst

/-- A deque of a product onto which first the null value and then an array of products was pushed.
-/
def pushedDeque : Container Value :=
  [.null, .array ⟨3⟩ [.object ⟨3⟩]].foldl Container.pushFront (.ofList [.object ⟨3⟩])

/-- The deque, a vector that begins with an empty array of products, and a container that has such
an array only are answered alike, whatever is asked; and so are two that begin with the null value,
although they report no elements. -/
theorem answeredAlike_pushedDeque :
    SameFirst pushedDeque.items [.array ⟨3⟩ [], .collection ⟨2⟩ (.ofList [])] ∧
      Value.AnsweredAlike (initial.run stockRun) .empty (.collection ⟨2⟩ pushedDeque)
        (.collection ⟨2⟩ (.ofList [.array ⟨3⟩ [], .collection ⟨2⟩ (.ofList [])])) ∧
      Value.AnsweredAlike (initial.run stockRun) .empty (.collection ⟨2⟩ pushedDeque)
        (.collection ⟨2⟩ ⟨false, [.array ⟨3⟩ [.null]]⟩) ∧
      Value.AnsweredAlike (initial.run stockRun) .empty (.collection ⟨2⟩ ⟨true, [.null]⟩)
        (.collection ⟨2⟩ ⟨true, [.null, .object ⟨3⟩]⟩) := by
  obtain ⟨hcontainers, hhonest⟩ := answeredAlike_of_sameFirst (initial.run stockRun) .empty ⟨2⟩
  have hfirst (es vs : List Value) : SameFirst pushedDeque.items (.array ⟨3⟩ es :: vs) :=
    .cons (.array ⟨3⟩ [.object ⟨3⟩] es) [.null, .object ⟨3⟩] vs
  exact ⟨hfirst _ _, hhonest _ _ _ [] (hfirst _ _), hcontainers _ _ rfl (hfirst _ _),
    hcontainers _ _ rfl (.cons .null [] [.object ⟨3⟩])⟩

end TypeStore
end VariableNaming
