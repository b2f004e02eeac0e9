import VariableNaming.TypeStore.Hierarchy

/-!
# The element type of a declared collection

A declaration such as `ProductList`, a class that implements `List<Product>`, tells the type of its
elements through its supertypes.  The search goes from the declared reference to its supertypes, the
superclass before the interfaces and each to its end before the next, and puts the arguments of a
reference in place of the type parameters that its supertypes mention.  A root of the collections
ends the way: the element type is its first argument.

* `superRefs` — the supertypes of a reference.
* `visits` — the references that the search comes by, in order.  No type is visited twice.
* `rootElement?` — what a reference tells about the elements by itself.
* `elementType?` — the answer of the search.
-/

set_option autoImplicit false

namespace VariableNaming
namespace TypeStore

/-- Whether a type is a root of the collections. -/
def isCollectionRoot (s : TypeStore) (t : TypeId) : Bool := (s.marks t).collection

/-- The supertypes of a reference, with its arguments in place of the parameters.  There are none to
follow for a root of the collections, nor for a type that is not known. -/
def superRefs (s : TypeStore) (r : TypeRef) : List TypeRef :=
  match r.raw?.bind s.get? with
  | none => []
  | some info =>
    if info.marks.collection then [] else info.supertypes.map (TypeRef.substitute r.args)

/-- The first argument of a root of the collections, if it is concrete. -/
def rootElement? (s : TypeStore) (r : TypeRef) : Option TypeId :=
  match r.raw? with
  | none => none
  | some raw => if s.isCollectionRoot raw then (r.arg? 0).bind TypeRef.raw? else none

theorem superRefs_eq_nil_of_notMem_known {s : TypeStore} {raw : TypeId} (h : raw ∉ s.known)
    (args : List TypeRef) : s.superRefs (.concrete raw args) = [] := by
  simp [superRefs, get?_eq_none_of_notMem_known h]

/-- The references visited from a list of references still to be visited, when the types in `seen`
have been visited.  The supertypes of a reference go before all that was waiting. -/
def visitsFrom (s : TypeStore) (seen : List TypeId) : List TypeRef → List TypeRef
  | [] => []
  | .param _ :: rest => visitsFrom s seen rest
  | .unbound :: rest => visitsFrom s seen rest
  | .concrete raw args :: rest =>
    if raw ∈ seen then visitsFrom s seen rest
    else
      .concrete raw args ::
        visitsFrom s (raw :: seen) (s.superRefs (.concrete raw args) ++ rest)
termination_by pending => (s.hierarchy.unseen seen, pending.length)
decreasing_by
  · exact Prod.Lex.right _ (Nat.lt_succ_self _)
  · exact Prod.Lex.right _ (Nat.lt_succ_self _)
  · exact Prod.Lex.right _ (Nat.lt_succ_self _)
  · rename_i hraw
    have hsub : seen ⊆ raw :: seen := List.subset_cons_self _ _
    by_cases hknown : raw ∈ s.known
    · exact Prod.Lex.left _ _ (s.hierarchy.unseen_lt hsub hknown hraw List.mem_cons_self)
    · rw [superRefs_eq_nil_of_notMem_known hknown, List.nil_append]
      rcases Nat.lt_or_eq_of_le (s.hierarchy.unseen_le hsub) with hlt | heq
      · exact Prod.Lex.left _ _ hlt
      · rw [heq]
        exact Prod.Lex.right _ (Nat.lt_succ_self _)

/-- The references that the search from a declaration visits, in order. -/
def visits (s : TypeStore) (declared : TypeRef) : List TypeRef := s.visitsFrom [] [declared]

/-- The type of the elements of a declared collection.  There is none if no root of the collections
is visited, or only roots whose first argument is missing, a parameter or unknown. -/
def elementType? (s : TypeStore) (declared : TypeRef) : Option TypeId :=
  (s.visits declared).findSome? s.rootElement?

end TypeStore
end VariableNaming
