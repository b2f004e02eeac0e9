import VariableNaming.Identifier
import VariableNaming.Letter.FullForm
import VariableNaming.Proofs.Letter.CaseImage

/-!
# Small first letters

A name gets a small first letter unless it starts with an acronym, which is asked of its first two
letters.  The second time the first of them may be another letter, and the question is asked anew.
Whatever the answer is, nothing changes: a lower-case form has no other lower-case form.

* `StartsWithAcronym` — the first two letters are both upper case.
* `decapitalizeChars_eq_self_iff` — which names are left as they are.
* `decapitalizeChars_decapitalizeChars` — the others are such names afterwards.
* `decapitalize_firstOnly` — at most the first letter changes, and only the first time.
-/

set_option autoImplicit false

namespace VariableNaming
namespace Identifier

open Letter

/-- The text begins with two upper-case letters. -/
def StartsWithAcronym : List Char → Prop
  | c :: d :: _ => isUppercase c = true ∧ isUppercase d = true
  | _ => False

theorem decapitalizeChars_of_acronym {cs : List Char} (h : StartsWithAcronym cs) :
    decapitalizeChars cs = cs := by
  match cs, h with
  | c :: d :: cs, h =>
    rw [decapitalizeChars, if_pos (Bool.and_eq_true_iff.2 h)]

theorem decapitalizeChars_of_not_acronym {c : Char} {cs : List Char}
    (h : ¬ StartsWithAcronym (c :: cs)) : decapitalizeChars (c :: cs) = lowerForm c :: cs := by
  match cs, h with
  | [], _ => rfl
  | d :: cs, h =>
    rw [decapitalizeChars, if_neg fun hupper => h (Bool.and_eq_true_iff.1 hupper)]

/-- The letters that stay when they are put in lower case. -/
theorem lowerForm_eq_self_iff {c : Char} : lowerForm c = c ↔ ∀ d, fullLower c = [d] → d = c := by
  rw [lowerForm_eq_oneForOne, oneForOne_eq_self_iff]

/-- A text stays just if it starts with an acronym, or with a letter that has no other lower-case
form of one character. -/
theorem decapitalizeChars_eq_self_iff {cs : List Char} :
    decapitalizeChars cs = cs ↔
      StartsWithAcronym cs ∨ ∀ c ∈ cs.head?, ∀ d, fullLower c = [d] → d = c := by
  by_cases hacronym : StartsWithAcronym cs
  · exact iff_of_true (decapitalizeChars_of_acronym hacronym) (Or.inl hacronym)
  · rw [or_iff_right hacronym]
    match cs, hacronym with
    | [], _ => simp [decapitalizeChars]
    | c :: cs, hacronym =>
      rw [decapitalizeChars_of_not_acronym hacronym, List.head?_cons, List.cons.injEq,
        and_iff_left rfl, lowerForm_eq_self_iff]
      exact ⟨fun h _ hc => Option.some.inj hc ▸ h, fun h => h c rfl⟩

/-- The second time nothing is changed: the first letter is a lower-case form already, unless it was
left as it is because of an acronym, which is still there. -/
theorem decapitalizeChars_decapitalizeChars (cs : List Char) :
    decapitalizeChars (decapitalizeChars cs) = decapitalizeChars cs := by
  by_cases hacronym : StartsWithAcronym cs
  · rw [decapitalizeChars_of_acronym hacronym, decapitalizeChars_of_acronym hacronym]
  · match cs, hacronym with
    | [], _ => rfl
    | c :: cs, hacronym =>
      rw [decapitalizeChars_of_not_acronym hacronym, decapitalizeChars_eq_self_iff]
      refine Or.inr fun c' hc' => ?_
      rw [List.head?_cons, Option.mem_some_iff] at hc'
      exact lowerForm_eq_self_iff.1 (hc' ▸ lowerForm_lowerForm c)

/-- **Decapitalization settles the first letter and leaves the others alone.**  The name keeps its
length and is the same from the second character on; a second time changes nothing; and the first
time changes nothing just if the name starts with an acronym or its first letter, if there is one,
has no other lower-case form of one character. -/
theorem decapitalize_firstOnly (name : String) :
    (decapitalize name).length = name.length ∧
      (decapitalize name).toList.drop 1 = name.toList.drop 1 ∧
      decapitalize (decapitalize name) = decapitalize name ∧
      (decapitalize name = name ↔
        StartsWithAcronym name.toList ∨
          ∀ c ∈ name.toList.head?, ∀ d, fullLower c = [d] → d = c) := by
  refine ⟨?_, ?_, ?_, ?_⟩
  · rw [← String.length_toList, ← String.length_toList, toList_decapitalize,
      length_decapitalizeChars]
  · rw [toList_decapitalize, List.drop_one, List.drop_one, tail_decapitalizeChars]
  · rw [← String.toList_inj, toList_decapitalize, toList_decapitalize,
      decapitalizeChars_decapitalizeChars]
  · rw [← String.toList_inj, toList_decapitalize, decapitalizeChars_eq_self_iff]

/-- The letter that is kept because its lower-case form is two characters. -/
example : fullLower 'İ' = ['i', '\u0307'] ∧ decapitalizeChars ['İ', 'x'] = ['İ', 'x'] := by
  decide +kernel

end Identifier
end VariableNaming
