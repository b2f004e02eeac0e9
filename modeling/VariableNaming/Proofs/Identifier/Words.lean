import VariableNaming.Identifier
import VariableNaming.Letter.FullForm
import VariableNaming.Proofs.Letter.CaseImage

/-!
# The words of an attribute name

An attribute name is a row of words with a hyphen between each two of them; a word may be empty, as
it is before a hyphen at the start and between two hyphens in a row.  The name of the property is
found in one pass over the characters, with a flag for a hyphen just passed.  What the pass comes to
is said here in terms of the words.

* `joinWords_eq_of_splitOn` — the flag decides whether the first word gets a capital letter; all
  later words get one.
* `propertyOfAttribute_eq_words` — the name of a property is the first word as it is, followed by
  the later ones with capital letters.
* `propertyOfAttribute_separatorFree` — it has as many characters as the attribute name has besides
  the hyphens, none of them a hyphen, and it is its own property name.
-/

set_option autoImplicit false

namespace VariableNaming
namespace Identifier

open Letter

/-! ## Words -/

/-- A word with a capital letter, if its first letter has one of one character. -/
def capitalizeChars : List Char → List Char
  | [] => []
  | c :: cs => oneForOne c (fullUpper c) :: cs

@[simp] theorem capitalizeChars_nil : capitalizeChars [] = [] := rfl

theorem capitalizeChars_cons (c : Char) (cs : List Char) :
    capitalizeChars (c :: cs) = upperForm c :: cs := by
  rw [capitalizeChars, upperForm_eq_oneForOne]

/-- The pass over the rest of a name, told by the words of the rest: the flag is still due to the
first of them. -/
theorem joinWords_eq_of_splitOn {cs first : List Char} {later : List (List Char)}
    (h : cs.splitOn wordSeparator = first :: later) (separated : Bool) :
    joinWords separated cs =
      (if separated then capitalizeChars first else first) ++
        (later.map capitalizeChars).flatten := by
  induction cs generalizing first later separated with
  | nil =>
    rw [List.splitOn_nil] at h
    cases h
    simp [joinWords]
  | cons c cs ih =>
    obtain ⟨word, words, hwords⟩ := List.exists_cons_of_ne_nil (List.splitOn_ne_nil wordSeparator cs)
    rw [List.splitOn_cons_eq_if_modifyHead, hwords] at h
    by_cases hc : c = wordSeparator
    · -- an empty word ends here, and the next one gets a capital letter
      rw [if_pos (beq_iff_eq.2 hc)] at h
      cases h
      simp [joinWords, hc, ih hwords true]
    · -- `c` belongs to the word that goes on behind it
      rw [if_neg (by simpa using hc)] at h
      cases h
      rw [joinWords, if_neg hc, ih hwords false, capitalizeChars_cons]
      cases separated <;> simp

/-- **A property name is made of the words of the attribute name.**  The first word stands as it is;
of each later one the first letter becomes a capital letter, unless there is none of one
character. -/
theorem propertyOfAttribute_eq_words (name : String) :
    ∃ (first : List Char) (later : List (List Char)),
      name.toList.splitOn '-' = first :: later ∧
      propertyOfAttribute name = String.ofList (first ++ (later.map capitalizeChars).flatten) := by
  obtain ⟨first, later, hwords⟩ :=
    List.exists_cons_of_ne_nil (List.splitOn_ne_nil wordSeparator name.toList)
  refine ⟨first, later, hwords, ?_⟩
  rw [propertyOfAttribute_eq, joinWords_eq_of_splitOn hwords false, if_neg Bool.false_ne_true]

example : propertyOfAttribute "stra-ße--x-" = "straßeX" := by decide +kernel

/-! ## Separators -/

/-- No other character has the separator as its upper-case form. -/
theorem upperForm_ne_wordSeparator {c : Char} (h : c ≠ wordSeparator) :
    upperForm c ≠ wordSeparator := by
  rcases upperForm_eq_self_or_le c with hself | hle
  · rwa [hself]
  · intro hupper
    rw [hupper] at hle
    exact absurd hle (by decide)

theorem wordSeparator_notMem_joinWords (separated : Bool) (cs : List Char) :
    wordSeparator ∉ joinWords separated cs := by
  fun_induction joinWords separated cs with
  | case1 => exact List.not_mem_nil
  | case2 separated cs ih => exact ih
  | case3 separated c cs hc ih =>
    rw [List.mem_cons, not_or]
    refine ⟨fun heq => ?_, ih⟩
    split at heq
    · exact upperForm_ne_wordSeparator hc heq.symm
    · exact hc heq.symm

/-- Only the separators are lost. -/
theorem length_joinWords (separated : Bool) (cs : List Char) :
    (joinWords separated cs).length + cs.count wordSeparator = cs.length := by
  fun_induction joinWords separated cs with
  | case1 => rfl
  | case2 separated cs ih =>
    rw [List.count_cons_self, List.length_cons]
    omega
  | case3 separated c cs hc ih =>
    rw [List.count_cons_of_ne hc, List.length_cons, List.length_cons]
    omega

/-- **The separators are dropped and nothing else.**  A property name has as many characters as the
attribute name has besides its hyphens; there is no hyphen among them, and as the name of an
attribute it stands for itself. -/
theorem propertyOfAttribute_separatorFree (name : String) :
    (propertyOfAttribute name).length = name.length - name.toList.count '-' ∧
      name.toList.count '-' ≤ name.length ∧
      '-' ∉ (propertyOfAttribute name).toList ∧
      propertyOfAttribute (propertyOfAttribute name) = propertyOfAttribute name := by
  have hfree : wordSeparator ∉ (propertyOfAttribute name).toList := by
    rw [toList_propertyOfAttribute]
    exact wordSeparator_notMem_joinWords false name.toList
  have hlength := length_joinWords false name.toList
  rw [← toList_propertyOfAttribute, String.length_toList, String.length_toList] at hlength
  refine ⟨Nat.eq_sub_of_add_eq hlength, hlength ▸ Nat.le_add_left _ _, hfree, ?_⟩
  exact if_neg hfree

end Identifier
end VariableNaming
