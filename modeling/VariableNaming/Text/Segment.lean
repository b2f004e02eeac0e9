/-!
# The segments of a dotted name

A qualified name is a text whose segments are divided by a separator.  `lastSegment` is what stands
after the last separator — the whole text when there is none — and `replaceChar` exchanges one
separator for another.

* `lastSegment_append_cons` — what comes before a separator does not matter.
* `lastSegment_append_of_notMem` — what holds no separator stays at the end.
* `lastSegment_eq_self` — a text without the separator is its own last segment.
* `not_mem_lastSegment` — the last segment holds no separator.
* `not_mem_replaceChar` — an exchanged separator is gone.
-/

set_option autoImplicit false

namespace VariableNaming
namespace Text

/-! ## The last segment -/

/-- The part of the text after the last `sep`; the whole text if it holds none. -/
def lastSegment (sep : Char) (cs : List Char) : List Char :=
  (cs.reverse.takeWhile (· ≠ sep)).reverse

theorem takeWhile_append_cons_of_neg {p : Char → Bool} {c : Char} (hc : ¬ p c = true)
    (as bs : List Char) : (as ++ c :: bs).takeWhile p = as.takeWhile p := by
  induction as with
  | nil => simp [hc]
  | cons a as ih => simp [List.takeWhile_cons, ih]

/-- Only what follows a separator counts. -/
theorem lastSegment_append_cons (sep : Char) (as bs : List Char) :
    lastSegment sep (as ++ sep :: bs) = lastSegment sep bs := by
  simp [lastSegment, takeWhile_append_cons_of_neg]

/-- What holds no separator stays at the end. -/
theorem lastSegment_append_of_notMem {sep : Char} {bs : List Char} (h : sep ∉ bs)
    (as : List Char) : lastSegment sep (as ++ bs) = lastSegment sep as ++ bs := by
  have hall : ∀ c ∈ bs.reverse, decide (c ≠ sep) = true := by
    intro c hc
    simp only [ne_eq, decide_eq_true_eq]
    rintro rfl
    exact h (List.mem_reverse.1 hc)
  rw [lastSegment, List.reverse_append, List.takeWhile_append_of_pos hall, List.reverse_append,
    List.reverse_reverse, lastSegment]

theorem lastSegment_eq_self {sep : Char} {cs : List Char} (h : sep ∉ cs) :
    lastSegment sep cs = cs := by
  simpa [lastSegment] using lastSegment_append_of_notMem h []

theorem not_mem_lastSegment (sep : Char) (cs : List Char) : sep ∉ lastSegment sep cs := by
  intro h
  have hall := List.all_takeWhile (p := (· ≠ sep)) (l := cs.reverse)
  have hsep := List.all_eq_true.1 hall sep (List.mem_reverse.1 h)
  simp at hsep

/-! ## Exchanging a separator -/

/-- The text with `new` wherever it had `old`. -/
def replaceChar (old new : Char) (cs : List Char) : List Char :=
  cs.map fun c => if c = old then new else c

theorem not_mem_replaceChar {old new : Char} (h : new ≠ old) (cs : List Char) :
    old ∉ replaceChar old new cs := by
  simp only [replaceChar, List.mem_map, not_exists, not_and]
  intro c _
  split <;> simp_all

theorem replaceChar_eq_self {old : Char} (new : Char) {cs : List Char} (h : old ∉ cs) :
    replaceChar old new cs = cs := by
  induction cs with
  | nil => rfl
  | cons c cs ih =>
    simp only [List.mem_cons, not_or] at h
    have hc : c ≠ old := fun he => h.1 he.symm
    simpa [replaceChar, hc] using ih h.2

end Text
end VariableNaming
