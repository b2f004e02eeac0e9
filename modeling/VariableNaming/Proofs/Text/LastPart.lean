import VariableNaming.Text.Segment

/-!
# The last part of a text

`Text.lastSegment` finds the last segment of a text by a search from its end, for one separator.
Here the last part is described without a search, and for any set of separators.

* `IsLastPart` — what stands behind the last separator; the whole text if there is none.
* `IsLastPart.unique` — a text has no two last parts.
* `isLastPart_lastSegment` — the search finds it.
* `IsLastPart.trans` — to cut at the last separator of one set, and what is left at the last one of
  another, is to cut at the last separator of both sets together.
* `IsLastPart.replaceChar`, `lastSegment_replaceChar` — a separator may be exchanged before the cut.
-/

set_option autoImplicit false

namespace VariableNaming
namespace Text

/-- The part of a text behind its last separator, or the whole text if it holds no separator. -/
inductive IsLastPart (sep : Char → Prop) : List Char → List Char → Prop
  | whole {cs : List Char} (h : ∀ c ∈ cs, ¬ sep c) : IsLastPart sep cs cs
  | behind (before : List Char) {c : Char} {part : List Char} (hc : sep c)
      (h : ∀ d ∈ part, ¬ sep d) : IsLastPart sep (before ++ c :: part) part

namespace IsLastPart

variable {p q : Char → Prop} {cs part part' : List Char}

theorem free (h : IsLastPart p cs part) : ∀ c ∈ part, ¬ p c := by
  cases h with
  | whole h => exact h
  | behind _ _ h => exact h

theorem suffix (h : IsLastPart p cs part) : part <:+ cs := by
  cases h with
  | whole _ => exact List.suffix_refl _
  | behind before _ _ => exact (List.suffix_cons _ _).trans (List.suffix_append _ _)

/-- An end of the text without separators lies within the last part. -/
theorem suffix_of_free (h : IsLastPart p cs part) {rest : List Char} (hrest : rest <:+ cs)
    (hfree : ∀ c ∈ rest, ¬ p c) : rest <:+ part := by
  cases h with
  | whole _ => exact hrest
  | @behind before c part hc _ =>
    have hc_rest : c ∉ rest := fun hmem => hfree c hmem hc
    rcases List.suffix_or_suffix_of_suffix hrest (List.suffix_append before (c :: part)) with
      hin | hout
    · rcases List.suffix_cons_iff.1 hin with rfl | hin
      · exact absurd List.mem_cons_self hc_rest
      · exact hin
    · exact absurd (hout.subset List.mem_cons_self) hc_rest

theorem unique (h : IsLastPart p cs part) (h' : IsLastPart p cs part') : part = part' :=
  (h'.suffix_of_free h.suffix h.free).eq_of_length_le (h.suffix_of_free h'.suffix h'.free).length_le

/-- Two cuts are one cut at the separators of both. -/
theorem trans (h : IsLastPart p cs part) (h' : IsLastPart q part part') :
    IsLastPart (fun c => p c ∨ q c) cs part' := by
  have hfree : ∀ c ∈ part', ¬ (p c ∨ q c) := fun c hc =>
    not_or.2 ⟨h.free c (h'.suffix.subset hc), h'.free c hc⟩
  cases h' with
  | whole _ =>
    cases h with
    | whole _ => exact .whole hfree
    | behind before hc _ => exact .behind before (Or.inl hc) hfree
  | @behind middle d part' hd _ =>
    cases h with
    | whole _ => exact .behind middle (Or.inr hd) hfree
    | @behind before c _ hc _ =>
      rw [← List.cons_append, ← List.append_assoc]
      exact .behind _ (Or.inr hd) hfree

/-- With one separator written in place of another the last cut is the same. -/
theorem replaceChar {old new : Char} (h : IsLastPart (fun c => c = new ∨ c = old) cs part) :
    IsLastPart (· = new) (Text.replaceChar old new cs) part := by
  have hold : old ∉ part := fun hmem => h.free old hmem (Or.inr rfl)
  have hnew : ∀ c ∈ part, ¬ c = new := fun c hmem hc => h.free c hmem (Or.inl hc)
  cases h with
  | whole _ =>
    rw [replaceChar_eq_self new hold]
    exact .whole hnew
  | @behind before c _ hc _ =>
    have hsplit : Text.replaceChar old new (before ++ c :: part) =
        Text.replaceChar old new before ++ new :: part := by
      have hpart := replaceChar_eq_self new hold
      simp only [Text.replaceChar] at hpart ⊢
      rcases hc with rfl | rfl <;> simp [hpart]
    rw [hsplit]
    exact .behind _ rfl hnew

end IsLastPart

/-- The last segment is the last part for a single separator. -/
theorem isLastPart_lastSegment (sep : Char) (cs : List Char) :
    IsLastPart (· = sep) cs (lastSegment sep cs) := by
  have hfree : ∀ c ∈ lastSegment sep cs, ¬ c = sep := by
    rintro c hc rfl
    exact not_mem_lastSegment c cs hc
  by_cases hsep : sep ∈ cs
  · obtain ⟨behind, before, hcs, hbehind⟩ :=
      List.eq_append_cons_of_mem (List.mem_reverse.2 hsep)
    -- the first separator from the end divides the text
    have hsplit : cs = before.reverse ++ sep :: behind.reverse := by
      rw [← List.reverse_reverse cs, hcs]
      simp
    have hlast : lastSegment sep cs = behind.reverse := by
      rw [hsplit, lastSegment_append_cons,
        lastSegment_eq_self (fun h => hbehind (List.mem_reverse.1 h))]
    rw [hlast] at hfree ⊢
    rw [hsplit]
    exact .behind _ rfl hfree
  · rw [lastSegment_eq_self hsep] at hfree ⊢
    exact .whole hfree

/-- A separator that the text does not hold may take the place of another one before the cut. -/
theorem lastSegment_replaceChar {old new : Char} {cs : List Char} (h : new ∉ cs) :
    lastSegment new (replaceChar old new cs) = lastSegment old cs := by
  have hwhole : IsLastPart (· = new) cs cs := .whole fun c hc hnew => h (hnew ▸ hc)
  have hboth := (hwhole.trans (isLastPart_lastSegment old cs)).replaceChar
  exact (isLastPart_lastSegment new (replaceChar old new cs)).unique hboth

end Text
end VariableNaming
