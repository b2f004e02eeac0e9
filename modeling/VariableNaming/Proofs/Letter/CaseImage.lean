import VariableNaming.Letter.LowerForm
import VariableNaming.Letter.UpperForm

/-!
# What a case mapping yields

A case mapping leaves a character alone or moves it by the distance of the run that covers it.  That
the code point it is moved to belongs to a character has to be seen from the table: the code points
from U+D800 to U+DFFF do not.

* `CaseRun.Proper` — every member of the run is moved to a character.
* `toNat_mapChar` — where a mapping by proper runs moves a character.
* `lowerForm_eq_self_or_le`, `upperForm_eq_self_or_le` — no character becomes one that comes before
  the letters.
* `CaseRun.misses` — no member of one run is moved to a member of another.
* `lowerForm_lowerForm` — a lower-case form has no other lower-case form.
-/

set_option autoImplicit false

namespace VariableNaming
namespace Letter

namespace CaseRun

/-- The images of the run are characters: they all lie before the surrogates, or all behind. -/
def Proper (r : CaseRun) : Prop :=
  r.image r.last < 0xD800 ∨ 0xDFFF < r.target ∧ r.image r.last < 0x110000

instance (r : CaseRun) : Decidable r.Proper :=
  inferInstanceAs (Decidable (_ ∨ _))

/-- The members of a run lie between its ends, a number of steps from the first. -/
theorem covers_iff {r : CaseRun} {n : Nat} :
    r.domain.covers n = true ↔ r.first ≤ n ∧ n ≤ r.last ∧ (n - r.first) % r.step = 0 := by
  rw [Run.covers, Bool.and_eq_true, Bool.and_eq_true, decide_eq_true_iff, decide_eq_true_iff,
    beq_iff_eq, and_assoc]
  rfl

theorem Proper.toNat_ofNat_image {r : CaseRun} (h : r.Proper) {n : Nat}
    (hn : r.domain.covers n = true) : (Char.ofNat (r.image n)).toNat = r.image n := by
  obtain ⟨-, hlast, -⟩ := covers_iff.1 hn
  have hvalid : (r.image n).isValidChar := by
    simp only [Proper, image] at h
    simp only [image, Nat.isValidChar]
    omega
  rw [Char.ofNat, dif_pos hvalid]
  rfl

end CaseRun

/-- A mapping by proper runs leaves a character alone, or moves it to its image under a run that
covers it. -/
theorem toNat_mapChar {table : List CaseRun} (h : ∀ r ∈ table, r.Proper) (c : Char) :
    mapChar table c = c ∨
      ∃ r ∈ table, r.domain.covers c.toNat = true ∧ (mapChar table c).toNat = r.image c.toNat := by
  cases hfind : table.find? (·.domain.covers c.toNat) with
  | none => exact Or.inl (mapChar_of_find?_eq_none hfind)
  | some r =>
    have hmem := List.mem_of_find?_eq_some hfind
    have hcovers := List.find?_some hfind
    refine Or.inr ⟨r, hmem, hcovers, ?_⟩
    rw [mapChar_of_find?_eq_some hfind, (h r hmem).toNat_ofNat_image hcovers]

/-! ## Where the images lie -/

/-- No character is moved before the least target of the table. -/
theorem mapChar_eq_self_or_le {table : List CaseRun} (h : ∀ r ∈ table, r.Proper) {low : Nat}
    (hlow : ∀ r ∈ table, low ≤ r.target) (c : Char) :
    mapChar table c = c ∨ low ≤ (mapChar table c).toNat := by
  refine (toNat_mapChar h c).imp_right ?_
  rintro ⟨r, hr, -, himage⟩
  calc low ≤ r.target := hlow r hr
    _ ≤ r.image c.toNat := Nat.le_add_right _ _
    _ = (mapChar table c).toNat := himage.symm

theorem proper_lowerRuns : ∀ r ∈ lowerRuns, r.Proper := by
  decide +kernel

theorem proper_upperRuns : ∀ r ∈ upperRuns, r.Proper := by
  decide +kernel

/-- A lower-case form is the character itself, or does not come before the small letter `a`. -/
theorem lowerForm_eq_self_or_le (c : Char) : lowerForm c = c ∨ 'a'.toNat ≤ (lowerForm c).toNat :=
  mapChar_eq_self_or_le proper_lowerRuns (by decide +kernel) c

/-- An upper-case form is the character itself, or does not come before the capital letter `A`. -/
theorem upperForm_eq_self_or_le (c : Char) : upperForm c = c ∨ 'A'.toNat ≤ (upperForm c).toNat :=
  mapChar_eq_self_or_le proper_upperRuns (by decide +kernel) c

/-! ## Images that are not moved again -/

namespace CaseRun

/-- No member of `r` is moved to a member of `q`: the images of `r` lie before `q`, or behind it, or
between its members. -/
def misses (r q : CaseRun) : Bool :=
  (r.image r.last).blt q.first || q.last.blt r.target ||
    (r.step == 2 || r.first == r.last) && q.step == 2 && r.target % 2 != q.first % 2

theorem misses_iff {r q : CaseRun} :
    r.misses q = true ↔ r.image r.last < q.first ∨ q.last < r.target ∨
      (r.step = 2 ∨ r.first = r.last) ∧ q.step = 2 ∧ r.target % 2 ≠ q.first % 2 := by
  simp [misses, or_assoc, and_assoc]

theorem covers_image_eq_false {r q : CaseRun} (h : r.misses q = true) {n : Nat}
    (hn : r.domain.covers n = true) : q.domain.covers (r.image n) = false := by
  rw [← Bool.not_eq_true, covers_iff]
  rintro ⟨hfirst, hlast, hstep⟩
  obtain ⟨hle, hge, hr⟩ := covers_iff.1 hn
  rw [misses_iff] at h
  simp only [image] at h hfirst hlast hstep
  rcases h with hbefore | hbehind | ⟨hsteps, hq, hparity⟩
  · omega
  · omega
  · -- images and members go in steps of two, from starts of different parity
    rw [hq] at hstep
    have heven : (n - r.first) % 2 = 0 := by
      rcases hsteps with htwo | hsingle
      · rwa [htwo] at hr
      · omega
    omega

end CaseRun

/-- Where every run misses every run, what the mapping yields is not moved again. -/
theorem mapChar_mapChar {table : List CaseRun} (h : ∀ r ∈ table, r.Proper)
    (hmisses : (table.all fun r => table.all r.misses) = true) (c : Char) :
    mapChar table (mapChar table c) = mapChar table c := by
  rcases toNat_mapChar h c with hself | ⟨r, hr, hcovers, himage⟩
  · rw [hself, hself]
  · refine mapChar_of_find?_eq_none (List.find?_eq_none.2 fun q hq => ?_)
    have hrq : r.misses q = true := List.all_eq_true.1 (List.all_eq_true.1 hmisses r hr) q hq
    rw [himage, CaseRun.covers_image_eq_false hrq hcovers]
    exact Bool.false_ne_true

/-- A lower-case form is its own lower-case form. -/
theorem lowerForm_lowerForm (c : Char) : lowerForm (lowerForm c) = lowerForm c :=
  mapChar_mapChar proper_lowerRuns (by decide +kernel) c

end Letter
end VariableNaming
