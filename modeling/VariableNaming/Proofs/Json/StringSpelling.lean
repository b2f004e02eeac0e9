import VariableNaming.Json.StringText

/-!
# The spellings of a string

A string has many spellings in JSON: every character may be escaped, in most cases in several ways,
and only quotation marks, backslashes and controls have to be.  The spellings are given as a grammar,
and the readers of `VariableNaming.Json.StringText` are shown to read just what it derives.

* `Reads` — what it is to read a grammar: the spelling at the front is taken off the text, whatever
  follows it.
* `HexDigit`, `HexSpelling` — numbers in base sixteen, in small or capital letters.
* `NumberEscape`, `Escape`, `CharSpelling`, `StringSpelling` — the grammar of strings.
* `reads_hex`, `reads_numericEscape`, `reads_escape`, `reads_string` — the readers read it.
-/

set_option autoImplicit false

namespace VariableNaming
namespace Json

/-- The reader reads the grammar: what it gives is the value of a spelling at the front and what is
left behind the spelling, and it gives this for every spelling, whatever follows. -/
def Reads {ε α τ : Type} (read : List τ → Except ε (α × List τ)) (Spelling : α → List τ → Prop) :
    Prop :=
  ∀ text a rest, read text = .ok (a, rest) ↔ ∃ w, Spelling a w ∧ text = w ++ rest

section Reads

variable {ε α τ : Type} {read : List τ → Except ε (α × List τ)} {Spelling : α → List τ → Prop}

/-- A spelling is read, whatever follows it. -/
theorem Reads.append (h : Reads read Spelling) {a : α} {w : List τ} (hw : Spelling a w)
    (rest : List τ) : read (w ++ rest) = .ok (a, rest) :=
  (h _ _ _).2 ⟨w, hw, rfl⟩

end Reads

/-! ## The grammar -/

/-- The character is a digit in base sixteen, of this value. -/
inductive HexDigit : Nat → Char → Prop
  | decimal {v : Nat} (h : v < 10) : HexDigit v (Char.ofNat (48 + v))
  | small {v : Nat} (h : v < 6) : HexDigit (10 + v) (Char.ofNat (97 + v))
  | capital {v : Nat} (h : v < 6) : HexDigit (10 + v) (Char.ofNat (65 + v))

/-- The four digits spell the number. -/
inductive HexSpelling : Nat → List Char → Prop
  | digits {a b c d : Nat} {p q r s : Char} (ha : HexDigit a p) (hb : HexDigit b q)
      (hc : HexDigit c r) (hd : HexDigit d s) :
      HexSpelling (((a * 16 + b) * 16 + c) * 16 + d) [p, q, r, s]

/-- What stands behind `\u` for a character: its number, or for a character that needs more than four
digits the numbers of the two surrogates that stand for it.  No surrogate stands alone. -/
inductive NumberEscape (c : Char) : List Char → Prop
  | single {w : List Char} (h : c.toNat < 0x10000) (hw : HexSpelling c.toNat w) : NumberEscape c w
  | pair {high low : List Char} (h : 0x10000 ≤ c.toNat)
      (hhigh : HexSpelling (0xD800 + (c.toNat - 0x10000) / 0x400) high)
      (hlow : HexSpelling (0xDC00 + (c.toNat - 0x10000) % 0x400) low) :
      NumberEscape c (high ++ '\\' :: 'u' :: low)

/-- The letters that stand behind a backslash for one character. -/
def shortEscapes : List (Char × Char) :=
  [('"', '"'), ('\\', '\\'), ('/', '/'), ('b', '\x08'), ('f', '\x0c'), ('n', '\n'), ('r', '\r'),
    ('t', '\t')]

/-- What stands behind a backslash for a character. -/
inductive Escape (c : Char) : List Char → Prop
  | short {letter : Char} (h : (letter, c) ∈ shortEscapes) : Escape c [letter]
  | number {w : List Char} (h : NumberEscape c w) : Escape c ('u' :: w)

/-- The spellings of a character in a string: as it is, or escaped. -/
inductive CharSpelling (c : Char) : List Char → Prop
  | plain (hquote : c ≠ '"') (hback : c ≠ '\\') (hcontrol : 32 ≤ c.toNat) : CharSpelling c [c]
  | escaped {w : List Char} (h : Escape c w) : CharSpelling c ('\\' :: w)

/-- The spellings of a string: those of its characters, one after the other. -/
inductive StringSpelling : List Char → List Char → Prop
  | nil : StringSpelling [] []
  | cons {c : Char} {s w t : List Char} (hc : CharSpelling c w) (hs : StringSpelling s t) :
      StringSpelling (c :: s) (w ++ t)

/-! ## Numbers in base sixteen -/

theorem HexDigit.lt {v : Nat} {c : Char} (h : HexDigit v c) : v < 16 := by
  cases h <;> omega

theorem HexSpelling.lt {n : Nat} {w : List Char} (h : HexSpelling n w) : n < 0x10000 := by
  cases h with
  | digits ha hb hc hd =>
    have ha := ha.lt
    have hb := hb.lt
    have hc := hc.lt
    have hd := hd.lt
    omega

theorem le_iff_toNat_le {c d : Char} : c ≤ d ↔ c.toNat ≤ d.toNat := by
  rw [Char.le_def, UInt32.le_iff_toNat_le]
  rfl

theorem hexValue?_eq_some_iff {c : Char} {v : Nat} : hexValue? c = some v ↔ HexDigit v c := by
  constructor
  · intro h
    simp only [hexValue?, le_iff_toNat_le, Char.reduceToNat] at h
    split at h
    · obtain rfl := Option.some.inj h
      have hdigit := HexDigit.decimal (show c.toNat - 48 < 10 by omega)
      rwa [show 48 + (c.toNat - 48) = c.toNat by omega, Char.ofNat_toNat] at hdigit
    · split at h
      · obtain rfl := Option.some.inj h
        have hdigit := HexDigit.small (show c.toNat - 97 < 6 by omega)
        rwa [show 97 + (c.toNat - 97) = c.toNat by omega, Char.ofNat_toNat,
          show 10 + (c.toNat - 97) = c.toNat - 87 by omega] at hdigit
      · split at h
        · obtain rfl := Option.some.inj h
          have hdigit := HexDigit.capital (show c.toNat - 65 < 6 by omega)
          rwa [show 65 + (c.toNat - 65) = c.toNat by omega, Char.ofNat_toNat,
            show 10 + (c.toNat - 65) = c.toNat - 55 by omega] at hdigit
        · cases h
  · intro h
    cases h with
    | decimal h =>
      have hall : ∀ v < 10, hexValue? (Char.ofNat (48 + v)) = some v := by decide
      exact hall _ h
    | small h =>
      have hall : ∀ v < 6, hexValue? (Char.ofNat (97 + v)) = some (10 + v) := by decide
      exact hall _ h
    | capital h =>
      have hall : ∀ v < 6, hexValue? (Char.ofNat (65 + v)) = some (10 + v) := by decide
      exact hall _ h

theorem hexValue4?_eq_some_iff {p q r s : Char} {n : Nat} :
    hexValue4? p q r s = some n ↔ HexSpelling n [p, q, r, s] := by
  simp only [hexValue4?, Option.bind_eq_bind, Option.bind_eq_some_iff, hexValue?_eq_some_iff,
    Option.pure_def, Option.some.injEq]
  constructor
  · rintro ⟨a, ha, b, hb, c, hc, d, hd, rfl⟩
    exact .digits ha hb hc hd
  · intro h
    cases h with
    | digits ha hb hc hd => exact ⟨_, ha, _, hb, _, hc, _, hd, rfl⟩

theorem reads_hex : Reads readHex HexSpelling := by
  intro text n rest
  constructor
  · intro h
    unfold readHex at h
    split at h
    · rename_i p q r s tail
      split at h
      · rename_i hvalue
        cases h
        exact ⟨[p, q, r, s], hexValue4?_eq_some_iff.1 hvalue, rfl⟩
      · cases h
    · cases h
  · rintro ⟨w, hw, rfl⟩
    cases hw with
    | @digits a b c d p q r s ha hb hc hd =>
      have hvalue := hexValue4?_eq_some_iff.2 (.digits ha hb hc hd)
      rw [List.cons_append, List.cons_append, List.cons_append, List.cons_append, List.nil_append,
        readHex]
      simp only [hvalue]

/-! ## Escapes -/

theorem isLowSurrogate_iff {n : Nat} : isLowSurrogate n = true ↔ 0xDC00 ≤ n ∧ n ≤ 0xDFFF := by
  simp [isLowSurrogate]

theorem isHighSurrogate_iff {n : Nat} : isHighSurrogate n = true ↔ 0xD800 ≤ n ∧ n ≤ 0xDBFF := by
  simp [isHighSurrogate]

theorem toNat_ofNat {n : Nat} (h : n.isValidChar) : (Char.ofNat n).toNat = n := by
  rw [Char.ofNat, dif_pos h]
  rfl

/-- Four digits for the number of a character are an escape for it. -/
theorem NumberEscape.of_single {n : Nat} {w : List Char} (hw : HexSpelling n w)
    (hlow : ¬ isLowSurrogate n = true) (hhigh : ¬ isHighSurrogate n = true) :
    NumberEscape (Char.ofNat n) w := by
  rw [isLowSurrogate_iff] at hlow
  rw [isHighSurrogate_iff] at hhigh
  have hn := hw.lt
  have hchar : (Char.ofNat n).toNat = n := toNat_ofNat (by simp only [Nat.isValidChar]; omega)
  exact .single (hchar.symm ▸ hn) (hchar.symm ▸ hw)

/-- So are the digits of two surrogates, for the character that the pair stands for. -/
theorem NumberEscape.of_pair {n m : Nat} {high low : List Char} (hw : HexSpelling n high)
    (hhigh : isHighSurrogate n = true) (hw' : HexSpelling m low)
    (hlow : isLowSurrogate m = true) :
    NumberEscape (Char.ofNat (pairValue n m)) (high ++ '\\' :: 'u' :: low) := by
  rw [isHighSurrogate_iff] at hhigh
  rw [isLowSurrogate_iff] at hlow
  have hpair : pairValue n m = 0x10000 + (n - 0xD800) * 0x400 + (m - 0xDC00) := rfl
  have hchar : (Char.ofNat (pairValue n m)).toNat = pairValue n m :=
    toNat_ofNat (Or.inr ⟨by omega, by omega⟩)
  have hfirst : 0xD800 + (pairValue n m - 0x10000) / 0x400 = n := by omega
  have hsecond : 0xDC00 + (pairValue n m - 0x10000) % 0x400 = m := by omega
  generalize Char.ofNat (pairValue n m) = c at hchar ⊢
  rw [← hchar] at hfirst hsecond
  exact .pair (by omega) (hfirst.symm ▸ hw) (hsecond.symm ▸ hw')

/-- The pair of surrogates for a character stands for it. -/
theorem pairValue_surrogates {n : Nat} (h : 0x10000 ≤ n) :
    pairValue (0xD800 + (n - 0x10000) / 0x400) (0xDC00 + (n - 0x10000) % 0x400) = n := by
  unfold pairValue
  omega

section NumericEscape

variable {text tail rest : List Char} {n m : Nat}

theorem readNumericEscape_of_single (h : readHex text = .ok (n, rest))
    (hlow : ¬ isLowSurrogate n = true) (hhigh : ¬ isHighSurrogate n = true) :
    readNumericEscape text = .ok (Char.ofNat n, rest) := by
  simp only [readNumericEscape, h, if_neg hlow, if_neg hhigh]

theorem readNumericEscape_of_pair (h : readHex text = .ok (n, '\\' :: 'u' :: tail))
    (hhigh : isHighSurrogate n = true) (h' : readHex tail = .ok (m, rest))
    (hlow : isLowSurrogate m = true) :
    readNumericEscape text = .ok (Char.ofNat (pairValue n m), rest) := by
  have hnot : ¬ isLowSurrogate n = true := by
    rw [isHighSurrogate_iff] at hhigh
    rw [isLowSurrogate_iff]
    omega
  simp only [readNumericEscape, h, if_neg hnot, if_pos hhigh, h', if_pos hlow]

end NumericEscape

theorem reads_numericEscape : Reads readNumericEscape NumberEscape := by
  intro text c rest
  constructor
  · intro h
    unfold readNumericEscape at h
    split at h
    · cases h
    · rename_i n tail hn
      obtain ⟨w, hw, rfl⟩ := (reads_hex _ _ _).1 hn
      split at h
      · cases h
      · rename_i hlow
        split at h
        · rename_i hhigh
          split at h
          · cases h
          · cases h
          · rename_i tail
            split at h
            · cases h
            · rename_i m rest' hm
              obtain ⟨w', hw', rfl⟩ := (reads_hex _ _ _).1 hm
              split at h
              · rename_i hlow'
                simp only [Except.ok.injEq, Prod.mk.injEq] at h
                obtain ⟨rfl, rfl⟩ := h
                exact ⟨_, .of_pair hw hhigh hw' hlow', by simp⟩
              · cases h
          · cases h
        · rename_i hhigh
          simp only [Except.ok.injEq, Prod.mk.injEq] at h
          obtain ⟨rfl, rfl⟩ := h
          exact ⟨w, .of_single hw hlow hhigh, rfl⟩
  · rintro ⟨w, hw, rfl⟩
    have hvalid := c.valid
    simp only [UInt32.isValidChar, Nat.isValidChar, Char.toNat_val] at hvalid
    cases hw with
    | single h hw =>
      have hread := readNumericEscape_of_single (reads_hex.append hw rest)
        (by rw [isLowSurrogate_iff]; omega) (by rw [isHighSurrogate_iff]; omega)
      rwa [Char.ofNat_toNat] at hread
    | @pair high low h hhigh hlow =>
      have hfirst := reads_hex.append hhigh ('\\' :: 'u' :: (low ++ rest))
      have hread := readNumericEscape_of_pair hfirst
        (by rw [isHighSurrogate_iff]; omega) (reads_hex.append hlow rest)
        (by rw [isLowSurrogate_iff]; omega)
      rw [pairValue_surrogates h, Char.ofNat_toNat] at hread
      rwa [List.append_assoc]

theorem shortEscape?_eq_some_iff {letter c : Char} :
    shortEscape? letter = some c ↔ (letter, c) ∈ shortEscapes := by
  fun_cases shortEscape? letter <;> simp_all [shortEscapes, eq_comm]

theorem reads_escape : Reads readEscape Escape := by
  intro text c rest
  constructor
  · intro h
    unfold readEscape at h
    split at h
    · cases h
    · rename_i letter tail
      split at h
      · rename_i hshort
        cases h
        exact ⟨[letter], .short (shortEscape?_eq_some_iff.1 hshort), rfl⟩
      · split at h
        · rename_i hletter
          obtain ⟨w, hw, rfl⟩ := (reads_numericEscape _ _ _).1 h
          exact ⟨'u' :: w, .number hw, by rw [hletter]; rfl⟩
        · cases h
  · rintro ⟨w, hw, rfl⟩
    cases hw with
    | @short letter h =>
      rw [List.singleton_append, readEscape]
      simp only [shortEscape?_eq_some_iff.2 h]
    | @number w h =>
      have hnone : shortEscape? 'u' = none := by decide
      rw [List.cons_append, readEscape]
      simp only [hnone, if_true]
      exact reads_numericEscape.append h rest

/-! ## Strings -/

theorem readString_of_spelling {s w : List Char} (h : StringSpelling s w) (rest : List Char) :
    readString (w ++ '"' :: rest) = .ok (s, rest) := by
  induction h with
  | nil => exact readString_quote rest
  | @cons c s w t hc hs ih =>
    rw [List.append_assoc]
    cases hc with
    | plain hquote hback hcontrol =>
      rw [List.singleton_append, readString_plain hquote hback (Nat.not_lt.2 hcontrol), ih]
      rfl
    | @escaped w hw =>
      rw [List.cons_append, readString_escape (reads_escape.append hw _), ih]
      rfl

/-- A character in front of a string that was read. -/
theorem map_cons_eq_ok_iff {x : Except Fault (List Char × List Char)} {c : Char}
    {s rest : List Char} :
    (x.map fun (t, after) => (c :: t, after)) = .ok (s, rest) ↔
      ∃ t, x = .ok (t, rest) ∧ s = c :: t := by
  constructor
  · intro h
    rcases x with f | ⟨t, after⟩
    · cases h
    · cases h
      exact ⟨t, rfl, rfl⟩
  · rintro ⟨t, rfl, rfl⟩
    rfl

/-- Behind its first quotation mark, a string is read up to its last one. -/
theorem reads_string :
    Reads readString fun s w => ∃ t, StringSpelling s t ∧ w = t ++ ['"'] := by
  intro text s rest
  constructor
  · intro h
    fun_induction readString text generalizing s rest with
    | case1 => cases h
    | case2 cs =>
      cases h
      exact ⟨['"'], ⟨[], .nil, rfl⟩, rfl⟩
    | case3 => cases h
    | case4 cs c tail hesc _ ih =>
      obtain ⟨w, hw, rfl⟩ := (reads_escape _ _ _).1 hesc
      obtain ⟨s, htail, rfl⟩ := map_cons_eq_ok_iff.1 h
      obtain ⟨_, ⟨t, ht, rfl⟩, rfl⟩ := ih _ _ htail
      exact ⟨_, ⟨'\\' :: w ++ t, .cons (.escaped hw) ht, rfl⟩, by simp⟩
    | case5 => cases h
    | case6 c cs hquote hback hcontrol ih =>
      obtain ⟨s, htail, rfl⟩ := map_cons_eq_ok_iff.1 h
      obtain ⟨_, ⟨t, ht, rfl⟩, rfl⟩ := ih _ _ htail
      exact ⟨_, ⟨[c] ++ t, .cons (.plain hquote hback (Nat.not_lt.1 hcontrol)) ht, rfl⟩, by simp⟩
  · rintro ⟨w, ⟨t, ht, rfl⟩, rfl⟩
    rw [List.append_assoc]
    exact readString_of_spelling ht rest

/-- The written form of a string is one of its spellings. -/
theorem stringSpelling_flatMap_writeChar (s : List Char) :
    StringSpelling s (s.flatMap writeChar) := by
  obtain ⟨_, ⟨t, ht, rfl⟩, heq⟩ := (reads_string _ _ _).1 (readString_flatMap_writeChar s [])
  rw [List.append_nil, List.append_cancel_right_eq] at heq
  rwa [heq]

end Json
end VariableNaming
