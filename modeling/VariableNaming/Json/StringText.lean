import VariableNaming.Json.Fault

/-!
# Strings in JSON

Between its quotation marks a string holds characters as they are, or escaped.

* `writeChar`, `writeString` — the written form: only quotation marks, backslashes and controls are
  escaped.
* `readEscape`, `readString` — the string that is read, and the text after it.  Any escape is read,
  also a pair of surrogates for one character; a surrogate alone is malformed.
-/

set_option autoImplicit false

namespace VariableNaming
namespace Json

/-! ## Writing -/

/-- A digit in base sixteen, in small letters. -/
def hexDigit (n : Nat) : Char := if n < 10 then Char.ofNat (48 + n) else Char.ofNat (87 + n)

/-- The escape for a character below U+0100 by its number. -/
def numericEscape (n : Nat) : List Char :=
  ['\\', 'u', '0', '0', hexDigit (n / 16), hexDigit (n % 16)]

/-- How a character is written. -/
def writeChar (c : Char) : List Char :=
  if c = '"' then ['\\', '"']
  else if c = '\\' then ['\\', '\\']
  else if c = '\x08' then ['\\', 'b']
  else if c = '\t' then ['\\', 't']
  else if c = '\n' then ['\\', 'n']
  else if c = '\x0c' then ['\\', 'f']
  else if c = '\r' then ['\\', 'r']
  else if c.toNat < 32 then numericEscape c.toNat
  else [c]

/-- How a string is written. -/
def writeString (cs : List Char) : List Char := '"' :: cs.flatMap writeChar ++ ['"']

/-! ## Reading escapes -/

/-- The value of a digit in base sixteen. -/
def hexValue? (c : Char) : Option Nat :=
  if '0' ≤ c ∧ c ≤ '9' then some (c.toNat - 48)
  else if 'a' ≤ c ∧ c ≤ 'f' then some (c.toNat - 87)
  else if 'A' ≤ c ∧ c ≤ 'F' then some (c.toNat - 55)
  else none

/-- The number that four digits in base sixteen make. -/
def hexValue4? (a b c d : Char) : Option Nat := do
  return (((← hexValue? a) * 16 + (← hexValue? b)) * 16 + (← hexValue? c)) * 16 + (← hexValue? d)

/-- Whether at least four bytes of text are left. -/
def hasFourBytes (cs : List Char) : Bool :=
  4 ≤ (cs.take 4).foldl (fun size c => size + c.utf8Size) 0

/-- Four digits in base sixteen and what follows them.  The text has ended if four bytes are no more
left. -/
def readHex (cs : List Char) : Except Fault (Nat × List Char) :=
  match cs with
  | a :: b :: c :: d :: rest =>
    match hexValue4? a b c d with
    | some n => .ok (n, rest)
    | none => .error .malformed
  | _ => .error (if hasFourBytes cs then .malformed else .truncated)

/-- Whether a number is the first surrogate of a pair. -/
def isHighSurrogate (n : Nat) : Bool := 0xD800 ≤ n && n ≤ 0xDBFF

/-- Whether a number is the second surrogate of a pair. -/
def isLowSurrogate (n : Nat) : Bool := 0xDC00 ≤ n && n ≤ 0xDFFF

/-- The number of the character for a pair of surrogates. -/
def pairValue (high low : Nat) : Nat := 0x10000 + (high - 0xD800) * 0x400 + (low - 0xDC00)

/-- The character of a numeric escape, behind `\u`, and what follows it. -/
def readNumericEscape (cs : List Char) : Except Fault (Char × List Char) :=
  match readHex cs with
  | .error f => .error f
  | .ok (n, rest) =>
    if isLowSurrogate n then .error .malformed
    else if isHighSurrogate n then
      match rest with
      | [] | ['\\'] => .error .truncated
      | '\\' :: 'u' :: rest =>
        match readHex rest with
        | .error f => .error f
        | .ok (m, rest) =>
          if isLowSurrogate m then .ok (Char.ofNat (pairValue n m), rest) else .error .malformed
      | _ => .error .malformed
    else .ok (Char.ofNat n, rest)

/-- The character that a letter behind a backslash stands for. -/
def shortEscape? (c : Char) : Option Char :=
  if c = '"' then some '"'
  else if c = '\\' then some '\\'
  else if c = '/' then some '/'
  else if c = 'b' then some '\x08'
  else if c = 'f' then some '\x0c'
  else if c = 'n' then some '\n'
  else if c = 'r' then some '\r'
  else if c = 't' then some '\t'
  else none

/-- The character of an escape, behind the backslash, and what follows it. -/
def readEscape : List Char → Except Fault (Char × List Char)
  | [] => .error .truncated
  | c :: cs =>
    match shortEscape? c with
    | some x => .ok (x, cs)
    | none => if c = 'u' then readNumericEscape cs else .error .malformed

theorem length_of_readHex {cs rest : List Char} {n : Nat} (h : readHex cs = .ok (n, rest)) :
    rest.length < cs.length := by
  unfold readHex at h
  split at h
  · split at h
    · simp only [Except.ok.injEq, Prod.mk.injEq] at h
      obtain ⟨-, rfl⟩ := h
      simp only [List.length_cons]
      omega
    · simp at h
  · simp at h

theorem length_of_readNumericEscape {cs rest : List Char} {c : Char}
    (h : readNumericEscape cs = .ok (c, rest)) : rest.length < cs.length := by
  unfold readNumericEscape at h
  split at h
  · simp at h
  · rename_i n tail hn
    have htail := length_of_readHex hn
    split at h
    · simp at h
    · split at h
      · split at h
        · simp at h
        · simp at h
        · split at h
          · simp at h
          · rename_i m tail' hm
            have htail' := length_of_readHex hm
            split at h
            · simp only [Except.ok.injEq, Prod.mk.injEq] at h
              obtain ⟨-, rfl⟩ := h
              simp only [List.length_cons] at htail
              omega
            · simp at h
        · simp at h
      · simp only [Except.ok.injEq, Prod.mk.injEq] at h
        obtain ⟨-, rfl⟩ := h
        exact htail

theorem length_of_readEscape {cs rest : List Char} {c : Char}
    (h : readEscape cs = .ok (c, rest)) : rest.length < cs.length := by
  unfold readEscape at h
  split at h
  · simp at h
  · split at h
    · simp only [Except.ok.injEq, Prod.mk.injEq] at h
      obtain ⟨-, rfl⟩ := h
      simp
    · split at h
      · have := length_of_readNumericEscape h
        simp only [List.length_cons]
        omega
      · simp at h

/-! ## Reading strings -/

/-- The string up to its closing quotation mark, and the text after this. -/
def readString : List Char → Except Fault (List Char × List Char)
  | [] => .error .truncated
  | c :: cs =>
    if c = '"' then .ok ([], cs)
    else if c = '\\' then
      match _ : readEscape cs with
      | .error f => .error f
      | .ok (x, rest) => (readString rest).map fun (s, after) => (x :: s, after)
    else if c.toNat < 32 then .error .malformed
    else (readString cs).map fun (s, after) => (c :: s, after)
termination_by cs => cs.length
decreasing_by
  · rename_i hesc
    have := length_of_readEscape hesc
    simp only [List.length_cons]
    omega
  · simp

theorem length_of_readString {cs s after : List Char} (h : readString cs = .ok (s, after)) :
    after.length < cs.length := by
  fun_induction readString cs generalizing s after with
  | case1 => simp at h
  | case2 cs =>
    simp only [Except.ok.injEq, Prod.mk.injEq] at h
    obtain ⟨-, rfl⟩ := h
    simp
  | case3 => simp at h
  | case4 cs x rest hesc _ ih =>
    cases hrest : readString rest with
    | error f => simp [hrest, Except.map] at h
    | ok p =>
      obtain ⟨t, after'⟩ := p
      simp only [hrest, Except.map, Except.ok.injEq, Prod.mk.injEq] at h
      obtain ⟨-, rfl⟩ := h
      have h1 := ih hrest
      have h2 := length_of_readEscape hesc
      simp only [List.length_cons]
      omega
  | case5 => simp at h
  | case6 c cs _ _ _ ih =>
    cases hrest : readString cs with
    | error f => simp [hrest, Except.map] at h
    | ok p =>
      obtain ⟨t, after'⟩ := p
      simp only [hrest, Except.map, Except.ok.injEq, Prod.mk.injEq] at h
      obtain ⟨-, rfl⟩ := h
      have := ih hrest
      simp only [List.length_cons]
      omega

/-! ## Written strings are read -/

theorem readString_quote (cs : List Char) : readString ('"' :: cs) = .ok ([], cs) := by
  rw [readString, if_pos rfl]

theorem readString_escape {cs rest : List Char} {x : Char} (h : readEscape cs = .ok (x, rest)) :
    readString ('\\' :: cs) = (readString rest).map fun (s, after) => (x :: s, after) := by
  rw [readString, if_neg (by decide), if_pos rfl]
  split
  · simp_all
  · rename_i heq
    simp_all

theorem readString_plain {c : Char} (hquote : c ≠ '"') (hback : c ≠ '\\')
    (hcontrol : ¬ c.toNat < 32) (cs : List Char) :
    readString (c :: cs) = (readString cs).map fun (s, after) => (c :: s, after) := by
  rw [readString, if_neg hquote, if_neg hback, if_neg hcontrol]

/-- An escape by number is read for every control. -/
theorem readEscape_numericEscape {c : Char} (h : c.toNat < 32) (rest : List Char) :
    readEscape ((numericEscape c.toNat).tail ++ rest) = .ok (c, rest) := by
  have hall : ∀ n < 32, hexValue4? '0' '0' (hexDigit (n / 16)) (hexDigit (n % 16)) = some n := by
    decide
  have hlow : isLowSurrogate c.toNat = false := by
    simp only [isLowSurrogate, Bool.and_eq_false_iff, decide_eq_false_iff_not]
    omega
  have hhigh : isHighSurrogate c.toNat = false := by
    simp only [isHighSurrogate, Bool.and_eq_false_iff, decide_eq_false_iff_not]
    omega
  have hshort : shortEscape? 'u' = none := by decide
  simp [numericEscape, readEscape, hshort, readNumericEscape, readHex, hall c.toNat h, hlow, hhigh,
    Char.ofNat_toNat]

theorem readString_writeChar (c : Char) (cs : List Char) :
    readString (writeChar c ++ cs) = (readString cs).map fun (s, after) => (c :: s, after) := by
  by_cases hshort : c = '"' ∨ c = '\\' ∨ c = '\x08' ∨ c = '\t' ∨ c = '\n' ∨ c = '\x0c' ∨ c = '\r'
  · rcases hshort with rfl | rfl | rfl | rfl | rfl | rfl | rfl <;>
      exact readString_escape (by simp [readEscape, shortEscape?])
  · simp only [not_or] at hshort
    obtain ⟨h1, h2, h3, h4, h5, h6, h7⟩ := hshort
    by_cases hcontrol : c.toNat < 32
    · simp only [writeChar, h1, h2, h3, h4, h5, h6, h7, if_false, hcontrol, if_true]
      exact readString_escape (readEscape_numericEscape hcontrol cs)
    · simp only [writeChar, h1, h2, h3, h4, h5, h6, h7, if_false, hcontrol]
      exact readString_plain h1 h2 hcontrol cs

/-- **A written string is read back**, whatever follows it. -/
theorem readString_flatMap_writeChar (cs rest : List Char) :
    readString (cs.flatMap writeChar ++ '"' :: rest) = .ok (cs, rest) := by
  induction cs with
  | nil => exact readString_quote rest
  | cons c cs ih => rw [List.flatMap_cons, List.append_assoc, readString_writeChar, ih]; rfl

end Json
end VariableNaming
