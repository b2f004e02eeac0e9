import VariableNaming.Json.Token
import VariableNaming.Proofs.Json.StringSpelling

/-!
# The spellings of tokens

The same tokens are found in many texts: blanks may stand around every token, and a string has the
spellings of `VariableNaming.Proofs.Json.StringSpelling`.  The grammar is given for marks, strings and
`null`, which is all that a configuration is made of.

* `TokenSpelling`, `TextSpelling` — the grammar.
* `tokens_append_of_spelling` — a spelling at the front of a text is cut off as its token.
* `tokens_eq_iff` — **a text has plain tokens just when it is one of their spellings.**
-/

set_option autoImplicit false

namespace VariableNaming
namespace Json

/-! ## The grammar -/

/-- The marks, with the characters that they are. -/
def marks : List (Char × Token) :=
  [('{', .openBrace), ('}', .closeBrace), ('[', .openBracket), (']', .closeBracket),
    (':', .colon), (',', .comma)]

/-- The characters that may stand between tokens. -/
def blanks : List Char := [' ', '\t', '\n', '\r']

/-- The spellings of a token. -/
inductive TokenSpelling : Token → List Char → Prop
  | mark {c : Char} {t : Token} (h : (c, t) ∈ marks) : TokenSpelling t [c]
  | null : TokenSpelling .null ['n', 'u', 'l', 'l']
  | text {s : String} {w : List Char} (h : StringSpelling s.toList w) :
      TokenSpelling (.text s) ('"' :: w ++ ['"'])

/-- The spellings of tokens: those of each token, one after the other, with blanks around them. -/
inductive TextSpelling : List Token → List Char → Prop
  | nil : TextSpelling [] []
  | blank {c : Char} {ts : List Token} {cs : List Char} (h : c ∈ blanks)
      (hs : TextSpelling ts cs) : TextSpelling ts (c :: cs)
  | token {t : Token} {ts : List Token} {w cs : List Char} (h : TokenSpelling t w)
      (hs : TextSpelling ts cs) : TextSpelling (t :: ts) (w ++ cs)

/-- Whether the token is a mark, a string or `null`. -/
def Token.isPlain : Token → Bool
  | boolean _ | number _ | brokenText _ | brokenScalar _ | stray => false
  | _ => true

/-! ## From spellings to tokens -/

theorem markOf?_eq_some_iff {c : Char} {t : Token} : markOf? c = some t ↔ (c, t) ∈ marks := by
  fun_cases markOf? c <;> simp_all [marks, eq_comm]

theorem isBlank_iff {c : Char} : isBlank c = true ↔ c ∈ blanks := by
  simp [isBlank, blanks, or_assoc]

/-- A spelling at the front of a text is cut off as its token, whatever follows it. -/
theorem tokens_append_of_spelling {t : Token} {w : List Char} (h : TokenSpelling t w)
    (rest : List Char) : tokens (w ++ rest) = t :: tokens rest := by
  cases h with
  | mark h => exact tokens_cons_of_markOf? (markOf?_eq_some_iff.2 h) rest
  | null => exact tokens_null rest
  | @text s w h =>
    rw [List.cons_append, List.cons_append, List.append_assoc, List.singleton_append,
      tokens_quote_of_readString (readString_of_spelling h rest), String.ofList_toList]

theorem TextSpelling.tokens_eq {ts : List Token} {cs : List Char} (h : TextSpelling ts cs) :
    tokens cs = ts := by
  induction h with
  | nil => exact tokens_nil
  | blank h _ ih => rw [tokens_cons_of_isBlank (isBlank_iff.2 h), ih]
  | token h _ ih => rw [tokens_append_of_spelling h, ih]

/-! ## Texts put together -/

section Append

variable {ts ts' : List Token} {cs cs' : List Char}

theorem TextSpelling.append (h : TextSpelling ts cs) (h' : TextSpelling ts' cs') :
    TextSpelling (ts ++ ts') (cs ++ cs') := by
  induction h with
  | nil => exact h'
  | blank h _ ih => exact .blank h ih
  | token h _ ih =>
    rw [List.append_assoc]
    exact .token h ih

theorem TextSpelling.mark {c : Char} {t : Token} (h : (c, t) ∈ marks) (hs : TextSpelling ts cs) :
    TextSpelling (t :: ts) (c :: cs) :=
  .token (.mark h) hs

/-- A written string is a spelling of its token. -/
theorem textSpelling_writeString (s : String) :
    TextSpelling [.text s] (writeString s.toList) := by
  have h : TextSpelling ([.text s] ++ []) (writeString s.toList ++ []) :=
    .token (.text (stringSpelling_flatMap_writeChar s.toList)) .nil
  simpa using h

end Append

/-! ## From tokens to spellings -/

theorem eq_append_of_readWord {word cs rest : List Char} (h : readWord word cs = .ok rest) :
    cs = word ++ rest := by
  fun_induction readWord word cs with
  | case1 cs =>
    cases h
    rfl
  | case2 => cases h
  | case3 ws c cs ih => rw [ih h, List.cons_append]
  | case4 => cases h

/-- A word is cut off whole, or as a token that is not plain. -/
theorem eq_of_cutWord {word cs rest : List Char} {t u : Token} (h : cutWord word t cs = (u, rest))
    (hu : u.isPlain = true) : u = t ∧ cs = word ++ rest := by
  unfold cutWord at h
  split at h
  · cases h
    cases hu
  · rename_i hword
    cases h
    exact ⟨rfl, eq_append_of_readWord hword⟩

theorem isPlain_cutNumber (c : Char) (cs : List Char) :
    (cutNumber c cs).1.isPlain = false := by
  unfold cutNumber
  split <;> rfl

/-- What is cut off as a string is a spelling of it. -/
theorem exists_spelling_of_cutText {cs rest : List Char} {t : Token} (h : cutText cs = (t, rest))
    (ht : t.isPlain = true) : ∃ w, TokenSpelling t w ∧ '"' :: cs = w ++ rest := by
  unfold cutText at h
  split at h
  · cases h
    cases ht
  · rename_i s after hread
    cases h
    obtain ⟨_, ⟨w, hw, rfl⟩, rfl⟩ := (reads_string _ _ _).1 hread
    exact ⟨'"' :: w ++ ['"'], .text (by rwa [String.toList_ofList]), rfl⟩

/-- What is cut off as a plain token is a spelling of it. -/
theorem exists_spelling_of_cut {c : Char} {cs rest : List Char} {t : Token}
    (h : cut c cs = (t, rest)) (ht : t.isPlain = true) :
    ∃ w, TokenSpelling t w ∧ c :: cs = w ++ rest := by
  unfold cut at h
  split at h
  · rename_i hmark
    cases h
    exact ⟨[c], .mark (markOf?_eq_some_iff.1 hmark), rfl⟩
  · split at h
    · rename_i hquote
      rw [hquote]
      exact exists_spelling_of_cutText h ht
    · split at h
      · rename_i hn
        obtain ⟨rfl, rfl⟩ := eq_of_cutWord h ht
        exact ⟨_, .null, by rw [hn]; rfl⟩
      · split at h
        · rw [(eq_of_cutWord h ht).1] at ht
          cases ht
        · split at h
          · rw [(eq_of_cutWord h ht).1] at ht
            cases ht
          · split at h
            · have hnumber := isPlain_cutNumber c cs
              rw [h, ht] at hnumber
              cases hnumber
            · cases h
              cases ht

/-- Plain tokens were cut off a spelling of them. -/
theorem textSpelling_tokens {cs : List Char} (h : ∀ t ∈ tokens cs, t.isPlain = true) :
    TextSpelling (tokens cs) cs := by
  fun_induction tokens cs with
  | case1 => exact .nil
  | case2 c cs hblank ih => exact .blank (isBlank_iff.1 hblank) (ih h)
  | case3 c cs hblank ih =>
    obtain ⟨ht, hts⟩ := List.forall_mem_cons.1 h
    obtain ⟨w, hw, hcs⟩ := exists_spelling_of_cut rfl ht
    rw [hcs]
    exact .token hw (ih hts)

/-- **A text has these tokens just when it is a spelling of them**, if they are plain. -/
theorem tokens_eq_iff {ts : List Token} (h : ∀ t ∈ ts, t.isPlain = true) {cs : List Char} :
    tokens cs = ts ↔ TextSpelling ts cs := by
  constructor
  · rintro rfl
    exact textSpelling_tokens h
  · exact TextSpelling.tokens_eq

end Json
end VariableNaming
