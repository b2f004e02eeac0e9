import VariableNaming.Json.Number
import VariableNaming.Json.StringText

/-!
# The tokens of a JSON text

A text is cut into tokens: marks, strings, numbers and the three words.  Blanks between tokens are
dropped.  A text that is no JSON still has tokens up to the first place where it cannot be cut any
more; there the last token says what is wrong.

* `Token` — the tokens.
* `cut` — the token that begins with a character, and the text after it.
* `tokens` — the tokens of a text.
-/

set_option autoImplicit false

namespace VariableNaming
namespace Json

/-- A token. -/
inductive Token where
  | openBrace
  | closeBrace
  | openBracket
  | closeBracket
  | colon
  | comma
  | null
  | boolean (b : Bool)
  | number (x : Number)
  | text (s : String)
  /-- A quotation mark behind which there is no string. -/
  | brokenText (fault : Fault)
  /-- The beginning of a word or a number that is none. -/
  | brokenScalar (fault : Fault)
  /-- A character that begins no token. -/
  | stray
deriving DecidableEq, Repr

/-- Whether a character may stand between tokens. -/
def isBlank (c : Char) : Bool := c = ' ' || c = '\t' || c = '\n' || c = '\r'

/-- The text after a word. -/
def readWord : List Char → List Char → Except Fault (List Char)
  | [], cs => .ok cs
  | _ :: _, [] => .error .truncated
  | w :: ws, c :: cs => if c = w then readWord ws cs else .error .malformed

/-- The token for a word whose first character has been read, and the text after it. -/
def cutWord (word : List Char) (t : Token) (cs : List Char) : Token × List Char :=
  match readWord word cs with
  | .error f => (.brokenScalar f, [])
  | .ok rest => (t, rest)

/-- The token for a string whose first quotation mark has been read, and the text after it. -/
def cutText (cs : List Char) : Token × List Char :=
  match readString cs with
  | .error f => (.brokenText f, [])
  | .ok (s, rest) => (.text (String.ofList s), rest)

/-- The token for a number that begins with `c`, and the text after it. -/
def cutNumber (c : Char) (cs : List Char) : Token × List Char :=
  match readNumber (c :: cs) with
  | .error f => (.brokenScalar f, [])
  | .ok (x, rest) => (.number x, rest)

/-- The mark that a character is. -/
def markOf? (c : Char) : Option Token :=
  if c = '{' then some .openBrace
  else if c = '}' then some .closeBrace
  else if c = '[' then some .openBracket
  else if c = ']' then some .closeBracket
  else if c = ':' then some .colon
  else if c = ',' then some .comma
  else none

/-- The token that begins with `c`, and the text after it.  There is none after a broken token. -/
def cut (c : Char) (cs : List Char) : Token × List Char :=
  match markOf? c with
  | some t => (t, cs)
  | none =>
    if c = '"' then cutText cs
    else if c = 'n' then cutWord ['u', 'l', 'l'] .null cs
    else if c = 't' then cutWord ['r', 'u', 'e'] (.boolean true) cs
    else if c = 'f' then cutWord ['a', 'l', 's', 'e'] (.boolean false) cs
    else if c = '-' || c.isDigit then cutNumber c cs
    else (.stray, [])

theorem length_of_readWord {ws cs rest : List Char} (h : readWord ws cs = .ok rest) :
    rest.length ≤ cs.length := by
  induction ws generalizing cs with
  | nil => simp_all [readWord]
  | cons w ws ih =>
    cases cs with
    | nil => simp [readWord] at h
    | cons c cs =>
      simp only [readWord] at h
      split at h
      · exact Nat.le_succ_of_le (ih h)
      · simp at h

theorem length_cutWord (word : List Char) (t : Token) (cs : List Char) :
    (cutWord word t cs).2.length ≤ cs.length := by
  unfold cutWord
  split
  · simp
  · rename_i h
    exact length_of_readWord h

/-- What is left after a string is no longer than what was there after its quotation mark. -/
theorem length_cutText (cs : List Char) : (cutText cs).2.length ≤ cs.length := by
  unfold cutText
  split
  · simp
  · rename_i h
    exact Nat.le_of_lt (length_of_readString h)

theorem length_cutNumber (c : Char) (cs : List Char) : (cutNumber c cs).2.length ≤ cs.length := by
  unfold cutNumber
  split
  · simp
  · rename_i h
    exact Nat.le_of_lt_succ (length_of_readNumber h)

/-- What is left after a token is no longer than what was there after its first character. -/
theorem length_cut (c : Char) (cs : List Char) : (cut c cs).2.length ≤ cs.length := by
  unfold cut
  split
  · exact Nat.le_refl _
  · split
    · exact length_cutText cs
    · split
      · exact length_cutWord _ _ cs
      · split
        · exact length_cutWord _ _ cs
        · split
          · exact length_cutWord _ _ cs
          · split
            · exact length_cutNumber c cs
            · exact Nat.zero_le _

/-- The tokens of a text. -/
def tokens : List Char → List Token
  | [] => []
  | c :: cs =>
    if isBlank c then tokens cs
    else (cut c cs).1 :: tokens (cut c cs).2
termination_by cs => cs.length
decreasing_by
  · simp
  · exact Nat.lt_succ_of_le (length_cut c cs)

/-! ## The tokens at the beginning of a text -/

@[simp] theorem tokens_nil : tokens [] = [] := by
  simp [tokens]

theorem tokens_cons_of_isBlank {c : Char} (h : isBlank c = true) (cs : List Char) :
    tokens (c :: cs) = tokens cs := by
  rw [tokens, if_pos h]

theorem tokens_cons_of_not_isBlank {c : Char} (h : ¬ isBlank c = true) (cs : List Char) :
    tokens (c :: cs) = (cut c cs).1 :: tokens (cut c cs).2 := by
  rw [tokens, if_neg h]

theorem isBlank_eq_false_of_markOf? {c : Char} {t : Token} (h : markOf? c = some t) :
    ¬ isBlank c = true := by
  intro hblank
  simp only [isBlank, Bool.or_eq_true, decide_eq_true_eq] at hblank
  rcases hblank with ((rfl | rfl) | rfl) | rfl <;> simp [markOf?] at h

/-- A mark is a token by itself. -/
theorem tokens_cons_of_markOf? {c : Char} {t : Token} (h : markOf? c = some t) (cs : List Char) :
    tokens (c :: cs) = t :: tokens cs := by
  rw [tokens_cons_of_not_isBlank (isBlank_eq_false_of_markOf? h)]
  simp [cut, h]

/-- A string is a token by itself. -/
theorem tokens_quote_of_readString {cs s rest : List Char} (h : readString cs = .ok (s, rest)) :
    tokens ('"' :: cs) = .text (String.ofList s) :: tokens rest := by
  rw [tokens_cons_of_not_isBlank (by decide)]
  simp [cut, markOf?, cutText, h]

@[simp] theorem tokens_null (cs : List Char) :
    tokens ('n' :: 'u' :: 'l' :: 'l' :: cs) = .null :: tokens cs := by
  rw [tokens_cons_of_not_isBlank (by decide)]
  simp [cut, markOf?, cutWord, readWord]

end Json
end VariableNaming
