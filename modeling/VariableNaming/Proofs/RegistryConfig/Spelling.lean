import VariableNaming.Proofs.Json.TextSpelling
import VariableNaming.RegistryConfig.Reader

/-!
# The spellings of a configuration

A configuration has many texts: objects may be written as sequences, the members of an entry may
stand in either order, and strings and blanks are as free as JSON has them.  Here the texts are given
as a grammar, of tokens first, and the reader is shown to take these texts and no others.

* `KindSpelling`, `EntrySpelling`, `EntriesSpelling`, `AdaptersSpelling`, `ConfigSpelling` — the
  grammar, by tokens.
* `RegistryConfig.Spelling` — the texts of a configuration.
* `reads_kind`, `reads_entry`, `reads_adapters`, `reads_config` — each reader reads its part.
* `RegistryConfig.read_eq_ok_iff` — **a text is read as a configuration just when it spells it.**
-/

set_option autoImplicit false

namespace VariableNaming
namespace RegistryConfig

open Json

/-! ## The grammar -/

/-- The spellings of a kind: its word, or an object whose only member has the word for a name and
`null` for a value. -/
inductive KindSpelling (k : AdapterKind) : List Token → Prop
  | word : KindSpelling k [.text k.word]
  | member : KindSpelling k [.openBrace, .text k.word, .colon, .null, .closeBrace]

/-- The spellings of an entry: an object with both members, in either order, or the sequence of their
values. -/
inductive EntrySpelling (e : AdapterEntry) : List Token → Prop
  | typeFirst {w : List Token} (h : KindSpelling e.kind w) :
      EntrySpelling e ([.openBrace, .text typeMember, .colon, .text e.typeName, .comma,
        .text kindMember, .colon] ++ w ++ [.closeBrace])
  | kindFirst {w : List Token} (h : KindSpelling e.kind w) :
      EntrySpelling e ([.openBrace, .text kindMember, .colon] ++ w ++
        [.comma, .text typeMember, .colon, .text e.typeName, .closeBrace])
  | sequence {w : List Token} (h : KindSpelling e.kind w) :
      EntrySpelling e ([.openBracket, .text e.typeName, .comma] ++ w ++ [.closeBracket])

/-- The spellings of entries, at least one, with commas between them. -/
inductive EntriesSpelling : List AdapterEntry → List Token → Prop
  | one {e : AdapterEntry} {w : List Token} (h : EntrySpelling e w) : EntriesSpelling [e] w
  | cons {e : AdapterEntry} {es : List AdapterEntry} {w ws : List Token} (h : EntrySpelling e w)
      (hs : EntriesSpelling es ws) : EntriesSpelling (e :: es) (w ++ .comma :: ws)

/-- The spellings of the list of adapters. -/
inductive AdaptersSpelling : List AdapterEntry → List Token → Prop
  | none : AdaptersSpelling [] [.openBracket, .closeBracket]
  | some {es : List AdapterEntry} {w : List Token} (h : EntriesSpelling es w) :
      AdaptersSpelling es ([.openBracket] ++ w ++ [.closeBracket])

/-- The spellings of a configuration: an object that has its only member or, if there are no
adapters, none, or the sequence of the values of the members. -/
inductive ConfigSpelling (c : RegistryConfig) : List Token → Prop
  | object {w : List Token} (h : AdaptersSpelling c.adapters w) :
      ConfigSpelling c ([.openBrace, .text adaptersMember, .colon] ++ w ++ [.closeBrace])
  | emptyObject (h : c.adapters = []) : ConfigSpelling c [.openBrace, .closeBrace]
  | sequence {w : List Token} (h : AdaptersSpelling c.adapters w) :
      ConfigSpelling c ([.openBracket] ++ w ++ [.closeBracket])
  | emptySequence (h : c.adapters = []) : ConfigSpelling c [.openBracket, .closeBracket]

/-- The text spells the configuration: it is made of the tokens of a spelling, with blanks around
them, and every string among them is spelled in one of the ways that there are for it. -/
def Spelling (c : RegistryConfig) (text : String) : Prop :=
  ∃ ts, ConfigSpelling c ts ∧ TextSpelling ts text.toList

/-! ## Readings and faults -/

section Readings

variable {α β ε : Type}

/-- What is read after something was read before it. -/
theorem bind_eq_ok_iff {x : Except ε α} {f : α → Except ε β} {b : β} :
    x >>= f = .ok b ↔ ∃ a, x = .ok a ∧ f a = .ok b := by
  cases x <;> simp [bind, Except.bind]

theorem unwanted_ne_ok {wanted : Wanted} {ts : List Token} {a : α} :
    unwanted wanted ts ≠ .ok a := by
  fun_cases unwanted wanted ts <;> exact nofun

theorem noMark_ne_ok {ts : List Token} {a : α} : noMark ts ≠ .ok a := by
  fun_cases noMark ts <;> exact nofun

theorem noText_ne_ok {ts : List Token} {a : α} : noText ts ≠ .ok a := by
  fun_cases noText ts <;> exact nofun

end Readings

/-! ## Marks and names -/

theorem expectMark_eq_ok_iff {mark : Token} {ts rest : List Token} :
    expectMark mark ts = .ok rest ↔ ts = mark :: rest := by
  cases ts with
  | nil => simp [expectMark, truncated]
  | cons t ts =>
    by_cases h : t = mark <;> simp [expectMark, malformed, h]

theorem readTypeName_eq_ok_iff {s : String} {ts rest : List Token} :
    readTypeName ts = .ok (s, rest) ↔ ts = .text s :: rest := by
  unfold readTypeName
  split
  · simp
  · rename_i hne
    refine ⟨fun h => absurd h unwanted_ne_ok, ?_⟩
    rintro rfl
    exact absurd rfl (hne s rest)

theorem kindOfWord_eq_ok_iff {w : String} {k : AdapterKind} :
    kindOfWord w = .ok k ↔ w = k.word := by
  rw [eq_comm (b := k.word), ← AdapterKind.ofWord?_eq_some_iff]
  unfold kindOfWord
  split <;> simp_all [misshapen]

/-! ## Kinds -/

theorem readKindMember_eq_ok_iff {k : AdapterKind} {ts rest : List Token} :
    readKindMember ts = .ok (k, rest) ↔
      ts = .text k.word :: .colon :: .null :: .closeBrace :: rest := by
  constructor
  · intro h
    unfold readKindMember at h
    split at h
    · simp only [bind_eq_ok_iff, kindOfWord_eq_ok_iff, expectMark_eq_ok_iff] at h
      obtain ⟨k', rfl, _, rfl, h⟩ := h
      split at h
      · simp only [bind_eq_ok_iff, expectMark_eq_ok_iff] at h
        obtain ⟨_, rfl, h⟩ := h
        cases h
        rfl
      · exact absurd h unwanted_ne_ok
    · exact absurd h noText_ne_ok
  · rintro rfl
    simp only [readKindMember, kindOfWord_eq_ok_iff.2 rfl, expectMark_eq_ok_iff.2 rfl]
    rfl

theorem reads_kind : Reads readKind KindSpelling := by
  intro ts k rest
  constructor
  · fun_cases readKind ts with
    | case1 word ts =>
      intro h
      simp only [bind_eq_ok_iff, kindOfWord_eq_ok_iff] at h
      obtain ⟨k', rfl, h⟩ := h
      cases h
      exact ⟨_, .word, rfl⟩
    | case2 ts =>
      intro h
      obtain rfl := readKindMember_eq_ok_iff.1 h
      exact ⟨_, .member, rfl⟩
    | case3 => exact fun h => absurd h noText_ne_ok
  · rintro ⟨w, hw, rfl⟩
    cases hw with
    | word =>
      simp only [List.singleton_append, readKind, kindOfWord_eq_ok_iff.2 rfl]
      rfl
    | member => exact readKindMember_eq_ok_iff.2 rfl

/-! ## The members of an entry -/

/-- The spellings of one member of an entry that has not been read yet, with the members that have
been read before it and after it. -/
inductive MemberSpelling (m : Members) : Members → List Token → Prop
  | typeName {s : String} (h : m.typeName = none) :
      MemberSpelling m ⟨some s, m.kind⟩ [.text typeMember, .colon, .text s]
  | kind {k : AdapterKind} {w : List Token} (h : m.kind = none) (hw : KindSpelling k w) :
      MemberSpelling m ⟨m.typeName, some k⟩ (.text kindMember :: .colon :: w)

/-- The spellings of the members of an entry that are still to come, up to the closing brace. -/
inductive MembersSpelling (e : AdapterEntry) : Nat → Members → List Token → Prop
  | last {left : Nat} {m : Members} {w : List Token}
      (h : MemberSpelling m ⟨some e.typeName, some e.kind⟩ w) :
      MembersSpelling e left m (w ++ [.closeBrace])
  | next {left : Nat} {m m' : Members} {w ws : List Token} (h : MemberSpelling m m' w)
      (hs : MembersSpelling e left m' ws) : MembersSpelling e (left + 1) m (w ++ .comma :: ws)

theorem Members.entry_eq_ok_iff {m : Members} {e : AdapterEntry} :
    m.entry = .ok e ↔ m = ⟨some e.typeName, some e.kind⟩ := by
  obtain ⟨s, k⟩ := e
  obtain ⟨_ | s', _ | k'⟩ := m <;> simp [Members.entry, misshapen]

theorem reads_member (m : Members) : Reads (readMember m) (MemberSpelling m) := by
  intro ts m' rest
  constructor
  · fun_cases readMember m ts with
    | case2 ts hseen =>
      intro h
      simp only [bind_eq_ok_iff, Prod.exists, expectMark_eq_ok_iff, readTypeName_eq_ok_iff] at h
      obtain ⟨_, rfl, s, _, rfl, h⟩ := h
      cases h
      exact ⟨_, .typeName (Option.not_isSome_iff_eq_none.1 hseen), rfl⟩
    | case4 ts hseen =>
      intro h
      simp only [bind_eq_ok_iff, Prod.exists, expectMark_eq_ok_iff] at h
      obtain ⟨_, rfl, k, _, hk, h⟩ := h
      obtain ⟨w, hw, rfl⟩ := (reads_kind _ _ _).1 hk
      cases h
      exact ⟨_, .kind (Option.not_isSome_iff_eq_none.1 hseen) hw, rfl⟩
    | case1 | case3 | case5 => exact nofun
    | case6 => exact fun h => absurd h noText_ne_ok
  · rintro ⟨w, hw, rfl⟩
    cases hw with
    | typeName h =>
      simp only [List.cons_append, List.nil_append, readMember, if_true, h, Option.isSome_none]
      rfl
    | @kind k w h hw =>
      have hne : kindMember ≠ typeMember := by decide
      simp only [List.cons_append, readMember, if_neg hne, if_true, h, Option.isSome_none]
      exact bind_eq_ok_iff.2 ⟨_, expectMark_eq_ok_iff.2 rfl,
        bind_eq_ok_iff.2 ⟨_, reads_kind.append hw rest, rfl⟩⟩

theorem closeMembers_eq_ok_iff {m : Members} {e : AdapterEntry} {ts rest : List Token} :
    closeMembers m ts = .ok (e, rest) ↔
      m = ⟨some e.typeName, some e.kind⟩ ∧ ts = .closeBrace :: rest := by
  constructor
  · intro h
    obtain ⟨after, hclose, h⟩ := bind_eq_ok_iff.1 h
    obtain ⟨e', he, h⟩ := bind_eq_ok_iff.1 h
    cases h
    exact ⟨Members.entry_eq_ok_iff.1 he, expectMark_eq_ok_iff.1 hclose⟩
  · rintro ⟨hm, rfl⟩
    exact bind_eq_ok_iff.2 ⟨rest, expectMark_eq_ok_iff.2 rfl,
      bind_eq_ok_iff.2 ⟨e, Members.entry_eq_ok_iff.2 hm, rfl⟩⟩

/-- The members that are to come are read one after the other, which is by induction on how many
there may be. -/
theorem reads_members (left : Nat) (m : Members) :
    Reads (readMembers left m) fun e => MembersSpelling e left m := by
  intro ts e rest
  constructor
  · intro h
    induction left generalizing m ts with
    | zero =>
      obtain ⟨⟨m', after⟩, hm, hafter⟩ := bind_eq_ok_iff.1 h
      obtain ⟨w, hw, rfl⟩ := (reads_member m _ _ _).1 hm
      obtain ⟨rfl, rfl⟩ := closeMembers_eq_ok_iff.1 hafter
      exact ⟨_, .last hw, by simp⟩
    | succ left ih =>
      obtain ⟨⟨m', after⟩, hm, hafter⟩ := bind_eq_ok_iff.1 h
      obtain ⟨w, hw, rfl⟩ := (reads_member m _ _ _).1 hm
      dsimp only at hafter
      split at hafter
      · obtain ⟨ws, hws, rfl⟩ := ih _ _ hafter
        exact ⟨_, .next hw hws, by simp⟩
      · obtain ⟨rfl, rfl⟩ := closeMembers_eq_ok_iff.1 hafter
        exact ⟨_, .last hw, by simp⟩
  · rintro ⟨w, hw, rfl⟩
    induction hw with
    | @last left m w hw =>
      have hclose : closeMembers ⟨some e.typeName, some e.kind⟩ (.closeBrace :: rest) =
          .ok (e, rest) := closeMembers_eq_ok_iff.2 ⟨rfl, rfl⟩
      rw [List.append_assoc, List.singleton_append]
      cases left <;>
        exact bind_eq_ok_iff.2 ⟨_, (reads_member m).append hw _, hclose⟩
    | next hw _ ih =>
      rw [List.append_assoc]
      exact bind_eq_ok_iff.2 ⟨_, (reads_member _).append hw _, ih⟩

section Members

variable {e : AdapterEntry} {left : Nat} {s : String} {k : AdapterKind} {ts w : List Token}

theorem not_memberSpelling_full {m : Members} : ¬ MemberSpelling ⟨some s, some k⟩ m w := by
  rintro (⟨⟨⟩⟩ | ⟨⟨⟩⟩)

theorem not_membersSpelling_full : ¬ MembersSpelling e left ⟨some s, some k⟩ ts := by
  rintro (h | ⟨h, -⟩) <;> exact not_memberSpelling_full h

/-- Behind the type there is only the kind to come. -/
theorem membersSpelling_of_typeName (h : MembersSpelling e left ⟨some s, none⟩ ts) :
    s = e.typeName ∧
      ∃ w, KindSpelling e.kind w ∧ ts = [.text kindMember, .colon] ++ w ++ [.closeBrace] := by
  obtain ⟨name, kind⟩ := e
  cases h with
  | last h =>
    cases h with
    | kind _ hw => exact ⟨rfl, _, hw, rfl⟩
  | next h hs =>
    cases h with
    | typeName h => cases h
    | kind => exact absurd hs not_membersSpelling_full

/-- Behind the kind there is only the type to come. -/
theorem membersSpelling_of_kind (h : MembersSpelling e left ⟨none, some k⟩ ts) :
    k = e.kind ∧ ts = [.text typeMember, .colon, .text e.typeName, .closeBrace] := by
  obtain ⟨name, kind⟩ := e
  cases h with
  | last h =>
    cases h with
    | typeName => exact ⟨rfl, rfl⟩
  | next h hs =>
    cases h with
    | typeName => exact absurd hs not_membersSpelling_full
    | kind h => cases h

end Members

/-- The members of an entry both come once, in either order. -/
theorem entrySpelling_of_members {e : AdapterEntry} {left : Nat} {ts : List Token}
    (h : MembersSpelling e left .empty ts) : EntrySpelling e (.openBrace :: ts) := by
  cases h with
  | last h => cases h
  | next h hs =>
    cases h with
    | typeName =>
      obtain ⟨rfl, w, hw, rfl⟩ := membersSpelling_of_typeName hs
      exact .typeFirst hw
    | kind _ hw =>
      obtain ⟨rfl, rfl⟩ := membersSpelling_of_kind hs
      exact .kindFirst hw

/-! ## Entries -/

theorem readEntryObject_eq_ok {e : AdapterEntry} {ts rest : List Token}
    (h : readEntryObject ts = .ok (e, rest)) :
    ∃ w, EntrySpelling e (.openBrace :: w) ∧ ts = w ++ rest := by
  revert h
  fun_cases readEntryObject ts with
  | case1 => exact nofun
  | case2 =>
    intro h
    obtain ⟨w, hw, rfl⟩ := (reads_members 2 .empty _ _ _).1 h
    exact ⟨w, entrySpelling_of_members hw, rfl⟩

theorem readEntrySequence_eq_ok_iff {e : AdapterEntry} {ts rest : List Token} :
    readEntrySequence ts = .ok (e, rest) ↔
      ∃ w, KindSpelling e.kind w ∧
        ts = .text e.typeName :: .comma :: (w ++ .closeBracket :: rest) := by
  constructor
  · intro h
    unfold readEntrySequence at h
    split at h
    · cases h
    · simp only [bind_eq_ok_iff, Prod.exists, readTypeName_eq_ok_iff] at h
      obtain ⟨s, _, rfl, h⟩ := h
      split at h
      · cases h
      · simp only [bind_eq_ok_iff, Prod.exists, expectMark_eq_ok_iff] at h
        obtain ⟨_, rfl, k, _, hk, _, rfl, h⟩ := h
        obtain ⟨w, hw, rfl⟩ := (reads_kind _ _ _).1 hk
        cases h
        exact ⟨w, hw, rfl⟩
  · rintro ⟨w, hw, rfl⟩
    have hkind := reads_kind.append hw (.closeBracket :: rest)
    exact bind_eq_ok_iff.2 ⟨_, readTypeName_eq_ok_iff.2 rfl, bind_eq_ok_iff.2 ⟨_,
      expectMark_eq_ok_iff.2 rfl, bind_eq_ok_iff.2 ⟨_, hkind, rfl⟩⟩⟩

theorem reads_entry : Reads readEntry EntrySpelling := by
  intro ts e rest
  constructor
  · fun_cases readEntry ts with
    | case1 ts =>
      intro h
      obtain ⟨w, hw, rfl⟩ := readEntryObject_eq_ok h
      exact ⟨_, hw, rfl⟩
    | case2 ts =>
      intro h
      obtain ⟨w, hw, rfl⟩ := readEntrySequence_eq_ok_iff.1 h
      exact ⟨_, .sequence hw, by simp⟩
    | case3 => exact fun h => absurd h unwanted_ne_ok
  · rintro ⟨w, hw, rfl⟩
    cases hw with
    | typeFirst hw =>
      exact (reads_members 2 .empty).append (.next (.typeName rfl) (.last (.kind rfl hw))) rest
    | kindFirst hw =>
      exact (reads_members 2 .empty).append (.next (.kind rfl hw) (.last (.typeName rfl))) rest
    | @sequence w hw =>
      rw [List.append_assoc]
      exact readEntrySequence_eq_ok_iff.2 ⟨w, hw, rfl⟩

/-! ## Lists of entries -/

theorem EntrySpelling.exists_cons {e : AdapterEntry} {w : List Token} (h : EntrySpelling e w) :
    ∃ t tail, w = t :: tail ∧ t ≠ .closeBracket := by
  cases h <;> exact ⟨_, _, rfl, nofun⟩

section Entries

variable {es : List AdapterEntry} {w : List Token}

theorem EntriesSpelling.exists_cons (h : EntriesSpelling es w) :
    ∃ t tail, w = t :: tail ∧ t ≠ .closeBracket := by
  cases h with
  | one h => exact h.exists_cons
  | cons h =>
    obtain ⟨t, tail, rfl, ht⟩ := h.exists_cons
    exact ⟨t, _, rfl, ht⟩

theorem EntriesSpelling.length_pos (h : EntriesSpelling es w) : 0 < es.length := by
  cases h <;> exact Nat.succ_pos _

/-- Every entry takes up tokens. -/
theorem EntriesSpelling.length_le (h : EntriesSpelling es w) : es.length ≤ w.length := by
  induction h with
  | one h =>
    obtain ⟨t, tail, rfl, -⟩ := h.exists_cons
    exact Nat.succ_le_succ (Nat.zero_le _)
  | cons h _ ih =>
    simp only [List.length_cons, List.length_append]
    omega

end Entries

/-- What is read as entries is a spelling of them. -/
theorem exists_spelling_of_readEntries {left : Nat} {ts rest : List Token}
    {es : List AdapterEntry} (h : readEntries left ts = .ok (es, rest)) :
    ∃ w, EntriesSpelling es w ∧ ts = w ++ .closeBracket :: rest := by
  induction left generalizing ts es with
  | zero =>
    unfold readEntries at h
    simp only [bind_eq_ok_iff, Prod.exists, expectMark_eq_ok_iff] at h
    obtain ⟨e, _, he, _, rfl, h⟩ := h
    obtain ⟨w, hw, rfl⟩ := (reads_entry _ _ _).1 he
    cases h
    exact ⟨w, .one hw, rfl⟩
  | succ left ih =>
    unfold readEntries at h
    simp only [bind_eq_ok_iff, Prod.exists] at h
    obtain ⟨e, _, he, h⟩ := h
    obtain ⟨w, hw, rfl⟩ := (reads_entry _ _ _).1 he
    split at h
    · simp only [bind_eq_ok_iff, Prod.exists] at h
      obtain ⟨es, _, hes, h⟩ := h
      cases h
      obtain ⟨ws, hws, rfl⟩ := ih hes
      exact ⟨_, .cons hw hws, by simp⟩
    · simp only [bind_eq_ok_iff, expectMark_eq_ok_iff] at h
      obtain ⟨_, rfl, h⟩ := h
      cases h
      exact ⟨w, .one hw, rfl⟩

/-- Entries are read if there may be as many, whatever follows the closing bracket. -/
theorem readEntries_of_spelling {es : List AdapterEntry} {w : List Token}
    (h : EntriesSpelling es w) {left : Nat} (hleft : es.length ≤ left + 1) (rest : List Token) :
    readEntries left (w ++ .closeBracket :: rest) = .ok (es, rest) := by
  induction h generalizing left with
  | one h =>
    have hentry := reads_entry.append h (.closeBracket :: rest)
    cases left <;> exact bind_eq_ok_iff.2 ⟨_, hentry, rfl⟩
  | @cons e es w ws h hs ih =>
    -- more entries follow, so that the bound is not used up
    have hpos := hs.length_pos
    rw [List.length_cons] at hleft
    cases left with
    | zero => omega
    | succ left =>
      have hentry := reads_entry.append h (.comma :: (ws ++ .closeBracket :: rest))
      have hentries := ih (Nat.le_of_succ_le_succ hleft)
      rw [List.append_assoc]
      exact bind_eq_ok_iff.2 ⟨_, hentry, bind_eq_ok_iff.2 ⟨_, hentries, rfl⟩⟩

theorem readAdapters_eq_readEntries {t : Token} (h : t ≠ .closeBracket) (ts : List Token) :
    readAdapters (.openBracket :: t :: ts) = readEntries (t :: ts).length (t :: ts) := by
  cases t with
  | closeBracket => exact absurd rfl h
  | _ => rfl

theorem reads_adapters : Reads readAdapters AdaptersSpelling := by
  intro ts es rest
  constructor
  · fun_cases readAdapters ts with
    | case1 ts =>
      intro h
      cases h
      exact ⟨_, .none, rfl⟩
    | case2 ts =>
      intro h
      obtain ⟨w, hw, rfl⟩ := exists_spelling_of_readEntries h
      exact ⟨_, .some hw, by simp⟩
    | case3 => exact fun h => absurd h unwanted_ne_ok
  · rintro ⟨w, hw, rfl⟩
    cases hw with
    | none => rfl
    | @some es w hw =>
      -- the tokens that are left are enough to bound the entries
      have hlength := hw.length_le
      obtain ⟨t, tail, rfl, ht⟩ := hw.exists_cons
      rw [List.append_assoc]
      show readAdapters (.openBracket :: t :: (tail ++ .closeBracket :: rest)) = _
      rw [readAdapters_eq_readEntries ht]
      refine readEntries_of_spelling hw ?_ rest
      simp only [List.length_cons, List.length_append] at hlength ⊢
      omega

/-! ## Configurations -/

theorem readAdaptersName_eq_ok_iff {seen : Bool} {ts rest : List Token} :
    readAdaptersName seen ts = .ok rest ↔ seen = false ∧ ts = .text adaptersMember :: rest := by
  constructor
  · fun_cases readAdaptersName seen ts with
    | case2 ts hseen =>
      intro h
      cases h
      exact ⟨Bool.not_eq_true _ ▸ hseen, rfl⟩
    | case1 | case3 => exact nofun
    | case4 => exact fun h => absurd h noText_ne_ok
  · rintro ⟨rfl, rfl⟩
    simp [readAdaptersName]

section Config

variable {c : RegistryConfig} {ts rest : List Token}

theorem readConfigObject_eq_ok_iff :
    readConfigObject ts = .ok (c, rest) ↔
      (c.adapters = [] ∧ ts = .closeBrace :: rest) ∨
        ∃ w, AdaptersSpelling c.adapters w ∧
          ts = .text adaptersMember :: .colon :: (w ++ .closeBrace :: rest) := by
  constructor
  · intro h
    unfold readConfigObject at h
    split at h
    · cases h
      exact .inl ⟨rfl, rfl⟩
    · simp only [bind_eq_ok_iff, Prod.exists, readAdaptersName_eq_ok_iff,
        expectMark_eq_ok_iff] at h
      obtain ⟨_, ⟨-, rfl⟩, _, rfl, es, _, hes, h⟩ := h
      obtain ⟨w, hw, rfl⟩ := (reads_adapters _ _ _).1 hes
      split at h
      · cases h
        exact .inr ⟨w, hw, rfl⟩
      · obtain ⟨_, -, h⟩ := bind_eq_ok_iff.1 h
        cases h
      · exact absurd h noMark_ne_ok
  · obtain ⟨es⟩ := c
    rintro (⟨rfl, rfl⟩ | ⟨w, hw, rfl⟩)
    · rfl
    · have hadapters := reads_adapters.append hw (.closeBrace :: rest)
      exact bind_eq_ok_iff.2 ⟨_, readAdaptersName_eq_ok_iff.2 ⟨rfl, rfl⟩, bind_eq_ok_iff.2 ⟨_,
        expectMark_eq_ok_iff.2 rfl, bind_eq_ok_iff.2 ⟨_, hadapters, rfl⟩⟩⟩

theorem AdaptersSpelling.exists_cons {es : List AdapterEntry} {w : List Token}
    (h : AdaptersSpelling es w) : ∃ tail, w = .openBracket :: tail := by
  cases h <;> exact ⟨_, rfl⟩

theorem readConfigSequence_eq_ok_iff :
    readConfigSequence ts = .ok (c, rest) ↔
      (c.adapters = [] ∧ ts = .closeBracket :: rest) ∨
        ∃ w, AdaptersSpelling c.adapters w ∧ ts = w ++ .closeBracket :: rest := by
  constructor
  · intro h
    unfold readConfigSequence at h
    split at h
    · cases h
      exact .inl ⟨rfl, rfl⟩
    · simp only [bind_eq_ok_iff, Prod.exists, expectMark_eq_ok_iff] at h
      obtain ⟨es, _, hes, _, rfl, h⟩ := h
      obtain ⟨w, hw, rfl⟩ := (reads_adapters _ _ _).1 hes
      cases h
      exact .inr ⟨w, hw, rfl⟩
  · obtain ⟨es⟩ := c
    rintro (⟨rfl, rfl⟩ | ⟨w, hw, rfl⟩)
    · rfl
    · have hadapters := reads_adapters.append hw (.closeBracket :: rest)
      obtain ⟨tail, rfl⟩ := hw.exists_cons
      exact bind_eq_ok_iff.2 ⟨_, hadapters, bind_eq_ok_iff.2 ⟨_, expectMark_eq_ok_iff.2 rfl, rfl⟩⟩

end Config

theorem reads_config : Reads readConfig ConfigSpelling := by
  intro ts c rest
  constructor
  · fun_cases readConfig ts with
    | case1 ts =>
      intro h
      obtain ⟨hes, rfl⟩ | ⟨w, hw, rfl⟩ := readConfigObject_eq_ok_iff.1 h
      · exact ⟨_, .emptyObject hes, rfl⟩
      · exact ⟨_, .object hw, by simp⟩
    | case2 ts =>
      intro h
      obtain ⟨hes, rfl⟩ | ⟨w, hw, rfl⟩ := readConfigSequence_eq_ok_iff.1 h
      · exact ⟨_, .emptySequence hes, rfl⟩
      · exact ⟨_, .sequence hw, by simp⟩
    | case3 => exact fun h => absurd h unwanted_ne_ok
  · rintro ⟨w, hw, rfl⟩
    cases hw with
    | @object w hw =>
      rw [List.append_assoc]
      exact readConfigObject_eq_ok_iff.2 (.inr ⟨w, hw, rfl⟩)
    | emptyObject h => exact readConfigObject_eq_ok_iff.2 (.inl ⟨h, rfl⟩)
    | @sequence w hw =>
      rw [List.append_assoc]
      exact readConfigSequence_eq_ok_iff.2 (.inr ⟨w, hw, rfl⟩)
    | emptySequence h => exact readConfigSequence_eq_ok_iff.2 (.inl ⟨h, rfl⟩)

/-! ## Texts -/

section Plain

variable {w : List Token}

/-- What stands between plain tokens is to be plain. -/
theorem isPlain_between {p q : List Token} (hp : ∀ t ∈ p, t.isPlain = true)
    (hw : ∀ t ∈ w, t.isPlain = true) (hq : ∀ t ∈ q, t.isPlain = true) :
    ∀ t ∈ p ++ w ++ q, t.isPlain = true :=
  List.forall_mem_append.2 ⟨List.forall_mem_append.2 ⟨hp, hw⟩, hq⟩

theorem KindSpelling.isPlain {k : AdapterKind} (h : KindSpelling k w) :
    ∀ t ∈ w, t.isPlain = true := by
  cases h <;> simp [Token.isPlain]

theorem EntrySpelling.isPlain {e : AdapterEntry} (h : EntrySpelling e w) :
    ∀ t ∈ w, t.isPlain = true := by
  cases h with
  | typeFirst h | kindFirst h | sequence h =>
    exact isPlain_between (by simp [Token.isPlain]) h.isPlain (by simp [Token.isPlain])

theorem EntriesSpelling.isPlain {es : List AdapterEntry} (h : EntriesSpelling es w) :
    ∀ t ∈ w, t.isPlain = true := by
  induction h with
  | one h => exact h.isPlain
  | cons h _ ih =>
    exact List.forall_mem_append.2 ⟨h.isPlain, List.forall_mem_cons.2 ⟨rfl, ih⟩⟩

theorem AdaptersSpelling.isPlain {es : List AdapterEntry} (h : AdaptersSpelling es w) :
    ∀ t ∈ w, t.isPlain = true := by
  cases h with
  | none => decide
  | some h => exact isPlain_between (by decide) h.isPlain (by decide)

/-- A configuration is made of marks, strings and `null`. -/
theorem ConfigSpelling.isPlain {c : RegistryConfig} (h : ConfigSpelling c w) :
    ∀ t ∈ w, t.isPlain = true := by
  cases h with
  | object h | sequence h => exact isPlain_between (by decide) h.isPlain (by decide)
  | emptyObject | emptySequence => decide

end Plain

section Texts

variable {text : String} {c : RegistryConfig}

/-- What is read is all of the tokens. -/
theorem read_eq_ok_iff_readConfig :
    read text = .ok c ↔ readConfig (tokens text.toList) = .ok (c, []) := by
  constructor
  · intro h
    simp only [read, bind_eq_ok_iff, Prod.exists] at h
    obtain ⟨c, rest, hc, h⟩ := h
    split at h
    · cases h
      exact hc
    · cases h
  · intro h
    exact bind_eq_ok_iff.2 ⟨_, h, rfl⟩

/-- Every spelling is read. -/
theorem Spelling.read_eq (h : Spelling c text) : read text = .ok c := by
  obtain ⟨ts, hts, htext⟩ := h
  have hread := reads_config.append hts []
  rw [read_eq_ok_iff_readConfig, htext.tokens_eq]
  rwa [List.append_nil] at hread

/-- Nothing else is read. -/
theorem spelling_of_read_eq (h : read text = .ok c) : Spelling c text := by
  rw [read_eq_ok_iff_readConfig] at h
  obtain ⟨ts, hts, htokens⟩ := (reads_config _ _ _).1 h
  rw [List.append_nil] at htokens
  exact ⟨ts, hts, (tokens_eq_iff hts.isPlain).1 htokens⟩

/-- **A text is read as a configuration just when it is one of its spellings.** -/
theorem read_eq_ok_iff : read text = .ok c ↔ Spelling c text :=
  ⟨spelling_of_read_eq, Spelling.read_eq⟩

end Texts

end RegistryConfig
end VariableNaming
