import VariableNaming.Proofs.RegistryConfig.Spelling

/-!
# Written configurations are read back

The written form of a configuration is one of its spellings.  The reader reads every spelling, so
that it gives the configuration back, and two configurations are never written alike.

* `exists_spelling_entry_write`, `exists_spelling_writeEntries` — the written forms of entries.
* `RegistryConfig.spelling_write` — the written form of a configuration spells it.
* `RegistryConfig.read_write` — **a written configuration is read back.**
-/

set_option autoImplicit false

namespace VariableNaming
namespace RegistryConfig

open Json

/-! ## Entries -/

/-- A written member is a name, a colon and a string. -/
theorem textSpelling_writeMember (name value : String) :
    TextSpelling [.text name, .colon, .text value] (writeMember name value) :=
  (textSpelling_writeString name).append (.mark (by decide) (textSpelling_writeString value))

/-- An entry is written as an object, with its type before its kind and the kind as a word. -/
theorem exists_spelling_entry_write (e : AdapterEntry) :
    ∃ ts, EntrySpelling e ts ∧ TextSpelling ts e.write := by
  have htype := textSpelling_writeMember typeMember e.typeName
  have hkind := textSpelling_writeMember kindMember e.kind.word
  refine ⟨_, .typeFirst .word, ?_⟩
  exact ((TextSpelling.mark (by decide) htype).append (.mark (by decide) hkind)).append
    (.mark (by decide) .nil)

/-- Entries are written with commas between them. -/
theorem exists_spelling_writeEntries {es : List AdapterEntry} (h : es ≠ []) :
    ∃ ts, EntriesSpelling es ts ∧ TextSpelling ts (writeEntries es) := by
  induction es with
  | nil => exact absurd rfl h
  | cons e es ih =>
    obtain ⟨ts, hts, htext⟩ := exists_spelling_entry_write e
    cases es with
    | nil => exact ⟨ts, .one hts, by simpa [writeEntries] using htext⟩
    | cons e' es =>
      obtain ⟨ts', hts', htext'⟩ := ih nofun
      refine ⟨_, .cons hts hts', ?_⟩
      have hwrite : writeEntries (e :: e' :: es) =
          e.write ++ ',' :: writeEntries (e' :: es) := by
        simp [writeEntries]
      rw [hwrite]
      exact htext.append (.mark (by decide) htext')

/-! ## Configurations -/

/-- The list of adapters is written in brackets. -/
theorem exists_spelling_write_adapters (es : List AdapterEntry) :
    ∃ ts, AdaptersSpelling es ts ∧ TextSpelling ts ('[' :: writeEntries es ++ [']']) := by
  cases es with
  | nil => exact ⟨_, .none, .mark (by decide) (.mark (by decide) .nil)⟩
  | cons e es =>
    obtain ⟨ts, hts, htext⟩ := exists_spelling_writeEntries (List.cons_ne_nil e es)
    exact ⟨_, .some hts, .append (.mark (by decide) htext) (.mark (by decide) .nil)⟩

/-- The written form of a configuration is one of its spellings. -/
theorem spelling_write (c : RegistryConfig) : Spelling c c.write := by
  obtain ⟨ts, hts, htext⟩ := exists_spelling_write_adapters c.adapters
  have hwrite : c.write.toList = '{' :: writeString adaptersMember.toList ++
      ':' :: ('[' :: writeEntries c.adapters ++ [']']) ++ ['}'] := by
    simp [write]
  refine ⟨_, .object hts, ?_⟩
  rw [hwrite]
  have hname := textSpelling_writeString adaptersMember
  exact ((TextSpelling.mark (by decide) hname).append (.mark (by decide) htext)).append
    (.mark (by decide) .nil)

/-- **A written configuration is read back**, so that no two configurations are written alike. -/
theorem read_write :
    (∀ c : RegistryConfig, read c.write = .ok c) ∧ Function.Injective write := by
  have hread (c : RegistryConfig) : read c.write = .ok c := (spelling_write c).read_eq
  refine ⟨hread, fun c d h => ?_⟩
  have hc := hread c
  rw [h, hread d] at hc
  exact (Except.ok.inj hc).symm

end RegistryConfig
end VariableNaming
