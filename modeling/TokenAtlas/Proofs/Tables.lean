import TokenAtlas.BlockText
import TokenAtlas.Proofs.Fields

/-!
# Tables from blocks

A table that is made from a block has an entry for each key of the block, and that entry depends on
the key and its value alone.  So a block gives a table just when each of its values gives an entry.

## Key results

- `lookup?_of_addAll`: after additions a token has the entry of its last setting
- `lookup?_of_ofBlock`: what a table made from a block holds
- `exists_ofBlock`: when a block gives a table
- `ofText_eq_ok_iff`: a text gives the table of its block
-/

namespace TokenAtlas

/-- The entry that a token gets from the value that a block has for it. -/
def TableEntry.ofJson? {ε σ δ : Type} [TableEntry ε σ δ] (token : String) (j : Json) :
    Except EntryFault ε :=
  match TableEntry.read ε j with
  | .error how => .error (.malformed how)
  | .ok setting => TableEntry.make token (TableEntry.expand ε setting)

/-- What is changed after a success was a success before. -/
theorem map_eq_ok_iff {ε α β : Type} {f : α → β} {x : Except ε α} {b : β} :
    x.map f = .ok b ↔ ∃ a, x = .ok a ∧ f a = b := by
  cases x <;> simp [Except.map]

namespace Table

variable {ε σ δ : Type} [TableEntry ε σ δ]

/-! ## One addition -/

theorem add_eq_ok_iff {t t' : Table ε} {token : String} {d : δ} :
    t.add token d = .ok t' ↔ ∃ e, TableEntry.make token d = .ok e ∧ t' = t.insert token e := by
  unfold add
  cases (TableEntry.make token d : Except EntryFault ε) with
  | error fault => simp
  | ok e => simp [eq_comm]

/-! ## Additions one after the other -/

theorem addAll_cons_eq_ok_iff {t t' : Table ε} {token : String} {setting : σ}
    {rest : List (String × σ)} :
    t.addAll ((token, setting) :: rest) = .ok t' ↔
      ∃ e, TableEntry.make token (TableEntry.expand ε setting) = .ok e ∧
        (t.insert token e).addAll rest = .ok t' := by
  rw [addAll]
  cases h : t.add token (TableEntry.expand ε setting) with
  | error e =>
    simp only [reduceCtorEq, false_iff, not_exists, not_and]
    intro e' he'
    have hadd : t.add token (TableEntry.expand ε setting) = .ok (t.insert token e') :=
      add_eq_ok_iff.2 ⟨e', he', rfl⟩
    exact nomatch h.symm.trans hadd
  | ok t₁ =>
    obtain ⟨e, he, rfl⟩ := add_eq_ok_iff.1 h
    simp [he]

/-- Additions keep the name of a table. -/
theorem name_of_addAll {t t' : Table ε} {settings : List (String × σ)}
    (h : t.addAll settings = .ok t') : t'.name = t.name := by
  induction settings generalizing t with
  | nil =>
    obtain rfl := Except.ok.inj h
    rfl
  | cons p rest ih =>
    obtain ⟨e, -, hrest⟩ := addAll_cons_eq_ok_iff.1 h
    exact ih (t := t.insert p.1 e) hrest

/-- Settings are added just when each of them gives an entry. -/
theorem exists_addAll {t : Table ε} {settings : List (String × σ)}
    (h : ∀ p ∈ settings, ∃ e : ε, TableEntry.make p.1 (TableEntry.expand ε p.2) = .ok e) :
    ∃ t', t.addAll settings = .ok t' := by
  induction settings generalizing t with
  | nil => exact ⟨t, rfl⟩
  | cons p rest ih =>
    obtain ⟨e, he⟩ := h p (by simp)
    obtain ⟨t', ht'⟩ := ih (t := t.insert p.1 e) fun q hq => h q (by simp [hq])
    exact ⟨t', addAll_cons_eq_ok_iff.2 ⟨e, he, ht'⟩⟩

/-- After additions a token has the entry of its last setting, if it has any. -/
theorem lookup?_of_addAll {t t' : Table ε} {settings : List (String × σ)}
    (h : t.addAll settings = .ok t') (token : String) :
    (lastValue? token settings = none ∧ t'.lookup? token = t.lookup? token) ∨
      ∃ setting e, lastValue? token settings = some setting ∧
        TableEntry.make token (TableEntry.expand ε setting) = .ok e ∧
        t'.lookup? token = some e := by
  induction settings generalizing t with
  | nil =>
    obtain rfl := Except.ok.inj h
    exact .inl ⟨rfl, rfl⟩
  | cons p rest ih =>
    obtain ⟨token₁, setting₁⟩ := p
    obtain ⟨e, he, hrest⟩ := addAll_cons_eq_ok_iff.1 h
    rw [lastValue?_cons]
    rcases ih hrest with ⟨hlast, hlookup⟩ | ⟨setting, e', hlast, he', hlookup⟩
    · -- No later setting is for the token, so the first one counts if it is.
      rw [lookup?_insert] at hlookup
      by_cases htoken : token₁ = token
      · subst htoken
        exact .inr ⟨setting₁, e, by simp [hlast], he, by simpa using hlookup⟩
      · exact .inl ⟨by simp [hlast, htoken], by simpa [htoken] using hlookup⟩
    · exact .inr ⟨setting, e', by simp [hlast], he', hlookup⟩

/-! ## Values of a block -/

theorem readSetting_eq_ok_iff {name key : String} {j : Json} {setting : σ} :
    readSetting ε name key j = .ok setting ↔ TableEntry.read ε j = .ok setting := by
  unfold readSetting
  cases TableEntry.read ε j <;> simp

/-- The only thing that can be wrong with a value is that it is no setting, and its key is blamed
    for that. -/
theorem readSetting_eq_error_iff {name key : String} {j : Json} {e : BuildError} :
    (readSetting ε name key j : Except BuildError σ) = .error e ↔
      ∃ how, TableEntry.read ε j = .error how ∧ e = .entry name key (.malformed how) := by
  unfold readSetting
  cases TableEntry.read ε j <;> simp [eq_comm]

theorem readSettings_cons_eq_ok_iff {name key : String} {j : Json} {rest : List (String × Json)}
    {settings : List (String × σ)} :
    readSettings ε name ((key, j) :: rest) = .ok settings ↔
      ∃ setting settings', TableEntry.read ε j = .ok setting ∧
        readSettings ε name rest = .ok settings' ∧ settings = (key, setting) :: settings' := by
  rw [readSettings]
  cases h : (readSetting ε name key j : Except BuildError σ) with
  | error e =>
    obtain ⟨how, hread, -⟩ := readSetting_eq_error_iff.1 h
    simp [hread]
  | ok setting =>
    simp only [readSetting_eq_ok_iff.1 h, map_eq_ok_iff, Except.ok.injEq]
    constructor
    · rintro ⟨settings', hrest, rfl⟩
      exact ⟨setting, settings', rfl, hrest, rfl⟩
    · rintro ⟨_, settings', rfl, hrest, rfl⟩
      exact ⟨settings', hrest, rfl⟩

/-- Values are read just when each of them is a setting. -/
theorem exists_readSettings {name : String} {pairs : List (String × Json)}
    (h : ∀ p ∈ pairs, ∃ setting, TableEntry.read ε p.2 = .ok setting) :
    ∃ settings, readSettings ε name pairs = .ok settings ∧
      ∀ q ∈ settings, ∃ p ∈ pairs, p.1 = q.1 ∧ TableEntry.read ε p.2 = .ok q.2 := by
  induction pairs with
  | nil => exact ⟨[], rfl, by simp⟩
  | cons p rest ih =>
    obtain ⟨setting, hsetting⟩ := h p (by simp)
    obtain ⟨settings, hsettings, hmem⟩ := ih fun q hq => h q (by simp [hq])
    refine ⟨(p.1, setting) :: settings,
      readSettings_cons_eq_ok_iff.2 ⟨setting, settings, hsetting, hsettings, rfl⟩, ?_⟩
    rintro q hq
    rcases List.mem_cons.1 hq with rfl | hq
    · exact ⟨p, by simp, rfl, hsetting⟩
    · obtain ⟨p', hp', hread⟩ := hmem q hq
      exact ⟨p', by simp [hp'], hread⟩

/-- The last setting of a key is read from the last value of that key. -/
theorem lastValue?_of_readSettings {name : String} {pairs : List (String × Json)}
    {settings : List (String × σ)} (h : readSettings ε name pairs = .ok settings) (key : String) :
    (lastValue? key pairs = none ∧ lastValue? key settings = none) ∨
      ∃ j setting, lastValue? key pairs = some j ∧ TableEntry.read ε j = .ok setting ∧
        lastValue? key settings = some setting := by
  induction pairs generalizing settings with
  | nil =>
    obtain rfl := Except.ok.inj h
    exact .inl ⟨rfl, rfl⟩
  | cons p rest ih =>
    obtain ⟨setting₁, settings', hread, hrest, rfl⟩ := readSettings_cons_eq_ok_iff.1 h
    rw [lastValue?_cons, lastValue?_cons]
    -- The value of this pair counts only if no later one has the key.
    rcases ih hrest with ⟨hpairs, hsettings⟩ | ⟨j, setting, hpairs, hsetting, hsettings⟩
    · by_cases hkey : p.1 = key
      · exact .inr ⟨p.2, setting₁, by simp [hpairs, hkey], hread, by simp [hsettings, hkey]⟩
      · exact .inl ⟨by simp [hpairs, hkey], by simp [hsettings, hkey]⟩
    · exact .inr ⟨j, setting, by simp [hpairs], hsetting, by simp [hsettings]⟩

/-! ## Tables from blocks -/

theorem ofBlock_eq_ok_iff {name : String} {b : Block} {t : Table ε} :
    ofBlock name b = .ok t ↔ ∃ settings, readSettings ε name b.toList = .ok settings ∧
      (empty name : Table ε).addAll settings = .ok t := by
  rw [ofBlock]
  cases readSettings ε name b.toList with
  | error e => simp
  | ok settings => simp [ofSettings]

/-- A table made from a block has the name that was asked for. -/
theorem name_of_ofBlock {name : String} {b : Block} {t : Table ε} (h : ofBlock name b = .ok t) :
    t.name = name := by
  obtain ⟨settings, -, hadd⟩ := ofBlock_eq_ok_iff.1 h
  exact name_of_addAll hadd

/-- A key of the block has the entry that its value gives it, and another token has none. -/
theorem lookup?_of_ofBlock {name : String} {b : Block} {t : Table ε} (h : ofBlock name b = .ok t)
    (key : String) :
    (b.get? key = none ∧ t.lookup? key = none) ∨
      ∃ j e, b.get? key = some j ∧ TableEntry.ofJson? key j = .ok e ∧ t.lookup? key = some e := by
  obtain ⟨settings, hread, hadd⟩ := ofBlock_eq_ok_iff.1 h
  rw [← b.lastValue?_toList]
  -- A key is in the settings just when it is in the block, and in the table just when it is in the
  -- settings.
  rcases lastValue?_of_readSettings hread key with ⟨hpairs, hsettings⟩ | ⟨j, s, hpairs, hj, hs⟩
  · rcases lookup?_of_addAll hadd key with ⟨-, hlookup⟩ | ⟨s, e, hlast, -, -⟩
    · exact .inl ⟨hpairs, hlookup⟩
    · exact absurd (hsettings.symm.trans hlast) (by simp)
  · rcases lookup?_of_addAll hadd key with ⟨hlast, -⟩ | ⟨s', e, hlast, he, hlookup⟩
    · exact absurd (hs.symm.trans hlast) (by simp)
    · obtain rfl : s = s' := Option.some.inj (hs.symm.trans hlast)
      exact .inr ⟨j, e, hpairs, by simp [TableEntry.ofJson?, hj, he], hlookup⟩

/-- A block gives a table if each of its values gives an entry. -/
theorem exists_ofBlock {name : String} {b : Block}
    (h : ∀ key j, b.get? key = some j → ∃ e : ε, TableEntry.ofJson? key j = .ok e) :
    ∃ t : Table ε, ofBlock name b = .ok t := by
  have hentry : ∀ p ∈ b.toList, ∃ setting, TableEntry.read ε p.2 = .ok setting ∧
      ∃ e : ε, TableEntry.make p.1 (TableEntry.expand ε setting) = .ok e := by
    rintro ⟨key, j⟩ hp
    obtain ⟨e, he⟩ := h key j (Fields.mem_toList_iff.1 hp)
    rw [TableEntry.ofJson?] at he
    split at he
    · exact nomatch he
    · rename_i setting hsetting
      exact ⟨setting, hsetting, e, he⟩
  have hread : ∀ p ∈ b.toList, ∃ setting, TableEntry.read ε p.2 = .ok setting :=
    fun p hp => (hentry p hp).imp fun _ hs => hs.1
  -- All values are read before the first entry is made.
  obtain ⟨settings, hsettings, hmem⟩ := @exists_readSettings ε σ δ _ name _ hread
  have hmake : ∀ q ∈ settings, ∃ e : ε,
      TableEntry.make q.1 (TableEntry.expand ε q.2) = .ok e := by
    intro q hq
    obtain ⟨p, hp, hkey, hread⟩ := hmem q hq
    obtain ⟨setting, hsetting, e, he⟩ := hentry p hp
    obtain rfl : setting = q.2 := Except.ok.inj (hsetting.symm.trans hread)
    exact ⟨e, hkey ▸ he⟩
  obtain ⟨t, ht⟩ := exists_addAll (t := empty name) hmake
  exact ⟨t, ofBlock_eq_ok_iff.2 ⟨settings, hsettings, ht⟩⟩

/-- A text gives a table if it stands for a block that does. -/
theorem ofText_eq_ok_iff {format : DocumentFormat} {name text : String} {t : Table ε} :
    ofText format name text = .ok t ↔
      ∃ b, Block.ofText? format text = some b ∧ ofBlock name b = .ok t := by
  rw [ofText, Block.read]
  cases Block.ofText? format text <;> simp

end Table

end TokenAtlas
