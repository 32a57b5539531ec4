import TokenAtlas.Proofs.Tables
import TokenAtlas.Proofs.Text.ByteOrder

/-!
# Which entry of a block is at fault

A table is made from a block in two passes, both in the order of the keys.  The first pass reads the
values and stops at the first that is no setting; the second adds the entries and stops at the first
that is refused.  So a block gives a complete table or is blamed on one key: on the smallest one
with a malformed value, and only without any of those on the smallest one that is refused.  Entries
do not influence one another, so that key alone would be blamed for the same.

## Key results

- `readSettings_eq_error_iff`, `addAll_eq_error_iff`: where each of the passes stops
- `ofBlock_single`: what a block with one key gives
- `ofBlock_blames_least`: what any block gives
-/

namespace TokenAtlas

/-- The smallest key with a property, in the order of the bytes of the UTF-8 forms. -/
def IsLeastKey (P : String → Prop) (key : String) : Prop :=
  P key ∧ ∀ other, P other → Text.bytes key ≤ Text.bytes other

namespace Block

/-- The block with a single key. -/
def single (key : String) (j : Json) : Block := .ofList [(key, j)]

variable (ε : Type) {σ δ : Type} [TableEntry ε σ δ]

/-- A key whose value is no setting. -/
def Malformed (b : Block) (key : String) : Prop :=
  ∃ j how, b.get? key = some j ∧ TableEntry.read ε j = .error how

/-- A key whose value is a setting that is not fit for an entry. -/
def Refused (b : Block) (key : String) : Prop :=
  ∃ j setting fault, b.get? key = some j ∧ TableEntry.read ε j = .ok setting ∧
    (TableEntry.make key (TableEntry.expand ε setting) : Except EntryFault ε) = .error fault

end Block

/-- The first pair with a property has the smallest key, if the keys increase. -/
theorem key_le_of_find? {α : Type} {pairs : List (String × α)} {P : String × α → Bool}
    {p q : String × α} (hs : pairs.Pairwise (fun a b => a.1 < b.1))
    (hp : pairs.find? P = some p) (hq : q ∈ pairs) (hP : P q = true) : p.1 ≤ q.1 := by
  induction pairs with
  | nil => exact absurd hq (by simp)
  | cons r rest ih =>
    obtain ⟨hr, hrest⟩ := List.pairwise_cons.1 hs
    rw [List.find?_cons] at hp
    -- Where the first key has the property it is found, and all later ones are greater.
    cases hPr : P r with
    | true =>
      obtain rfl : r = p := by simpa [hPr] using hp
      rcases List.mem_cons.1 hq with rfl | hq
      · exact String.le_refl _
      · exact String.not_lt.1 (String.lt_asymm (hr q hq))
    | false =>
      rcases List.mem_cons.1 hq with rfl | hq
      · exact absurd hP (by simp [hPr])
      · exact ih hrest (by simpa [hPr] using hp) hq

/-- A result that is no success is a failure. -/
theorem not_isOk_iff {α β : Type} {x : Except α β} : (!x.isOk) = true ↔ ∃ e, x = .error e := by
  cases x <;> simp [Except.isOk, Except.toBool]

namespace Table

variable {ε σ δ : Type} [TableEntry ε σ δ]

/-! ## The first pass -/

variable (ε) in
/-- Whether the value of a key is no setting. -/
def readFails (p : String × Json) : Bool := !(TableEntry.read ε p.2).isOk

theorem readFails_iff {p : String × Json} :
    readFails ε p = true ↔ ∃ how, TableEntry.read ε p.2 = .error how :=
  not_isOk_iff

/-- Reading stops at the first value that is no setting. -/
theorem readSettings_eq_error_iff {name : String} {pairs : List (String × Json)} {e : BuildError} :
    readSettings ε name pairs = .error e ↔
      ∃ key j how, pairs.find? (readFails ε) = some (key, j) ∧ TableEntry.read ε j = .error how ∧
        e = .entry name key (.malformed how) := by
  induction pairs with
  | nil => simp [readSettings]
  | cons p rest ih =>
    obtain ⟨key, j⟩ := p
    rw [readSettings, List.find?_cons]
    cases hread : TableEntry.read ε j with
    | error how =>
      rw [readSetting_eq_error_iff.2 ⟨how, hread, rfl⟩]
      have hfails : readFails ε (key, j) = true := readFails_iff.2 ⟨how, hread⟩
      simp only [hfails]
      constructor
      · intro h
        exact ⟨key, j, how, rfl, hread, (Except.error.inj h).symm⟩
      · rintro ⟨_, _, how', hp, hread', rfl⟩
        obtain ⟨rfl, rfl⟩ := Prod.mk.inj (Option.some.inj hp)
        obtain rfl : how = how' := Except.error.inj (hread.symm.trans hread')
        rfl
    | ok setting =>
      -- The error, if there is one, is that of the rest.
      rw [readSetting_eq_ok_iff.2 hread]
      have hfails : readFails ε (key, j) = false := by
        simp [readFails, hread, Except.isOk, Except.toBool]
      simp only [hfails, ← ih]
      cases readSettings ε name rest <;> simp [Except.map]

/-- What is read has the keys of the values. -/
theorem keys_of_readSettings {name : String} {pairs : List (String × Json)}
    {settings : List (String × σ)} (h : readSettings ε name pairs = .ok settings) :
    settings.map (·.1) = pairs.map (·.1) := by
  induction pairs generalizing settings with
  | nil =>
    obtain rfl := Except.ok.inj h
    rfl
  | cons p rest ih =>
    obtain ⟨setting, settings', -, hrest, rfl⟩ := readSettings_cons_eq_ok_iff.1 h
    rw [List.map_cons, List.map_cons, ih hrest]

/-- A setting is read from the value of its key, and every value gives one. -/
theorem mem_settings_iff {name : String} {pairs : List (String × Json)}
    {settings : List (String × σ)} (h : readSettings ε name pairs = .ok settings) {key : String}
    {setting : σ} :
    (key, setting) ∈ settings ↔
      ∃ j, (key, j) ∈ pairs ∧ TableEntry.read ε j = .ok setting := by
  induction pairs generalizing settings with
  | nil =>
    obtain rfl := Except.ok.inj h
    simp
  | cons p rest ih =>
    obtain ⟨setting', settings', hread, hrest, rfl⟩ := readSettings_cons_eq_ok_iff.1 h
    rw [List.mem_cons, ih hrest]
    constructor
    · rintro (heq | ⟨j, hj, hset⟩)
      · obtain ⟨rfl, rfl⟩ := Prod.mk.inj heq
        exact ⟨p.2, by simp, hread⟩
      · exact ⟨j, by simp [hj], hset⟩
    · rintro ⟨j, hj, hset⟩
      rcases List.mem_cons.1 hj with rfl | hj
      · obtain rfl : setting' = setting := Except.ok.inj (hread.symm.trans hset)
        exact .inl rfl
      · exact .inr ⟨j, hj, hset⟩

/-! ## The second pass -/

variable (ε) in
/-- Whether a setting is not fit for an entry. -/
def makeFails (p : String × σ) : Bool :=
  !(TableEntry.make p.1 (TableEntry.expand ε p.2) : Except EntryFault ε).isOk

theorem makeFails_iff {p : String × σ} :
    makeFails ε p = true ↔ ∃ fault,
      (TableEntry.make p.1 (TableEntry.expand ε p.2) : Except EntryFault ε) = .error fault :=
  not_isOk_iff

/-- Adding stops at the first setting that is refused. -/
theorem addAll_eq_error_iff {t : Table ε} {settings : List (String × σ)} {e : BuildError} :
    t.addAll settings = .error e ↔
      ∃ token setting fault, settings.find? (makeFails ε) = some (token, setting) ∧
        (TableEntry.make token (TableEntry.expand ε setting) : Except EntryFault ε) = .error fault ∧
        e = .entry t.name token fault := by
  induction settings generalizing t with
  | nil => simp [addAll]
  | cons p rest ih =>
    obtain ⟨token, setting⟩ := p
    rw [addAll, List.find?_cons, add]
    cases hmake : (TableEntry.make token (TableEntry.expand ε setting) : Except EntryFault ε) with
    | error fault =>
      have hfails : makeFails ε (token, setting) = true := makeFails_iff.2 ⟨fault, hmake⟩
      simp only [hfails]
      constructor
      · intro h
        exact ⟨token, setting, fault, rfl, hmake, (Except.error.inj h).symm⟩
      · rintro ⟨_, _, fault', hp, hmake', rfl⟩
        obtain ⟨rfl, rfl⟩ := Prod.mk.inj (Option.some.inj hp)
        obtain rfl : fault = fault' := Except.error.inj (hmake.symm.trans hmake')
        rfl
    | ok entry =>
      -- The table has one entry more, but errors only name it.
      have hfails : makeFails ε (token, setting) = false := by
        simp [makeFails, hmake, Except.isOk, Except.toBool]
      simp only [hfails]
      exact ih (t := t.insert token entry)

/-! ## Blocks -/

/-- A block with one key gives the entry of its value, or fails as that entry does. -/
theorem ofBlock_single (name key : String) (j : Json) :
    (ofBlock name (.single key j) : Except BuildError (Table ε)) =
      match TableEntry.ofJson? key j with
      | .ok e => .ok ((empty name).insert key e)
      | .error fault => .error (.entry name key fault) := by
  have hlist : (Block.single key j).toList = [(key, j)] := rfl
  rw [ofBlock, hlist, readSettings, readSetting, TableEntry.ofJson?]
  cases TableEntry.read ε j with
  | error how => rfl
  | ok setting =>
    simp only [readSettings, Except.map, ofSettings, addAll, add]
    cases (TableEntry.make key (TableEntry.expand ε setting) : Except EntryFault ε) <;> rfl

/-- Where every value of a block gives an entry, the table has just the entries of its keys. -/
theorem ofBlock_ok_of_entries {name : String} {b : Block} {t : Table ε}
    (h : ofBlock name b = .ok t) :
    t.tokens.Perm b.names ∧ t.size = b.size ∧ ∀ key j, b.get? key = some j →
      ∃ e t₁, TableEntry.ofJson? key j = .ok e ∧ ofBlock name (.single key j) = .ok t₁ ∧
        t₁.lookup? key = some e ∧ t.lookup? key = some e := by
  -- Neither tokens nor keys repeat, so having the same ones is enough.
  have hmem : ∀ token, token ∈ t.tokens ↔ token ∈ b.names := by
    intro token
    rw [mem_tokens_iff, contains_eq_isSome, ← Fields.contains_iff_mem_names, Fields.contains]
    rcases lookup?_of_ofBlock h token with ⟨hget, hlookup⟩ | ⟨j, e, hget, -, hlookup⟩ <;>
      rw [hget, hlookup] <;> simp
  have htokens : t.tokens.Perm b.names :=
    (List.perm_ext_iff_of_nodup t.nodup_tokens b.nodup_names).2 hmem
  refine ⟨htokens, ?_, fun key j hj => ?_⟩
  · rw [← t.length_tokens, htokens.length_eq, b.length_names]
  · rcases lookup?_of_ofBlock h key with ⟨hget, -⟩ | ⟨j', e, hget, he, hlookup⟩
    · cases hj.symm.trans hget
    · obtain rfl : j = j' := Option.some.inj (hj.symm.trans hget)
      refine ⟨e, (empty name).insert key e, he, ?_, by simp [lookup?_insert], hlookup⟩
      rw [ofBlock_single, he]

/-- When the first pass stops, it stops at the smallest key that is malformed. -/
theorem least_malformed_of_readSettings {name : String} {b : Block} {e : BuildError}
    (h : readSettings ε name b.toList = .error e) :
    ∃ key j how, IsLeastKey (b.Malformed ε) key ∧ b.get? key = some j ∧
      TableEntry.read ε j = .error how ∧ e = .entry name key (.malformed how) := by
  obtain ⟨key, j, how, hfind, hread, rfl⟩ := readSettings_eq_error_iff.1 h
  have hget : b.get? key = some j := Fields.mem_toList_iff.1 (List.mem_of_find?_eq_some hfind)
  refine ⟨key, j, how, ⟨⟨j, how, hget, hread⟩, ?_⟩, hget, hread, rfl⟩
  rintro other ⟨j', how', hget', hread'⟩
  exact Text.bytes_le_bytes_iff.2 (key_le_of_find? (q := (other, j')) b.sorted hfind
    (Fields.mem_toList_iff.2 hget') (readFails_iff.2 ⟨how', hread'⟩))

/-- When the first pass gets through, no key is malformed. -/
theorem not_malformed_of_readSettings {name : String} {b : Block} {settings : List (String × σ)}
    (h : readSettings ε name b.toList = .ok settings) : ¬ ∃ key, b.Malformed ε key := by
  rintro ⟨key, j, how, hget, hread⟩
  have hmem : (key, j) ∈ b.toList := Fields.mem_toList_iff.2 hget
  have hkey : key ∈ settings.map (·.1) := by
    rw [keys_of_readSettings h]
    exact List.mem_map_of_mem hmem
  obtain ⟨⟨_, setting⟩, hsetting, rfl⟩ := List.mem_map.1 hkey
  obtain ⟨j', hj', hread'⟩ := (mem_settings_iff h).1 hsetting
  obtain rfl : j = j' := Option.some.inj (hget.symm.trans (Fields.mem_toList_iff.1 hj'))
  cases hread.symm.trans hread'

/-- When the second pass stops, it stops at the smallest key that is refused. -/
theorem least_refused_of_addAll {name : String} {b : Block} {settings : List (String × σ)}
    {e : BuildError} (hread : readSettings ε name b.toList = .ok settings)
    (h : (empty name : Table ε).addAll settings = .error e) :
    ∃ key j setting fault, IsLeastKey (b.Refused ε) key ∧ b.get? key = some j ∧
      TableEntry.read ε j = .ok setting ∧
      (TableEntry.make key (TableEntry.expand ε setting) : Except EntryFault ε) = .error fault ∧
      e = .entry name key fault := by
  obtain ⟨key, setting, fault, hfind, hmake, rfl⟩ := addAll_eq_error_iff.1 h
  obtain ⟨j, hj, hset⟩ := (mem_settings_iff hread).1 (List.mem_of_find?_eq_some hfind)
  have hget : b.get? key = some j := Fields.mem_toList_iff.1 hj
  refine ⟨key, j, setting, fault, ⟨⟨j, setting, fault, hget, hset, hmake⟩, ?_⟩, hget, hset, hmake,
    rfl⟩
  rintro other ⟨j', setting', fault', hget', hset', hmake'⟩
  -- The settings have the keys of the block, in the same order.
  have hsorted : settings.Pairwise (fun a b => a.1 < b.1) := by
    have hkeys := b.pairwise_names
    rwa [Fields.names, ← keys_of_readSettings hread, List.pairwise_map] at hkeys
  exact Text.bytes_le_bytes_iff.2 (key_le_of_find? (q := (other, setting')) hsorted hfind
    ((mem_settings_iff hread).2 ⟨j', Fields.mem_toList_iff.2 hget', hset'⟩)
    (makeFails_iff.2 ⟨fault', hmake'⟩))

/-- When both passes get through, no key is refused. -/
theorem not_refused_of_ofBlock {name : String} {b : Block} {t : Table ε}
    (h : ofBlock name b = .ok t) : ¬ ∃ key, b.Refused ε key := by
  rintro ⟨key, j, setting, fault, hget, hset, hmake⟩
  rcases lookup?_of_ofBlock h key with ⟨hnone, -⟩ | ⟨j', e, hget', he, -⟩
  · cases hget.symm.trans hnone
  · obtain rfl : j = j' := Option.some.inj (hget.symm.trans hget')
    rw [TableEntry.ofJson?, hset] at he
    cases hmake.symm.trans he

/-- A block is blamed on its smallest malformed key, or without any on its smallest refused key, or
    gives a table. -/
theorem ofBlock_cases (name : String) (b : Block) :
    (∃ key j how, IsLeastKey (b.Malformed ε) key ∧ b.get? key = some j ∧
      TableEntry.read ε j = .error how ∧
      (ofBlock name b : Except BuildError (Table ε)) = .error (.entry name key (.malformed how))) ∨
    ((¬ ∃ key, b.Malformed ε key) ∧
      ∃ key j setting fault, IsLeastKey (b.Refused ε) key ∧ b.get? key = some j ∧
        TableEntry.read ε j = .ok setting ∧
        (TableEntry.make key (TableEntry.expand ε setting) : Except EntryFault ε) =
          .error fault ∧
        (ofBlock name b : Except BuildError (Table ε)) = .error (.entry name key fault)) ∨
    ((¬ ∃ key, b.Malformed ε key) ∧ (¬ ∃ key, b.Refused ε key) ∧
      ∃ t : Table ε, ofBlock name b = .ok t) := by
  -- All settings are read before any entry is made, so a malformed key comes before a refused one.
  cases hread : readSettings ε name b.toList with
  | error e =>
    obtain ⟨key, j, how, hleast, hget, hj, rfl⟩ := least_malformed_of_readSettings hread
    exact .inl ⟨key, j, how, hleast, hget, hj, by rw [ofBlock, hread]⟩
  | ok settings =>
    have hnot := not_malformed_of_readSettings hread
    have hblock : (ofBlock name b : Except BuildError (Table ε)) =
        (empty name).addAll settings := by
      rw [ofBlock, hread]
      rfl
    cases hadd : (empty name : Table ε).addAll settings with
    | error e =>
      obtain ⟨key, j, setting, fault, hleast, hget, hset, hmake, rfl⟩ :=
        least_refused_of_addAll hread hadd
      exact .inr (.inl ⟨hnot, key, j, setting, fault, hleast, hget, hset, hmake, hblock.trans hadd⟩)
    | ok t =>
      have hok := hblock.trans hadd
      exact .inr (.inr ⟨hnot, not_refused_of_ofBlock hok, t, hok⟩)

/-- What a block gives, for every kind of entries.

* If the value of some key is no setting, that of the smallest such key is the error, whatever
  entries are refused.
* Otherwise, if some setting is refused, that of the smallest such key is the error.
* Otherwise there is a table with the keys of the block as its tokens, and each of them has the
  entry that its value gives in a block of its own.
* An error names the map and a key of the block, and the block with that key alone fails with it
  too. -/
theorem ofBlock_blames_least (name : String) (b : Block) :
    ((∃ key, b.Malformed ε key) → ∃ key j how, IsLeastKey (b.Malformed ε) key ∧
      b.get? key = some j ∧ TableEntry.read ε j = .error how ∧
      (ofBlock name b : Except BuildError (Table ε)) =
        .error (.entry name key (.malformed how))) ∧
    ((¬ ∃ key, b.Malformed ε key) → (∃ key, b.Refused ε key) →
      ∃ key j setting fault, IsLeastKey (b.Refused ε) key ∧ b.get? key = some j ∧
        TableEntry.read ε j = .ok setting ∧
        (TableEntry.make key (TableEntry.expand ε setting) : Except EntryFault ε) =
          .error fault ∧
        (ofBlock name b : Except BuildError (Table ε)) = .error (.entry name key fault)) ∧
    ((¬ ∃ key, b.Malformed ε key) → (¬ ∃ key, b.Refused ε key) →
      ∃ t : Table ε, ofBlock name b = .ok t ∧ t.name = name ∧ t.tokens.Perm b.names ∧
        t.size = b.size ∧ ∀ key j, b.get? key = some j →
          ∃ (t₁ : Table ε) (e : ε), ofBlock name (.single key j) = .ok t₁ ∧
            t₁.lookup? key = some e ∧ t.lookup? key = some e) ∧
    (∀ e, (ofBlock name b : Except BuildError (Table ε)) = .error e →
      ∃ key j fault, e = .entry name key fault ∧ e.key? = some key ∧ b.get? key = some j ∧
        (ofBlock name (.single key j) : Except BuildError (Table ε)) = .error e) := by
  have hcases := ofBlock_cases (ε := ε) name b
  refine ⟨fun hmalformed => ?_, fun hnot hrefused => ?_, fun hnot hnot' => ?_, fun e he => ?_⟩
  · rcases hcases with hfirst | ⟨hnone, -⟩ | ⟨hnone, -⟩
    · exact hfirst
    · exact absurd hmalformed hnone
    · exact absurd hmalformed hnone
  · rcases hcases with ⟨key, _, _, hleast, -⟩ | ⟨-, hsecond⟩ | ⟨-, hnone, -⟩
    · exact absurd ⟨key, hleast.1⟩ hnot
    · exact hsecond
    · exact absurd hrefused hnone
  · rcases hcases with ⟨key, _, _, hleast, -⟩ | ⟨-, key, _, _, _, hleast, -⟩ | ⟨-, -, t, ht⟩
    · exact absurd ⟨key, hleast.1⟩ hnot
    · exact absurd ⟨key, hleast.1⟩ hnot'
    · obtain ⟨htokens, hsize, hentries⟩ := ofBlock_ok_of_entries ht
      refine ⟨t, ht, name_of_ofBlock ht, htokens, hsize, fun key j hj => ?_⟩
      obtain ⟨e, t₁, -, ht₁, hlookup₁, hlookup⟩ := hentries key j hj
      exact ⟨t₁, e, ht₁, hlookup₁, hlookup⟩
  · -- Alone in a block, the key is at fault for the same reason.
    rcases hcases with ⟨key, j, how, -, hget, hread, hblock⟩ |
        ⟨-, key, j, setting, fault, -, hget, hset, hmake, hblock⟩ | ⟨-, -, t, ht⟩
    · obtain rfl := Except.error.inj (hblock.symm.trans he)
      exact ⟨key, j, _, rfl, rfl, hget, by rw [ofBlock_single, TableEntry.ofJson?, hread]⟩
    · obtain rfl := Except.error.inj (hblock.symm.trans he)
      refine ⟨key, j, fault, rfl, rfl, hget, ?_⟩
      rw [ofBlock_single, TableEntry.ofJson?, hset]
      simp only [hmake]
    · cases ht.symm.trans he

/-- A refused key before two malformed ones: the smaller malformed key is blamed.  Without these two
    the refused key is, and without it there is a table. -/
theorem ofBlock_blames_least_refused_first :
    (ofBlock "m" (.ofList [("z", .null), ("a", .array []), ("c", .bool true)]) :
      Except BuildError (Table MacroEntry)) =
        .error (.entry "m" "c" (.malformed (.notTextOrList .boolean))) ∧
    (ofBlock "m" (.ofList [("b", .string "F"), ("a", .array [])]) :
      Except BuildError (Table MacroEntry)) = .error (.entry "m" "a" .emptyDescriptor) ∧
    ∃ t : Table MacroEntry, ofBlock "m" (.ofList [("b", .string "F")]) = .ok t ∧ t.size = 1 := by
  refine ⟨?_, ?_, ?_⟩
  · let b : Block := .ofList [("z", .null), ("a", .array []), ("c", .bool true)]
    have hlist : b.toList = [("a", .array []), ("c", .bool true), ("z", .null)] := rfl
    have hc : b.Malformed MacroEntry "c" := ⟨.bool true, .notTextOrList .boolean, rfl, rfl⟩
    obtain ⟨key, j, how, ⟨-, hleast⟩, hget, hread, hblock⟩ :=
      (ofBlock_blames_least (ε := MacroEntry) "m" b).1 ⟨"c", hc⟩
    rw [← Fields.mem_toList_iff, hlist] at hget
    obtain ⟨rfl, rfl⟩ | ⟨rfl, rfl⟩ | ⟨rfl, rfl⟩ : (key = "a" ∧ j = .array []) ∨
        (key = "c" ∧ j = .bool true) ∨ (key = "z" ∧ j = .null) := by simpa using hget
    · cases hread
    · obtain rfl : Malformation.notTextOrList .boolean = how := Except.error.inj hread
      exact hblock
    · exact absurd (hleast "c" hc) (by decide)
  · let b : Block := .ofList [("b", .string "F"), ("a", .array [])]
    have hlist : b.toList = [("a", .array []), ("b", .string "F")] := rfl
    have hvalues : ∀ {key j}, b.get? key = some j →
        (key = "a" ∧ j = .array []) ∨ (key = "b" ∧ j = .string "F") := by
      intro key j hget
      rw [← Fields.mem_toList_iff, hlist] at hget
      simpa using hget
    have hread : ¬ ∃ key, b.Malformed MacroEntry key := by
      rintro ⟨key, j, how, hget, hread⟩
      obtain ⟨rfl, rfl⟩ | ⟨rfl, rfl⟩ := hvalues hget <;> cases hread
    have ha : b.Refused MacroEntry "a" :=
      ⟨.array [], .sequence [], .emptyDescriptor, rfl, rfl, rfl⟩
    obtain ⟨key, j, setting, fault, -, hget, hset, hmake, hblock⟩ :=
      (ofBlock_blames_least (ε := MacroEntry) "m" b).2.1 hread ⟨"a", ha⟩
    obtain ⟨rfl, rfl⟩ | ⟨rfl, rfl⟩ := hvalues hget
    · obtain rfl : MacroSetting.sequence [] = setting := Except.ok.inj hset
      obtain rfl : EntryFault.emptyDescriptor = fault := Except.error.inj hmake
      exact hblock
    · obtain rfl : MacroSetting.shorthand "F" = setting := Except.ok.inj hset
      cases hmake
  · let b : Block := .ofList [("b", .string "F")]
    have hvalues : ∀ {key j}, b.get? key = some j → key = "b" ∧ j = .string "F" := by
      intro key j hget
      have hlist : b.toList = [("b", .string "F")] := rfl
      rw [← Fields.mem_toList_iff, hlist] at hget
      simpa using hget
    have hread : ¬ ∃ key, b.Malformed MacroEntry key := by
      rintro ⟨key, j, how, hget, hread⟩
      obtain ⟨rfl, rfl⟩ := hvalues hget
      cases hread
    have hmake : ¬ ∃ key, b.Refused MacroEntry key := by
      rintro ⟨key, j, setting, fault, hget, hset, hmake⟩
      obtain ⟨rfl, rfl⟩ := hvalues hget
      obtain rfl : MacroSetting.shorthand "F" = setting := Except.ok.inj hset
      cases hmake
    obtain ⟨t, ht, -, -, hsize, -⟩ :=
      (ofBlock_blames_least (ε := MacroEntry) "m" b).2.2.1 hread hmake
    exact ⟨t, ht, hsize⟩

end Table

end TokenAtlas
