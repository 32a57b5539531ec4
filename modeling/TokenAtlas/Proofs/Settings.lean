import TokenAtlas.Proofs.Tables

/-!
# Entries from values

Which JSON values give an entry, and which entry.  A macro is given by its handler or by an array
that begins with it; a character by what is shown for it or by an array of one or two elements.  In
both the arguments are read one by one, so each of them depends on its own value alone.

## Key results

- `MacroEntry.ofJson?_eq_ok_iff`: the values that give an entry of a macro
- `CharacterEntry.ofJson?_eq_ok_iff`: the values that give an entry of a character
-/

namespace TokenAtlas

/-- The argument that a JSON value stands for, if it stands for one. -/
def Argument.read? (j : Json) : Option Argument := (Argument.ofJson? j).toOption

theorem Argument.read?_eq_some_iff {j : Json} {a : Argument} :
    Argument.read? j = some a ↔ Argument.ofJson? j = .ok a := by
  unfold Argument.read?
  cases Argument.ofJson? j <;> simp [Except.toOption]

/-- Only a string stands for a text. -/
theorem Argument.read?_eq_text_iff {j : Json} {s : String} :
    Argument.read? j = some (.text s) ↔ j = .string s := by
  rw [Argument.read?_eq_some_iff]
  constructor
  · intro h
    cases j with
    | string s' =>
      obtain ⟨⟩ := Except.ok.inj h
      rfl
    | number n =>
      cases n with
      | int n =>
        simp only [Argument.ofJson?] at h
        split at h <;> cases h
      | float x => cases h
    | null | bool | array | object => cases h
  · rintro rfl
    rfl

/-- An integer that fits into 64 bits with its sign stands for itself. -/
theorem Argument.read?_int {n : Int}
    (h : Int64.minValue.toInt ≤ n ∧ n ≤ Int64.maxValue.toInt) :
    Argument.read? (.number (.int n)) = some (.int (Int64.ofInt n)) := by
  rw [Argument.read?_eq_some_iff, Argument.ofJson?, if_pos h]

/-- An integer that does not fit stands for nothing. -/
theorem Argument.read?_int_eq_none {n : Int}
    (h : ¬ (Int64.minValue.toInt ≤ n ∧ n ≤ Int64.maxValue.toInt)) :
    Argument.read? (.number (.int n)) = none := by
  rw [Argument.read?, Argument.ofJson?, if_neg h]
  rfl

/-! ## Macros -/

namespace MacroSetting

/-- The elements of an array are read one by one. -/
theorem readItems_eq_ok_iff {index : Nat} {items : List Json} {args : List Argument} :
    readItems index items = .ok args ↔ items.mapM Argument.read? = some args := by
  induction items generalizing index args with
  | nil => simp [readItems]
  | cons j rest ih =>
    rw [readItems]
    cases h : Argument.ofJson? j with
    | error reason => simp [Argument.read?, h, Except.toOption]
    | ok a => simp [Argument.read?_eq_some_iff.2 h, map_eq_ok_iff, ih, Option.bind_eq_some_iff]

/-- The setting of an array holds its elements. -/
theorem read_array_eq_ok_iff {items : List Json} {setting : MacroSetting} :
    read (.array items) = .ok setting ↔
      ∃ args, items.mapM Argument.read? = some args ∧ .sequence args = setting := by
  simp only [read, map_eq_ok_iff, readItems_eq_ok_iff]

end MacroSetting

namespace MacroEntry

theorem make?_eq_ok_iff {token : String} {items : List Argument} {e : MacroEntry} :
    make? token items = .ok e ↔ ∃ handler args, handler ≠ "" ∧ items = .text handler :: args ∧
      e = { symbol := token, handler, args } := by
  constructor
  · intro h
    cases items with
    | nil => cases h
    | cons a args =>
      -- Only a text that is not empty can be the handler.
      cases a with
      | text handler =>
        simp only [make?] at h
        split at h
        · cases h
        · rename_i hne
          obtain rfl := Except.ok.inj h
          exact ⟨handler, args, by simpa [String.isEmpty_iff] using hne, rfl, rfl⟩
      | null | bool | int | float => cases h
  · rintro ⟨handler, args, hne, rfl, rfl⟩
    simp [make?, String.isEmpty_iff, hne]

/-- The values that give an entry of a macro: its handler, which is not empty, or an array of its
    handler and its arguments. -/
theorem ofJson?_eq_ok_iff {token : String} {j : Json} {e : MacroEntry} :
    TableEntry.ofJson? token j = .ok e ↔ ∃ handler args, handler ≠ "" ∧
      e = { symbol := token, handler, args } ∧
      ((j = .string handler ∧ args = []) ∨
        ∃ items, j = .array (.string handler :: items) ∧
          items.mapM Argument.read? = some args) := by
  constructor
  · intro h
    rw [TableEntry.ofJson?] at h
    split at h
    · cases h
    · rename_i setting hread
      obtain ⟨handler, args, hne, hexpand, rfl⟩ := make?_eq_ok_iff.1 h
      refine ⟨handler, args, hne, rfl, ?_⟩
      -- A setting was read, so the value is a string or an array.
      cases j with
      | string s =>
        obtain rfl : MacroSetting.shorthand s = setting := Except.ok.inj hread
        obtain ⟨⟨⟩, rfl⟩ := List.cons.inj hexpand
        exact .inl ⟨rfl, rfl⟩
      | array items =>
        -- The handler is the first of the arguments that were read, so the first item is a string.
        obtain ⟨read, hitems, rfl⟩ := MacroSetting.read_array_eq_ok_iff.1 hread
        obtain rfl : read = .text handler :: args := hexpand
        cases items with
        | nil => cases hitems
        | cons first rest =>
          simp only [List.mapM_cons, Option.bind_eq_bind, Option.bind_eq_some_iff, Option.pure_def,
            Option.some.injEq, List.cons.injEq] at hitems
          obtain ⟨_, hfirst, _, hrest, rfl, rfl⟩ := hitems
          obtain rfl := Argument.read?_eq_text_iff.1 hfirst
          exact .inr ⟨rest, rfl, hrest⟩
      | null | bool | number | object => cases hread
  · rintro ⟨handler, args, hne, rfl, ⟨rfl, rfl⟩ | ⟨items, rfl, hitems⟩⟩
    · exact make?_eq_ok_iff.2 ⟨handler, [], hne, rfl, rfl⟩
    · have hall : (Json.string handler :: items).mapM Argument.read? =
          some (.text handler :: args) := by
        simp [Argument.read?_eq_text_iff.2 rfl, hitems]
      have hread : TableEntry.read MacroEntry (.array (.string handler :: items)) =
          .ok (.sequence (.text handler :: args)) :=
        MacroSetting.read_array_eq_ok_iff.2 ⟨_, hall, rfl⟩
      rw [TableEntry.ofJson?, hread]
      exact make?_eq_ok_iff.2 ⟨handler, args, hne, rfl, rfl⟩

end MacroEntry

/-! ## Characters -/

namespace CharacterSetting

/-- The members of an object are read one by one. -/
theorem readAttributes_eq_ok_iff {members : List (String × Json)}
    {pairs : List (String × Argument)} :
    readAttributes members = .ok pairs ↔
      members.mapM (fun m => (Argument.read? m.2).map (m.1, ·)) = some pairs := by
  induction members generalizing pairs with
  | nil => simp [readAttributes]
  | cons m rest ih =>
    obtain ⟨name, j⟩ := m
    rw [readAttributes]
    cases h : Argument.ofJson? j with
    | error reason => simp [Argument.read?, h, Except.toOption]
    | ok a => simp [Argument.read?_eq_some_iff.2 h, map_eq_ok_iff, ih, Option.bind_eq_some_iff]

/-- The second element of an array may be missing, be null, or be an object of arguments. -/
theorem readSlot_eq_ok_iff {rest : List Json} {attributes : Option Attributes} :
    readSlot rest = .ok attributes ↔
      ((rest = [] ∨ ∃ more, rest = .null :: more) ∧ attributes = none) ∨
        ∃ members more pairs, rest = .object members :: more ∧
          members.mapM (fun m => (Argument.read? m.2).map (m.1, ·)) = some pairs ∧
          attributes = some (Fields.ofList pairs) := by
  constructor
  · intro h
    cases rest with
    | nil => exact .inl ⟨.inl rfl, (Except.ok.inj h).symm⟩
    | cons j more =>
      cases j with
      | null => exact .inl ⟨.inr ⟨more, rfl⟩, (Except.ok.inj h).symm⟩
      | object members =>
        obtain ⟨pairs, hpairs, rfl⟩ := map_eq_ok_iff.1 h
        exact .inr ⟨members, more, pairs, rfl, readAttributes_eq_ok_iff.1 hpairs, rfl⟩
      | bool | number | string | array => cases h
  · rintro (⟨rfl | ⟨more, rfl⟩, rfl⟩ | ⟨members, more, pairs, rfl, hpairs, rfl⟩)
    · rfl
    · rfl
    · exact map_eq_ok_iff.2 ⟨pairs, readAttributes_eq_ok_iff.2 hpairs, rfl⟩

/-- An array has what is shown as its first element and has at most one more. -/
theorem readArray_eq_ok_iff {items : List Json} {setting : CharacterSetting} :
    readArray items = .ok setting ↔ ∃ display rest attributes,
      items = .string display :: rest ∧ rest.length ≤ 1 ∧ readSlot rest = .ok attributes ∧
        setting = .structured display attributes := by
  constructor
  · intro h
    cases items with
    | nil => cases h
    | cons j rest =>
      cases j with
      | string display =>
        -- The slot is read before the number of elements is looked at.
        simp only [readArray] at h
        split at h
        · cases h
        · rename_i attributes hslot
          split at h
          · rename_i hlen
            exact ⟨display, rest, attributes, rfl, hlen, hslot, (Except.ok.inj h).symm⟩
          · cases h
      | null | bool | number | array | object => cases h
  · rintro ⟨display, rest, attributes, rfl, hlen, hslot, rfl⟩
    simp [readArray, hslot, hlen]

end CharacterSetting

namespace CharacterEntry

/-- The values that give an entry of a character: what is shown for it, or an array of that and
    of its attributes, which may be missing or null. -/
theorem ofJson?_eq_ok_iff {token : String} {j : Json} {e : CharacterEntry} :
    TableEntry.ofJson? token j = .ok e ↔ ∃ display attributes,
      e = { symbol := token, display, attributes } ∧
      (((j = .string display ∨ j = .array [.string display] ∨
          j = .array [.string display, .null]) ∧ attributes = none) ∨
        ∃ members pairs, j = .array [.string display, .object members] ∧
          members.mapM (fun m => (Argument.read? m.2).map (m.1, ·)) = some pairs ∧
          attributes = some (Fields.ofList pairs)) := by
  constructor
  · intro h
    rw [TableEntry.ofJson?] at h
    split at h
    · cases h
    · rename_i setting hread
      obtain rfl : make token setting.expand = e := Except.ok.inj h
      cases j with
      | string display =>
        obtain rfl : CharacterSetting.shorthand display = setting := Except.ok.inj hread
        exact ⟨display, none, rfl, .inl ⟨.inl rfl, rfl⟩⟩
      | array items =>
        obtain ⟨display, rest, attributes, rfl, hlen, hslot, rfl⟩ :=
          CharacterSetting.readArray_eq_ok_iff.1 hread
        refine ⟨display, attributes, rfl, ?_⟩
        -- The second element is missing, null or an object, and no third one follows it.
        rcases CharacterSetting.readSlot_eq_ok_iff.1 hslot with
          ⟨rfl | ⟨more, rfl⟩, rfl⟩ | ⟨members, more, pairs, rfl, hpairs, rfl⟩
        · exact .inl ⟨.inr (.inl rfl), rfl⟩
        · obtain rfl : more = [] := by simpa using hlen
          exact .inl ⟨.inr (.inr rfl), rfl⟩
        · obtain rfl : more = [] := by simpa using hlen
          exact .inr ⟨members, pairs, rfl, hpairs, rfl⟩
      | null | bool | number | object => cases hread
  · rintro ⟨display, attributes, rfl,
      ⟨rfl | rfl | rfl, rfl⟩ | ⟨members, pairs, rfl, hpairs, rfl⟩⟩
    · rfl
    · rfl
    · rfl
    · have hslot : CharacterSetting.readSlot [.object members] = .ok (some (Fields.ofList pairs)) :=
        CharacterSetting.readSlot_eq_ok_iff.2 (.inr ⟨members, [], pairs, rfl, hpairs, rfl⟩)
      have hread : TableEntry.read CharacterEntry (.array [.string display, .object members]) =
          .ok (.structured display (some (Fields.ofList pairs))) :=
        CharacterSetting.readArray_eq_ok_iff.2
          ⟨display, [.object members], _, rfl, Nat.le_refl 1, hslot, rfl⟩
      rw [TableEntry.ofJson?, hread]
      rfl

end CharacterEntry

end TokenAtlas
