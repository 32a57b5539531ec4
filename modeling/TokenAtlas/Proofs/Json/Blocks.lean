import TokenAtlas.BlockText
import TokenAtlas.Proofs.Fields
import TokenAtlas.Proofs.Json.Values

/-!
# Blocks in JSON

A text in JSON stands for a block just when it is the text of an object that nests no deeper than
127 levels, and then the block holds under every name what was written last under that name.

## Key results

- `value?_of_integers`: integers of at most 64 bits are read as they are written
- `ofJson?_textOf`, `textOf_of_ofJson?`: blocks against the grammar, from both sides
- `read_json_exact`: reading a block accepts exactly the texts of objects, and decodes them
-/

namespace TokenAtlas.Json

open Written

/-! ## What is read -/

mutual

/-- A value whose numbers are integers of at most 64 bits is read as what it stands for. -/
theorem value?_of_integers {w : Written} (h : w.IntegersWithin (-2 ^ 63) (2 ^ 64 - 1)) :
    w.value? = some w.resolve := by
  cases w with
  | null => rfl
  | bool b => rfl
  | string s => rfl
  | numeral m =>
    -- An integer of 64 bits is read without rounding.
    obtain ⟨hm, hlow, hhigh⟩ := h
    simp [value?, json?, Numeral.value?_of_integer hm hlow hhigh, canonical, resolve]
  | array items =>
    have hitems : (jsonItems? items).map canonicalItems = some (resolveItems items) :=
      valueItems?_of_integers h
    obtain ⟨js, hjs, hcanonical⟩ := Option.map_eq_some_iff.1 hitems
    simp [value?, json?, hjs, canonical, resolve, hcanonical]
  | object members =>
    have hmembers : (jsonMembers? members).map canonicalMembers = some (resolveMembers members) :=
      valueMembers?_of_integers h
    obtain ⟨ms, hms, hcanonical⟩ := Option.map_eq_some_iff.1 hmembers
    simp [value?, json?, hms, canonical, resolve, hcanonical]

theorem valueItems?_of_integers {items : List Written}
    (h : ItemsWithin (-2 ^ 63) (2 ^ 64 - 1) items) :
    (jsonItems? items).map canonicalItems = some (resolveItems items) := by
  cases items with
  | nil => rfl
  | cons w rest =>
    obtain ⟨j, hj, hcanonical⟩ := Option.map_eq_some_iff.1 (value?_of_integers h.1)
    obtain ⟨js, hjs, hrest⟩ := Option.map_eq_some_iff.1 (valueItems?_of_integers h.2)
    simp [jsonItems?, hj, hjs, canonicalItems, resolveItems, hcanonical, hrest]

theorem valueMembers?_of_integers {members : List (String × Written)}
    (h : MembersWithin (-2 ^ 63) (2 ^ 64 - 1) members) :
    (jsonMembers? members).map canonicalMembers = some (resolveMembers members) := by
  cases members with
  | nil => rfl
  | cons m rest =>
    obtain ⟨name, w⟩ := m
    obtain ⟨j, hj, hcanonical⟩ := Option.map_eq_some_iff.1 (value?_of_integers h.1)
    obtain ⟨ms, hms, hrest⟩ := Option.map_eq_some_iff.1 (valueMembers?_of_integers h.2)
    simp [jsonMembers?, hj, hms, canonicalMembers, resolveMembers, hcanonical, hrest]

end

private theorem valueItems?_eq_mapM (items : List Written) :
    (items.mapM json?).map canonicalItems = items.mapM value? := by
  induction items with
  | nil => rfl
  | cons w rest ih =>
    simp only [List.mapM_cons, ← ih, value?]
    cases w.json? with
    | none => rfl
    | some j => cases rest.mapM json? <;> rfl

/-- An array stands for the values of its items. -/
theorem value?_array (items : List Written) :
    (Written.array items).value? = (items.mapM value?).map .array := by
  rw [value?, json?, jsonItems?_eq_mapM, ← valueItems?_eq_mapM, Option.map_map, Option.map_map]
  rfl

theorem membersWithin_iff {low high : Int} {members : List (String × Written)} :
    MembersWithin low high members ↔ ∀ m ∈ members, m.2.IntegersWithin low high := by
  induction members with
  | nil => simp [MembersWithin]
  | cons m rest ih => simp [MembersWithin, ih]

/-- A text of an object stands for the block that holds the last value under every name. -/
theorem toBlock?_object {members : List (String × Written)} {j : Json}
    (h : (Written.object members).json? = some j) :
    ∃ b, j.toBlock? = some b ∧ ∀ key, b.get? key = (lastValue? key members).bind value? := by
  obtain ⟨ms, hms, rfl⟩ := Option.map_eq_some_iff.1 h
  refine ⟨_, rfl, fun key => ?_⟩
  rw [jsonMembers?_eq_mapM] at hms
  rw [Fields.get?_ofList, canonicalMembers_eq_map, lastValue?_map, lastValue?_mapM hms]
  cases lastValue? key members <;> rfl

/-- An object stands for an object that has under each name what was written last there. -/
theorem value?_object {members : List (String × Written)} {j : Json}
    (h : (Written.object members).value? = some j) :
    ∃ b : Block, j = .object b.toList ∧
      ∀ name, b.get? name = (lastValue? name members).bind value? := by
  obtain ⟨j', hj, rfl⟩ := Option.map_eq_some_iff.1 h
  obtain ⟨b, hb, hget⟩ := toBlock?_object hj
  obtain ⟨ms, -, rfl⟩ := Option.map_eq_some_iff.1 hj
  obtain rfl := Option.some.inj hb
  exact ⟨_, rfl, hget⟩

/-- An object stands for something only if each of its values does. -/
theorem exists_value?_of_mem {members : List (String × Written)} {name : String} {w : Written}
    (h : (Written.object members).value?.isSome) (hm : (name, w) ∈ members) :
    ∃ j, w.value? = some j := by
  obtain ⟨_, hobject⟩ := Option.isSome_iff_exists.1 h
  obtain ⟨_, hjson, -⟩ := Option.map_eq_some_iff.1 hobject
  obtain ⟨ms, hms, -⟩ := Option.map_eq_some_iff.1 hjson
  rw [jsonMembers?_eq_mapM] at hms
  obtain ⟨_, -, hmember⟩ := exists_of_mapM hms hm
  obtain ⟨j, hj, -⟩ := Option.map_eq_some_iff.1 hmember
  exact ⟨canonical j, by simp only [value?, hj, Option.map_some]⟩

/-- Only a text of an object stands for a block. -/
theorem exists_object_of_toBlock? {w : Written} {j : Json} {b : Block} (hj : w.json? = some j)
    (hb : j.toBlock? = some b) : ∃ members, w = .object members := by
  cases w with
  | object members => exact ⟨members, rfl⟩
  | null | bool | string =>
    obtain rfl := Option.some.inj hj
    exact nomatch hb
  | numeral | array =>
    obtain ⟨x, -, rfl⟩ := Option.map_eq_some_iff.1 hj
    exact nomatch hb

/-! ## Blocks and the grammar -/

/-- A text of an object that nests no deeper than it may is read as a block, if its numerals stand
    for something. -/
theorem ofJson?_textOf {members : List (String × Written)} {text : String}
    (ht : TextOf (.object members) text) (hd : (Written.object members).depth ≤ maxDepth)
    (hv : (Written.object members).value?.isSome) :
    ∃ b, Block.ofJson? text = some b ∧
      ∀ key, b.get? key = (lastValue? key members).bind value? := by
  obtain ⟨j, hj⟩ := Option.isSome_iff_exists.1 (Option.isSome_map ▸ hv)
  obtain ⟨b, hb, hget⟩ := toBlock?_object hj
  refine ⟨b, ?_, hget⟩
  rw [Block.ofJson?, read?_textOf ht hd, hj]
  exact hb

/-- What is read as a block is a text of an object that nests no deeper than it may. -/
theorem textOf_of_ofJson? {text : String} {b : Block} (h : Block.ofJson? text = some b) :
    ∃ members, TextOf (.object members) text ∧ (Written.object members).depth ≤ maxDepth ∧
      (Written.object members).value?.isSome ∧
      ∀ key, b.get? key = (lastValue? key members).bind value? := by
  obtain ⟨j, hread, hb⟩ := Option.bind_eq_some_iff.1 h
  obtain ⟨w, ht, hd, hj⟩ := textOf_of_read? hread
  obtain ⟨members, rfl⟩ := exists_object_of_toBlock? hj hb
  obtain ⟨b', hb', hget⟩ := toBlock?_object hj
  obtain rfl : b' = b := Option.some.inj (hb'.symm.trans hb)
  exact ⟨members, ht, hd, by simp [value?, hj], hget⟩

theorem read_json_eq_ok_iff {map text : String} {b : Block} :
    Block.read .json map text = .ok b ↔ Block.ofJson? text = some b := by
  rw [Block.read, Block.ofText?]
  cases Block.ofJson? text <;> simp

/-- Reading a block accepts exactly the texts of objects that nest at most 127 levels.

* Every text of an object whose numbers are integers of at most 64 bits is accepted, and the block
  holds under every name what the last member with that name stands for.
* Every text that is accepted is a text of an object, and the block holds the last values.
* Every failure names the map and says that its text cannot be read. -/
theorem read_json_exact (map : String) :
    (∀ (members : List (String × Written)) (text : String),
      (Written.object members).IntegersWithin (-2 ^ 63) (2 ^ 64 - 1) →
      (Written.object members).depth ≤ 127 →
      TextOf (.object members) text →
      ∃ b, Block.read .json map text = .ok b ∧
        ∀ key, b.get? key = (lastValue? key members).map resolve) ∧
    (∀ (text : String) (b : Block), Block.read .json map text = .ok b →
      ∃ members, TextOf (.object members) text ∧ (Written.object members).depth ≤ 127 ∧
        ∀ key, b.get? key = (lastValue? key members).bind value?) ∧
    (∀ (text : String) (e : BuildError), Block.read .json map text = .error e →
      e = .unreadable map) := by
  refine ⟨fun members text hint hd ht => ?_, fun text b h => ?_, fun text e h => ?_⟩
  · -- From the grammar to the block.
    have hv := value?_of_integers hint
    obtain ⟨b, hb, hget⟩ := ofJson?_textOf ht hd (by simp [hv])
    refine ⟨b, read_json_eq_ok_iff.2 hb, fun key => ?_⟩
    rw [hget key]
    cases hlast : lastValue? key members with
    | none => rfl
    | some w =>
      have hmem := mem_of_lastValue? hlast
      exact value?_of_integers (membersWithin_iff.1 hint _ hmem)
  · -- From a text that is accepted to the grammar.
    obtain ⟨members, ht, hd, -, hget⟩ := textOf_of_ofJson? (read_json_eq_ok_iff.1 h)
    exact ⟨members, ht, hd, hget⟩
  · rw [Block.read] at h
    split at h
    · exact nomatch h
    · exact (Except.error.inj h).symm

/-- A name that is repeated, a surrogate pair, and blanks that may stand anywhere. -/
theorem read_json_exact_repeated_name :
    ∃ b, Block.read .json "m" "\x7b \"a\":\"\\ud83d\\uDE00\", \"a\" : [1,-2]\x7d" = .ok b ∧
      b.get? "a" = some (.array [.number (.int 1), .number (.int (-2))]) := by
  let one : Numeral := ⟨false, [1], none, none⟩
  let minusTwo : Numeral := ⟨true, [2], none, none⟩
  let members : List (String × Written) :=
    [("a", .string "😀"), ("a", .array [.numeral one, .numeral minusTwo])]
  have hspace : Blank [' '] := by simp [Blank]
  have hone : Renders (.numeral one) ['1'] :=
    .numeral (.mk (.digits (by decide) ⟨by decide, by decide⟩) .absent .absent)
  have htwo : Renders (.numeral minusTwo) ['-', '2'] :=
    .numeral (.mk (.digits (by decide) ⟨by decide, by decide⟩) .absent .absent)
  have hname : Spells "a".toList ['a'] := .plain (by decide) (by decide) (by decide) .nil
  have hhigh : CodeUnit ['d', '8', '3', 'd'] 0xD83D :=
    .mk (.lower (d := 3) (by decide) rfl) (.decimal (d := 8) (by decide) rfl)
      (.decimal (d := 3) (by decide) rfl) (.lower (d := 3) (by decide) rfl)
  have hlow : CodeUnit ['D', 'E', '0', '0'] 0xDE00 :=
    .mk (.upper (d := 3) (by decide) rfl) (.upper (d := 4) (by decide) rfl)
      (.decimal (d := 0) (by decide) rfl) (.decimal (d := 0) (by decide) rfl)
  have hface : Spells "😀".toList "\\ud83d\\uDE00".toList :=
    .pair (c := '😀') hhigh hlow (by decide) (by decide) (by decide) .nil
  have harray : Renders (.array [.numeral one, .numeral minusTwo]) "[1,-2]".toList :=
    .array (.cons blank_nil hone blank_nil (.one blank_nil htwo blank_nil))
  have htext : TextOf (.object members) "\x7b \"a\":\"\\ud83d\\uDE00\", \"a\" : [1,-2]\x7d" :=
    .mk blank_nil (.object (.cons hspace (.mk hname blank_nil blank_nil (.string hface)) blank_nil
      (.one hspace (.mk hname hspace hspace harray) blank_nil))) blank_nil
  obtain ⟨b, hb, hget⟩ := (read_json_exact "m").1 members _
    (by simp [members, one, minusTwo, IntegersWithin, MembersWithin, ItemsWithin, Numeral.IsInteger,
      Numeral.toInt, ofDigits]) (by decide) htext
  exact ⟨b, hb, hget "a"⟩

end TokenAtlas.Json
