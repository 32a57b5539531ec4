import TokenAtlas.Proofs.Json.Blocks
import TokenAtlas.Proofs.Settings

/-!
# Integers as arguments

What becomes of an integer that is written in a JSON text as an argument of a macro or as an
attribute of a character.  Two readers look at it.  The reader of numbers keeps it when it fits into
64 bits, with a sign only when it has one, and else rounds it to a floating-point number.  The
reader of arguments then refuses an integer that does not fit into 64 bits with a sign.

So an integer from `2 ^ 63` to `2 ^ 64 - 1` is refused, and a greater one never gets to the second
reader: it is held as the floating-point number that it was rounded to, and so is one below
`-2 ^ 63`.

## Key results

- `Numeral.argument?_isSome_iff`: which numerals are refused as arguments
- `ofText_integers`: what a table holds for each integer, and when a text gives a table
-/

namespace TokenAtlas

open Json Json.Written

/-! ## One numeral -/

/-- The argument that a written value stands for. -/
def Json.Written.argument? (w : Written) : Option Argument := w.value?.bind Argument.read?

namespace Json.Numeral

variable {m : Numeral}

private theorem argument?_numeral :
    (Written.numeral m).argument? = m.value?.bind fun n => Argument.read? (.number n) := by
  rw [argument?, Written.value?, json?]
  cases m.value? <;> rfl

private theorem fits_iff {n : Int} :
    (Int64.minValue.toInt ≤ n ∧ n ≤ Int64.maxValue.toInt) ↔ -2 ^ 63 ≤ n ∧ n ≤ 2 ^ 63 - 1 := by
  rw [Int64.toInt_minValue, Int64.toInt_maxValue]

/-- An integer that fits into 64 bits with its sign is kept as it is. -/
theorem argument?_of_fits (hm : m.IsInteger) (hlow : -2 ^ 63 ≤ m.toInt)
    (hhigh : m.toInt ≤ 2 ^ 63 - 1) :
    (Written.numeral m).argument? = some (.int (Int64.ofInt m.toInt)) := by
  rw [argument?_numeral, value?_of_integer hm hlow (by omega), Option.bind_some,
    Argument.read?_int (fits_iff.2 ⟨hlow, hhigh⟩)]

/-- An integer that fits only without a sign is refused. -/
theorem argument?_of_unsigned (hm : m.IsInteger) (hlow : 2 ^ 63 ≤ m.toInt)
    (hhigh : m.toInt ≤ 2 ^ 64 - 1) : (Written.numeral m).argument? = none := by
  rw [argument?_numeral, value?_of_integer hm (by omega) hhigh, Option.bind_some,
    Argument.read?_int_eq_none (mt fits_iff.1 (by omega))]

/-- An integer that does not fit at all is kept as it was rounded. -/
theorem argument?_of_wide (hout : m.toInt < -2 ^ 63 ∨ 2 ^ 64 ≤ m.toInt) :
    (Written.numeral m).argument? =
      m.float?.map fun x => .float (if m.negative then x.negate else x) := by
  rw [argument?_numeral, value?_of_wide_integer hout]
  cases m.float? <;> rfl

/-- No other numerals are refused than the integers that fit only without a sign. -/
theorem argument?_isSome_iff {n : Number} (h : m.value? = some n) :
    (Written.numeral m).argument?.isSome ↔
      (m.IsInteger → ¬ (2 ^ 63 ≤ m.toInt ∧ m.toInt ≤ 2 ^ 64 - 1)) := by
  constructor
  · rintro hsome hm ⟨hlow, hhigh⟩
    rw [argument?_of_unsigned hm hlow hhigh] at hsome
    cases hsome
  · intro hgap
    rw [argument?_numeral, h, Option.bind_some]
    cases n with
    | int n =>
      -- The reader of numbers leaves nothing above `2 ^ 64 - 1`, and the gap is excluded.
      obtain ⟨hm, rfl, hlow, hhigh⟩ := value?_eq_int_iff.1 h
      have hnot := hgap hm
      rw [Argument.read?_int (fits_iff.2 ⟨hlow, by omega⟩)]
      rfl
    | float x => rfl

end Json.Numeral

/-! ## Where arguments stand -/

namespace Json.Written

/-- Whether a value is no array and no object. -/
def IsScalar : Written → Prop
  | .array _ | .object _ => False
  | _ => True

/-- The value that stands as an argument in the value of a macro: in its array, after the
    handler. -/
def argumentAt? (i : Nat) : Written → Option Written
  | .array (_ :: args) => args[i]?
  | _ => none

/-- The value that stands as an attribute in the value of a character: what was written last for it
    in the second element of its array. -/
def attributeAt? (name : String) : Written → Option Written
  | .array [_, .object attributes] => lastValue? name attributes
  | _ => none

/-- The values that a macro may have, whatever its numbers are. -/
inductive MacroShape : Written → Prop
  | shorthand {handler : String} (h : handler ≠ "") : MacroShape (.string handler)
  | sequence {handler : String} {args : List Written} (h : handler ≠ "")
      (hargs : ∀ w ∈ args, w.IsScalar) : MacroShape (.array (.string handler :: args))

/-- The values that a character may have, whatever its numbers are. -/
inductive CharacterShape : Written → Prop
  | shorthand {display : String} : CharacterShape (.string display)
  | alone {display : String} : CharacterShape (.array [.string display])
  | null {display : String} : CharacterShape (.array [.string display, .null])
  | structured {display : String} {attributes : List (String × Written)}
      (h : ∀ name w, lastValue? name attributes = some w → w.IsScalar) :
      CharacterShape (.array [.string display, .object attributes])

theorem IsScalar.argument?_isSome {w : Written} (hw : w.IsScalar) {j : Json}
    (hj : w.value? = some j)
    (hgap : ∀ m, w = .numeral m → m.IsInteger → ¬ (2 ^ 63 ≤ m.toInt ∧ m.toInt ≤ 2 ^ 64 - 1)) :
    w.argument?.isSome := by
  cases w with
  | numeral m =>
    cases hm : m.value? with
    | none => simp [value?, json?, hm] at hj
    | some n => exact (Numeral.argument?_isSome_iff hm).2 (hgap m rfl)
  | null | bool | string => rfl
  | array | object => exact hw.elim

end Json.Written

/-- How the entries of one kind hold arguments, and where these are written. -/
structure ArgumentSlots (ε : Type) {σ δ : Type} [TableEntry ε σ δ] (κ : Type) where
  /-- The value that is written at a place in the value of an entry. -/
  written? : κ → Written → Option Written
  /-- The argument that an entry holds at a place. -/
  held? : κ → ε → Option Argument
  /-- The values that an entry may have, whatever its numbers are. -/
  Shape : Written → Prop
  /-- An entry holds what is written. -/
  held_of_written {key : String} {w : Written} {j : Json} {e : ε} {place : κ} {w' : Written}
    (hj : w.value? = some j) (he : TableEntry.ofJson? key j = .ok e)
    (hw' : written? place w = some w') :
    ∃ a, w'.argument? = some a ∧ held? place e = some a
  /-- Only scalars are written at the places for arguments, and each of them stands for something
      if the whole value does. -/
  isScalar {w : Written} (hw : Shape w) {place : κ} {w' : Written}
    (hw' : written? place w = some w') : w'.IsScalar ∧
      ∀ j, w.value? = some j → ∃ j', w'.value? = some j'
  /-- A value gives an entry if all arguments in it stand for something. -/
  exists_entry {key : String} {w : Written} {j : Json} (hw : Shape w) (hj : w.value? = some j)
    (hargs : ∀ place w', written? place w = some w' → w'.argument?.isSome) :
    ∃ e : ε, TableEntry.ofJson? key j = .ok e

/-- The items of an array stand for the items of the array that it stands for. -/
private theorem value?_array_eq_some_iff {items : List Written} {j : Json} :
    (Written.array items).value? = some j ↔ ∃ js, items.mapM value? = some js ∧ .array js = j := by
  rw [value?_array, Option.map_eq_some_iff]

private theorem value?_cons_eq_some {w : Written} {rest : List Written} {j : Json}
    (h : (Written.array (w :: rest)).value? = some j) :
    ∃ j₀ js, w.value? = some j₀ ∧ rest.mapM value? = some js ∧ j = .array (j₀ :: js) := by
  obtain ⟨_, hall, rfl⟩ := value?_array_eq_some_iff.1 h
  simp only [List.mapM_cons, Option.bind_eq_bind, Option.bind_eq_some_iff, Option.pure_def,
    Option.some.injEq] at hall
  obtain ⟨j₀, hfirst, js, hrest, rfl⟩ := hall
  exact ⟨j₀, js, hfirst, hrest, rfl⟩

private theorem argument?_eq_some_iff {w : Written} {a : Argument} :
    w.argument? = some a ↔ ∃ j, w.value? = some j ∧ Argument.read? j = some a :=
  Option.bind_eq_some_iff

/-! ## Macros -/

private theorem macro_held {key : String} {w : Written} {j : Json} {e : MacroEntry} {i : Nat}
    {w' : Written} (hj : w.value? = some j) (he : TableEntry.ofJson? key j = .ok e)
    (hw' : argumentAt? i w = some w') : ∃ a, w'.argument? = some a ∧ e.args[i]? = some a := by
  cases w with
  | array items =>
    cases items with
    | nil => cases hw'
    | cons first args =>
      obtain ⟨j₀, js, -, hjs, rfl⟩ := value?_cons_eq_some hj
      obtain ⟨handler, held, -, rfl, ⟨hstring, -⟩ | ⟨items, harray, hitems⟩⟩ :=
        MacroEntry.ofJson?_eq_ok_iff.1 he
      · cases hstring
      · -- Items are read one by one, so the item with this number is read from this value.
        obtain ⟨-, rfl⟩ := List.cons.inj (Json.array.inj harray)
        obtain ⟨j', hmem, hvalue⟩ := exists_of_mapM hjs (List.mem_of_getElem? hw')
        obtain ⟨a, -, ha⟩ := exists_of_mapM hitems hmem
        refine ⟨a, argument?_eq_some_iff.2 ⟨j', hvalue, ha⟩, ?_⟩
        have hwritten : args[i]? = some w' := hw'
        simp only [getElem?_of_mapM hitems, getElem?_of_mapM hjs, hwritten, Option.bind_some,
          hvalue, ha]
  | _ => cases hw'

private theorem macro_exists_entry {key : String} {w : Written} {j : Json} (hw : MacroShape w)
    (hj : w.value? = some j)
    (hargs : ∀ i w', argumentAt? i w = some w' → w'.argument?.isSome) :
    ∃ e : MacroEntry, TableEntry.ofJson? key j = .ok e := by
  cases hw with
  | @shorthand handler h =>
    obtain rfl : .string handler = j := Option.some.inj hj
    exact ⟨_, MacroEntry.ofJson?_eq_ok_iff.2 ⟨handler, [], h, rfl, .inl ⟨rfl, rfl⟩⟩⟩
  | @sequence handler args h _ =>
    obtain ⟨j₀, js, hfirst, hjs, rfl⟩ := value?_cons_eq_some hj
    obtain rfl : .string handler = j₀ := Option.some.inj hfirst
    have hread : ∀ j' ∈ js, ∃ a, Argument.read? j' = some a := by
      -- Every value of the array is that of an item, and all items can be arguments.
      intro j' hmem
      obtain ⟨i, hi⟩ := List.mem_iff_getElem?.1 hmem
      rw [getElem?_of_mapM hjs] at hi
      obtain ⟨w', hw', hvalue⟩ := Option.bind_eq_some_iff.1 hi
      have hsome := hargs i w' hw'
      rw [argument?, hvalue, Option.bind_some] at hsome
      exact Option.isSome_iff_exists.1 hsome
    obtain ⟨held, hheld⟩ := exists_mapM hread
    exact ⟨_, MacroEntry.ofJson?_eq_ok_iff.2 ⟨handler, held, h, rfl, .inr ⟨js, rfl, hheld⟩⟩⟩

/-- Macros hold arguments by number. -/
def macroSlots : ArgumentSlots MacroEntry Nat where
  written? := argumentAt?
  held? i e := e.args[i]?
  Shape := MacroShape
  held_of_written := macro_held
  isScalar := by
    intro w hw i w' hw'
    cases hw with
    | shorthand => cases hw'
    | sequence _ hargs =>
      have hmem := List.mem_of_getElem? hw'
      refine ⟨hargs w' hmem, fun j hj => ?_⟩
      obtain ⟨_, js, -, hjs, -⟩ := value?_cons_eq_some hj
      obtain ⟨j', -, hj'⟩ := exists_of_mapM hjs hmem
      exact ⟨j', hj'⟩
  exists_entry := macro_exists_entry

/-! ## Characters -/

private theorem value?_pair_eq_some {display : Written} {attributes : List (String × Written)}
    {j : Json} (h : (Written.array [display, .object attributes]).value? = some j) :
    ∃ (j₀ : Json) (b : Block), display.value? = some j₀ ∧ j = .array [j₀, .object b.toList] ∧
      (Written.object attributes).value?.isSome ∧
      ∀ name, b.get? name = (lastValue? name attributes).bind value? := by
  obtain ⟨j₀, _, hdisplay, hrest, rfl⟩ := value?_cons_eq_some h
  obtain ⟨j₁, _, hobject, hnil, heq⟩ :=
    value?_cons_eq_some (value?_array_eq_some_iff.2 ⟨_, hrest, rfl⟩)
  obtain rfl := Option.some.inj hnil
  obtain rfl := Json.array.inj heq
  obtain ⟨b, rfl, hget⟩ := value?_object hobject
  exact ⟨j₀, b, hdisplay, rfl, by simp [hobject], hget⟩

private theorem character_held {key : String} {w : Written} {j : Json} {e : CharacterEntry}
    {name : String} {w' : Written} (hj : w.value? = some j)
    (he : TableEntry.ofJson? key j = .ok e) (hw' : attributeAt? name w = some w') :
    ∃ a, w'.argument? = some a ∧ e.attribute? name = some a := by
  unfold attributeAt? at hw'
  split at hw'
  · rename_i display attributes
    obtain ⟨j₀, b, -, rfl, hsome, hget⟩ := value?_pair_eq_some hj
    obtain ⟨shown, held, rfl, ⟨hplain, -⟩ | ⟨members, pairs, harray, hpairs, rfl⟩⟩ :=
      CharacterEntry.ofJson?_eq_ok_iff.1 he
    · simp at hplain
    · -- The attributes are those of the object that the text stands for, which has no name twice.
      obtain ⟨-, rfl⟩ : _ ∧ b.toList = members := by simpa using harray
      obtain ⟨j', hvalue⟩ := exists_value?_of_mem hsome (mem_of_lastValue? hw')
      have hname : b.get? name = some j' := by rw [hget, hw', Option.bind_some, hvalue]
      obtain ⟨_, -, hpair⟩ := exists_of_mapM hpairs (Fields.mem_toList_iff.2 hname)
      obtain ⟨a, ha, -⟩ := Option.map_eq_some_iff.1 hpair
      refine ⟨a, argument?_eq_some_iff.2 ⟨j', hvalue, ha⟩, ?_⟩
      have hlast : lastValue? name pairs = some a := by
        rw [lastValue?_mapM hpairs, Fields.lastValue?_toList, hname, Option.bind_some, ha]
      rw [CharacterEntry.attribute?, Option.bind_some, Fields.get?_ofList, hlast]
  · cases hw'

private theorem character_exists_entry {key : String} {w : Written} {j : Json}
    (hw : CharacterShape w) (hj : w.value? = some j)
    (hargs : ∀ name w', attributeAt? name w = some w' → w'.argument?.isSome) :
    ∃ e : CharacterEntry, TableEntry.ofJson? key j = .ok e := by
  cases hw with
  | shorthand | alone | null =>
    obtain rfl := Option.some.inj hj
    exact ⟨_, rfl⟩
  | @structured display attributes h =>
    obtain ⟨j₀, b, hdisplay, rfl, -, hget⟩ := value?_pair_eq_some hj
    obtain rfl : .string display = j₀ := Option.some.inj hdisplay
    -- Every field of the object is the value that is written last under its name.
    have hread : ∀ m ∈ b.toList, ∃ p, (Argument.read? m.2).map (m.1, ·) = some p := by
      rintro ⟨name, j'⟩ hmem
      have hname := Fields.mem_toList_iff.1 hmem
      rw [hget] at hname
      obtain ⟨w', hw', hvalue⟩ := Option.bind_eq_some_iff.1 hname
      have hsome := hargs name w' hw'
      rw [argument?, hvalue, Option.bind_some] at hsome
      obtain ⟨a, ha⟩ := Option.isSome_iff_exists.1 hsome
      exact ⟨(name, a), by rw [ha, Option.map_some]⟩
    obtain ⟨pairs, hpairs⟩ := exists_mapM hread
    exact ⟨_, CharacterEntry.ofJson?_eq_ok_iff.2
      ⟨display, _, rfl, .inr ⟨b.toList, pairs, rfl, hpairs, rfl⟩⟩⟩

/-- Characters hold attributes by name. -/
def characterSlots : ArgumentSlots CharacterEntry String where
  written? := attributeAt?
  held? name e := e.attribute? name
  Shape := CharacterShape
  held_of_written := character_held
  isScalar := by
    intro w hw name w' hw'
    cases hw with
    | shorthand | alone | null => cases hw'
    | structured h =>
      refine ⟨h name w' hw', fun j hj => ?_⟩
      obtain ⟨_, _, -, -, hsome, -⟩ := value?_pair_eq_some hj
      exact exists_value?_of_mem hsome (mem_of_lastValue? hw')
  exists_entry := character_exists_entry

/-! ## Tables -/

section

variable {ε σ δ : Type} [TableEntry ε σ δ] {name text : String}
  {members : List (String × Written)}

private theorem block_of_ofText (ht : TextOf (.object members) text)
    (hd : (Written.object members).depth ≤ maxDepth) {t : Table ε}
    (h : Table.ofText .json name text = .ok t) :
    (Written.object members).value?.isSome ∧ ∃ b, Table.ofBlock name b = .ok t ∧
      ∀ key, b.get? key = (lastValue? key members).bind value? := by
  obtain ⟨b, hread, hmade⟩ := Table.ofText_eq_ok_iff.1 h
  have hblock : Block.ofJson? text = some b := hread
  rw [Block.ofJson?, read?_textOf ht hd] at hblock
  obtain ⟨j, hj, hb⟩ := Option.bind_eq_some_iff.1 hblock
  obtain ⟨b', hb', hget⟩ := toBlock?_object hj
  obtain rfl : b' = b := Option.some.inj (hb'.symm.trans hb)
  exact ⟨by simp [value?, hj], b', hmade, hget⟩

/-- A table holds the entries that the last values under their keys give. -/
theorem lookup?_of_ofText (ht : TextOf (.object members) text)
    (hd : (Written.object members).depth ≤ maxDepth) {t : Table ε}
    (h : Table.ofText .json name text = .ok t) {key : String} {w : Written}
    (hw : lastValue? key members = some w) :
    ∃ j e, w.value? = some j ∧ TableEntry.ofJson? key j = .ok e ∧ t.lookup? key = some e := by
  obtain ⟨hsome, b, hb, hget⟩ := block_of_ofText ht hd h
  obtain ⟨j, hj⟩ := exists_value?_of_mem hsome (mem_of_lastValue? hw)
  have hkey : b.get? key = some j := by rw [hget, hw, Option.bind_some, hj]
  rcases Table.lookup?_of_ofBlock hb key with ⟨hnone, -⟩ | ⟨j', e, hj', he, hlookup⟩
  · exact nomatch hnone.symm.trans hkey
  · obtain rfl : j = j' := Option.some.inj (hkey.symm.trans hj')
    exact ⟨j, e, hj, he, hlookup⟩

/-- A text of an object gives a table just when all its numerals stand for something and all its
    values, of which the last one under a key counts, give entries. -/
theorem exists_ofText_iff (ht : TextOf (.object members) text)
    (hd : (Written.object members).depth ≤ maxDepth) :
    (∃ t : Table ε, Table.ofText .json name text = .ok t) ↔
      (Written.object members).value?.isSome ∧ ∀ key w, lastValue? key members = some w →
        ∀ j, w.value? = some j → ∃ e : ε, TableEntry.ofJson? key j = .ok e := by
  constructor
  · rintro ⟨t, h⟩
    refine ⟨(block_of_ofText ht hd h).1, fun key w hw j hj => ?_⟩
    obtain ⟨j', e, hj', he, -⟩ := lookup?_of_ofText ht hd h hw
    obtain rfl : j = j' := Option.some.inj (hj.symm.trans hj')
    exact ⟨e, he⟩
  · -- The text is read as a block, and each key of it has the last value that is written under it.
    rintro ⟨hsome, hentries⟩
    obtain ⟨b, hb, hget⟩ := ofJson?_textOf ht hd hsome
    have hentry : ∀ key j, b.get? key = some j → ∃ e : ε, TableEntry.ofJson? key j = .ok e := by
      intro key j hj
      rw [hget] at hj
      obtain ⟨w, hw, hvalue⟩ := Option.bind_eq_some_iff.1 hj
      exact hentries key w hw j hvalue
    obtain ⟨t, h⟩ : ∃ t : Table ε, Table.ofBlock name b = .ok t := Table.exists_ofBlock hentry
    exact ⟨t, Table.ofText_eq_ok_iff.2 ⟨b, hb, h⟩⟩

end

/-- What becomes of an integer that is written where a table holds an argument. -/
structure IntegerOutcome {ε : Type} (made : Except BuildError (Table ε))
    (held : Table ε → Option Argument) (m : Numeral) : Prop where
  /-- It is kept if it fits into 64 bits with its sign. -/
  kept (hlow : -2 ^ 63 ≤ m.toInt) (hhigh : m.toInt ≤ 2 ^ 63 - 1) (t : Table ε) (h : made = .ok t) :
    ∃ n : Int64, n.toInt = m.toInt ∧ held t = some (.int n)
  /-- There is no table if it fits into 64 bits only without a sign. -/
  refused (hlow : 2 ^ 63 ≤ m.toInt) (hhigh : m.toInt ≤ 2 ^ 64 - 1) : ∃ e, made = .error e
  /-- It is rounded if it does not fit into 64 bits. -/
  rounded (hout : m.toInt < -2 ^ 63 ∨ 2 ^ 64 ≤ m.toInt) (t : Table ε) (h : made = .ok t) :
    ∃ x, m.float? = some x ∧ held t = some (.float (if m.negative then x.negate else x))

private theorem integerOutcome_of_held {ε : Type} {made : Except BuildError (Table ε)}
    {held : Table ε → Option Argument} {m : Numeral} (hm : m.IsInteger)
    (h : ∀ t, made = .ok t → ∃ a, (Written.numeral m).argument? = some a ∧ held t = some a) :
    IntegerOutcome made held m where
  kept hlow hhigh t ht := by
    obtain ⟨a, ha, hheld⟩ := h t ht
    rw [Numeral.argument?_of_fits hm hlow hhigh] at ha
    obtain rfl := Option.some.inj ha
    exact ⟨_, Int64.toInt_ofInt_of_le hlow (by omega), hheld⟩
  refused hlow hhigh := by
    cases hmade : made with
    | error e => exact ⟨e, rfl⟩
    | ok t =>
      -- A table would hold an argument there, but the integer stands for none.
      obtain ⟨a, ha, -⟩ := h t hmade
      rw [Numeral.argument?_of_unsigned hm hlow hhigh] at ha
      cases ha
  rounded hout t ht := by
    obtain ⟨a, ha, hheld⟩ := h t ht
    rw [Numeral.argument?_of_wide hout] at ha
    obtain ⟨x, hx, rfl⟩ := Option.map_eq_some_iff.1 ha
    exact ⟨x, hx, hheld⟩

section

variable {ε σ δ κ : Type} [TableEntry ε σ δ] {name text : String}
  {members : List (String × Written)}

theorem ArgumentSlots.integerOutcome (S : ArgumentSlots ε κ) (ht : TextOf (.object members) text)
    (hd : (Written.object members).depth ≤ maxDepth) {key : String} {place : κ} {m : Numeral}
    (hplace : (lastValue? key members).bind (S.written? place) = some (.numeral m))
    (hm : m.IsInteger) :
    IntegerOutcome (Table.ofText .json name text)
      (fun t => (t.lookup? key).bind (S.held? place)) m := by
  refine integerOutcome_of_held hm fun t h => ?_
  obtain ⟨w, hw, hwritten⟩ := Option.bind_eq_some_iff.1 hplace
  obtain ⟨j, e, hj, he, hlookup⟩ := lookup?_of_ofText ht hd h hw
  obtain ⟨a, ha, hheld⟩ := S.held_of_written hj he hwritten
  exact ⟨a, ha, by rw [hlookup, Option.bind_some, hheld]⟩

/-- Nothing but an integer that fits into 64 bits only without a sign keeps a text whose values have
    the right shape from giving a table. -/
theorem ArgumentSlots.exists_ofText_iff_no_gap (S : ArgumentSlots ε κ)
    (ht : TextOf (.object members) text) (hd : (Written.object members).depth ≤ maxDepth)
    (hshape : ∀ key w, lastValue? key members = some w → S.Shape w) :
    (∃ t : Table ε, Table.ofText .json name text = .ok t) ↔
      (Written.object members).value?.isSome ∧ ∀ key place m,
        (lastValue? key members).bind (S.written? place) = some (.numeral m) → m.IsInteger →
          ¬ (2 ^ 63 ≤ m.toInt ∧ m.toInt ≤ 2 ^ 64 - 1) := by
  constructor
  · rintro ⟨t, h⟩
    refine ⟨((exists_ofText_iff ht hd).1 ⟨t, h⟩).1, ?_⟩
    rintro key place m hplace hm ⟨hlow, hhigh⟩
    have houtcome : IntegerOutcome (Table.ofText .json name text) _ m :=
      S.integerOutcome ht hd hplace hm
    obtain ⟨e, he⟩ := houtcome.refused hlow hhigh
    exact nomatch he.symm.trans h
  · rintro ⟨hsome, hgap⟩
    -- A value of the right shape fails only through an argument, and that only through the gap.
    refine (exists_ofText_iff ht hd).2 ⟨hsome, fun key w hw j hj => ?_⟩
    have hw' := hshape key w hw
    refine S.exists_entry hw' hj fun place w' hwritten => ?_
    obtain ⟨hscalar, hvalue⟩ := S.isScalar hw' hwritten
    obtain ⟨j', hj'⟩ := hvalue j hj
    refine hscalar.argument?_isSome hj' fun m hm => hgap key place m ?_
    rw [hw, Option.bind_some, hwritten, hm]

end

/-- What tables make of the integers in a JSON text.  Of the values that are written under one key
    the last one counts.

* An integer that fits into 64 bits with its sign is kept, one that fits only without a sign keeps
  the text from giving a table, and any other is held as the floating-point number that it was
  rounded to, both as an argument of a macro and as an attribute of a character.
* If all values have the right shape apart from their numbers, there is a table unless a numeral
  stands for nothing, or an argument is an integer that fits only without a sign. -/
theorem ofText_integers (name text : String) (members : List (String × Written))
    (ht : TextOf (.object members) text) (hd : (Written.object members).depth ≤ 127) :
    (∀ key i m, (lastValue? key members).bind (argumentAt? i) = some (.numeral m) →
      m.IsInteger →
      IntegerOutcome (Table.ofText .json name text)
        (fun t : Table MacroEntry => (t.lookup? key).bind (·.args[i]?)) m) ∧
    (∀ key place m,
      (lastValue? key members).bind (attributeAt? place) = some (.numeral m) →
      m.IsInteger →
      IntegerOutcome (Table.ofText .json name text)
        (fun t : Table CharacterEntry => (t.lookup? key).bind (·.attribute? place)) m) ∧
    ((∀ key w, lastValue? key members = some w → MacroShape w) →
      ((∃ t : Table MacroEntry, Table.ofText .json name text = .ok t) ↔
        (Written.object members).value?.isSome ∧ ∀ key i m,
          (lastValue? key members).bind (argumentAt? i) = some (.numeral m) → m.IsInteger →
            ¬ (2 ^ 63 ≤ m.toInt ∧ m.toInt ≤ 2 ^ 64 - 1))) ∧
    ((∀ key w, lastValue? key members = some w → CharacterShape w) →
      ((∃ t : Table CharacterEntry, Table.ofText .json name text = .ok t) ↔
        (Written.object members).value?.isSome ∧ ∀ key place m,
          (lastValue? key members).bind (attributeAt? place) = some (.numeral m) →
            m.IsInteger → ¬ (2 ^ 63 ≤ m.toInt ∧ m.toInt ≤ 2 ^ 64 - 1))) :=
  ⟨fun _ _ _ hplace hm => macroSlots.integerOutcome ht hd hplace hm,
    fun _ _ _ hplace hm => characterSlots.integerOutcome ht hd hplace hm,
    fun hshape => macroSlots.exists_ofText_iff_no_gap ht hd hshape,
    fun hshape => characterSlots.exists_ofText_iff_no_gap ht hd hshape⟩

/-- An argument just above 64 bits does not keep its text from giving a table, and is rounded. -/
theorem ofText_integers_two_pow_64 :
    ∃ t : Table MacroEntry,
      Table.ofText .json "m" "\x7b\"k\":[\"H\",18446744073709551616]\x7d" = .ok t ∧
      ∃ x, (t.lookup? "k").bind (·.args[0]?) = some (.float x) := by
  let digits := [1, 8, 4, 4, 6, 7, 4, 4, 0, 7, 3, 7, 0, 9, 5, 5, 1, 6, 1, 6]
  let m : Numeral := ⟨false, digits, none, none⟩
  let members : List (String × Written) := [("k", .array [.string "H", .numeral m])]
  have hm : m.IsInteger := ⟨rfl, rfl, nofun⟩
  have hint : m.toInt = 2 ^ 64 := by decide
  have hnumeral : Renders (.numeral m) "18446744073709551616".toList :=
    .numeral (.mk (.digits (by decide) ⟨by decide, by decide⟩) .absent .absent)
  have hspells : Spells "H".toList ['H'] := .plain (by decide) (by decide) (by decide) .nil
  have hhandler : Renders (.string "H") "\"H\"".toList := .string hspells
  have harray : Renders (.array [.string "H", .numeral m]) "[\"H\",18446744073709551616]".toList :=
    .array (.cons blank_nil hhandler blank_nil (.one blank_nil hnumeral blank_nil))
  have hname : Spells "k".toList ['k'] := .plain (by decide) (by decide) (by decide) .nil
  have htext : TextOf (.object members) "\x7b\"k\":[\"H\",18446744073709551616]\x7d" :=
    .mk blank_nil (.object (.one blank_nil (.mk hname blank_nil blank_nil harray) blank_nil))
      blank_nil
  have hkey : ∀ {key w}, lastValue? key members = some w →
      key = "k" ∧ w = .array [.string "H", .numeral m] := by
    intro key w h
    simpa [members] using mem_of_lastValue? h
  have hshape : ∀ key w, lastValue? key members = some w → MacroShape w := by
    intro key w h
    obtain ⟨-, rfl⟩ := hkey h
    exact .sequence (by decide) (by simp [IsScalar])
  have hjson : (Written.object members).json?.isSome = true := by decide +kernel
  have hsome : (Written.object members).value?.isSome = true := by rwa [value?, Option.isSome_map]
  have hgap : ∀ key i m', (lastValue? key members).bind (argumentAt? i) = some (.numeral m') →
      m'.IsInteger → ¬ (2 ^ 63 ≤ m'.toInt ∧ m'.toInt ≤ 2 ^ 64 - 1) := by
    rintro key i m' hplace -
    obtain ⟨w, hw, hwritten⟩ := Option.bind_eq_some_iff.1 hplace
    obtain ⟨-, rfl⟩ := hkey hw
    have hmem : Written.numeral m' ∈ [Written.numeral m] := List.mem_of_getElem? hwritten
    obtain rfl : m' = m := by simpa using hmem
    rw [hint]
    decide
  obtain ⟨hargs, -, hmade, -⟩ := ofText_integers "m" _ members htext (by decide)
  obtain ⟨t, ht⟩ := (hmade hshape).2 ⟨hsome, hgap⟩
  have hplace : (lastValue? "k" members).bind (argumentAt? 0) = some (.numeral m) := rfl
  obtain ⟨x, -, hx⟩ := (hargs "k" 0 m hplace hm).rounded (.inr (Int.le_of_eq hint.symm)) t ht
  exact ⟨t, ht, _, hx⟩

/-- Not every integer that does not fit into 64 bits with its sign is refused: these two are held as
    floating-point numbers. -/
theorem ofText_wide_integers_not_refused :
    ((Table.ofText .json "m" "\x7b\"k\":[\"H\",18446744073709551616]\x7d").toOption.bind
      fun t : Table MacroEntry => ((t.lookup? "k").bind (·.args[0]?)).map Argument.kind) =
        some .float ∧
    ((Table.ofText .json "m"
      "\x7b\"k\":[\"d\",\x7b\"a\":-9223372036854775809\x7d]\x7d").toOption.bind
      fun t : Table CharacterEntry => ((t.lookup? "k").bind (·.attribute? "a")).map Argument.kind) =
        some .float := by
  constructor <;> decide +kernel

end TokenAtlas
