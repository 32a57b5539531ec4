import Mathlib
import TokenAtlas.Proofs.EntryExport

/-!
# Which values are settings

The value of a token in a block is a setting just when it has one of a few shapes.  The shapes are
given here as relations between values and what they stand for, without saying how a value is read:
`Argument.Scalar`, `CharacterSetting.Shape` and `MacroSetting.Shape`.  Reading accepts exactly these
shapes.  What it gives determines the value again, except that no attributes may be written in two
ways.

## Key results

- `Json.isValue_of_get?`: what a block holds under a key is a value in the sense used here
- `Argument.ofJson?_eq_ok_iff`, `Argument.exists_ofJson?_eq_error_iff`: which values are arguments
- `CharacterSetting.read_eq_ok_iff`, `MacroSetting.read_eq_ok_iff`: which values are settings
- `CharacterSetting.Shape.eq_or_no_attributes`, `MacroSetting.Shape.eq`: how far a setting
  determines its value
- `readSetting_exact`: reading the value of a key, with the blame for a failure
-/

namespace TokenAtlas

open Json

/-- Whether a value is one that texts stand for: the members of its objects have different names and
    are in the order of these. -/
def Json.IsValue (j : Json) : Prop := j.canonical = j

/-- What a block holds under a key is such a value. -/
theorem Json.isValue_of_get? {j v : Json} {b : Block} {key : String} (h : j.toBlock? = some b)
    (hv : b.get? key = some v) : v.IsValue := by
  cases j with
  | object members =>
    obtain rfl := Option.some.inj h
    have hmem := Fields.mem_of_mem_ofList (Fields.mem_toList_iff.2 hv)
    exact canonical_of_mem_canonicalMembers members (key, v) hmem
  | null | bool | number | string | array => exact nomatch h

/-- The members of an object in an array are fields. -/
theorem Json.IsValue.exists_fields {first : Json} {members : List (String × Json)}
    (h : (Json.array [first, .object members]).IsValue) : ∃ fields : Block,
      members = fields.toList := by
  simp only [IsValue, canonical, canonicalItems, array.injEq, List.cons.injEq, object.injEq,
    and_true] at h
  exact ⟨_, h.2.symm⟩

/-! ## Arguments -/

namespace Argument

/-- The scalars, each with the argument that it stands for. -/
inductive Scalar : Json → Argument → Prop
  | null : Scalar .null .null
  | bool (b : Bool) : Scalar (.bool b) (.bool b)
  /-- A whole number that fits into 64 bits with its sign. -/
  | int (n : Int64) : Scalar (.number (.int n.toInt)) (.int n)
  | float (x : Binary64) : Scalar (.number (.float x)) (.float x)
  | text (s : String) : Scalar (.string s) (.text s)

/-- The values that stand for no argument. -/
inductive NoScalar : Json → Prop
  | array (items : List Json) : NoScalar (.array items)
  | object (members : List (String × Json)) : NoScalar (.object members)
  /-- A whole number that does not fit into 64 bits with its sign. -/
  | wide {n : Int} (h : n < -2 ^ 63 ∨ 2 ^ 63 ≤ n) : NoScalar (.number (.int n))

/-- A scalar is the value of its argument. -/
theorem scalar_iff {j : Json} {a : Argument} : Scalar j a ↔ j = a.toJson := by
  constructor
  · rintro (_ | _ | _ | _ | _) <;> rfl
  · rintro rfl
    cases a with
    | null => exact .null
    | bool b => exact .bool b
    | int n => exact .int n
    | float x => exact .float x
    | text s => exact .text s

/-- Every value is a scalar, or it is none. -/
theorem exists_scalar_or_noScalar (j : Json) : (∃ a, Scalar j a) ∨ NoScalar j := by
  cases j with
  | null => exact .inl ⟨_, .null⟩
  | bool b => exact .inl ⟨_, .bool b⟩
  | string s => exact .inl ⟨_, .text s⟩
  | array items => exact .inr (.array items)
  | object members => exact .inr (.object members)
  | number n =>
    cases n with
    | float x => exact .inl ⟨_, .float x⟩
    | int n =>
      -- Of the numbers, only whole ones can be out of range.
      by_cases hwide : n < -2 ^ 63 ∨ 2 ^ 63 ≤ n
      · exact .inr (.wide hwide)
      · have hn : (Int64.ofInt n).toInt = n := Int64.toInt_ofInt_of_le (by omega) (by omega)
        rw [← hn]
        exact .inl ⟨_, .int _⟩

/-- A scalar is read as its argument. -/
theorem Scalar.ofJson?_eq {j : Json} {a : Argument} (h : Scalar j a) : ofJson? j = .ok a := by
  rw [scalar_iff.1 h]
  exact ofJson?_toJson a

/-- What is no scalar is rejected. -/
theorem NoScalar.exists_rejection {j : Json} (h : NoScalar j) : ∃ why, ofJson? j = .error why := by
  cases h with
  | array items => exact ⟨_, rfl⟩
  | object members => exact ⟨_, rfl⟩
  | @wide n h =>
    have hmin : Int64.minValue.toInt = -2 ^ 63 := by decide
    have hmax : Int64.maxValue.toInt = 2 ^ 63 - 1 := by decide
    have hout : ¬ (Int64.minValue.toInt ≤ n ∧ n ≤ Int64.maxValue.toInt) := by omega
    exact ⟨.tooWide n, by simp only [ofJson?, if_neg hout]⟩

/-- The values that are read as arguments are the scalars. -/
theorem ofJson?_eq_ok_iff {j : Json} {a : Argument} : ofJson? j = .ok a ↔ Scalar j a := by
  constructor
  · intro h
    rcases exists_scalar_or_noScalar j with ⟨a', ha'⟩ | hno
    · obtain rfl : a' = a := Except.ok.inj (ha'.ofJson?_eq.symm.trans h)
      exact ha'
    · obtain ⟨why, hwhy⟩ := hno.exists_rejection
      exact nomatch hwhy.symm.trans h
  · exact Scalar.ofJson?_eq

/-- All other values are rejected. -/
theorem exists_ofJson?_eq_error_iff {j : Json} :
    (∃ why, ofJson? j = .error why) ↔ NoScalar j := by
  constructor
  · rintro ⟨why, h⟩
    rcases exists_scalar_or_noScalar j with ⟨a, ha⟩ | hno
    · exact nomatch ha.ofJson?_eq.symm.trans h
    · exact hno
  · exact NoScalar.exists_rejection

/-- Values that are read as the same argument are the same. -/
theorem eq_of_ofJson? {j j' : Json} {a : Argument} (h : ofJson? j = .ok a)
    (h' : ofJson? j' = .ok a) : j = j' := by
  rw [scalar_iff.1 (ofJson?_eq_ok_iff.1 h), scalar_iff.1 (ofJson?_eq_ok_iff.1 h')]

end Argument

/-! ## Settings of characters -/

namespace CharacterSetting

/-- The shapes of a setting of a character. -/
inductive Shape : Json → CharacterSetting → Prop
  /-- What is shown. -/
  | shorthand (display : String) : Shape (.string display) (.shorthand display)
  /-- What is shown, alone in an array. -/
  | alone (display : String) : Shape (.array [.string display]) (.structured display none)
  /-- What is shown, and null where attributes would be. -/
  | null (display : String) : Shape (.array [.string display, .null]) (.structured display none)
  /-- What is shown, and an object that has exactly the names of the attributes, each with a scalar
      that stands for the attribute. -/
  | attributes {display : String} {fields : Block} {attributes : Attributes}
      (h : ∀ name, (fields.get? name).map Argument.ofJson? = (attributes.get? name).map .ok) :
      Shape (.array [.string display, .object fields.toList])
        (.structured display (some attributes))

/-- The members of an object are read as attributes just when each of them is a scalar. -/
theorem readAttributes_toList_iff {fields : Block} {attributes : Attributes} :
    (∃ pairs, readAttributes fields.toList = .ok pairs ∧ attributes = Fields.ofList pairs) ↔
      ∀ name, (fields.get? name).map Argument.ofJson? = (attributes.get? name).map .ok := by
  constructor
  · -- What was read of a member is what was read of the last one with its name.
    rintro ⟨pairs, hpairs, rfl⟩ name
    have hread := readAttributes_eq_ok_iff.1 hpairs
    rw [Fields.get?_ofList, lastValue?_mapM hread, Fields.lastValue?_toList]
    cases hfield : fields.get? name with
    | none => rfl
    | some j =>
      obtain ⟨q, -, hq⟩ := exists_of_mapM hread (Fields.mem_toList_iff.2 hfield)
      obtain ⟨a, ha, -⟩ := Option.map_eq_some_iff.1 hq
      show some (Argument.ofJson? j) = ((Argument.read? j).map Except.ok)
      rw [show Argument.read? j = some a from ha, Argument.read?_eq_some_iff.1 ha]
      rfl
  · -- Every member is a scalar, so all of them are read, and name by name as the attributes.
    intro h
    have hread : ∀ m ∈ fields.toList, ∃ q, (Argument.read? m.2).map (m.1, ·) = some q := by
      rintro ⟨name, j⟩ hmem
      have hname := h name
      rw [Fields.mem_toList_iff.1 hmem, Option.map_some] at hname
      obtain ⟨a, -, ha⟩ := Option.map_eq_some_iff.1 hname.symm
      exact ⟨(name, a), by rw [Argument.read?_eq_some_iff.2 ha.symm, Option.map_some]⟩
    obtain ⟨pairs, hpairs⟩ := exists_mapM hread
    refine ⟨pairs, readAttributes_eq_ok_iff.2 hpairs, Fields.ext_get? fun name => ?_⟩
    rw [Fields.get?_ofList, lastValue?_mapM hpairs, Fields.lastValue?_toList]
    have hname := h name
    cases hfield : fields.get? name with
    | none =>
      rw [hfield] at hname
      simpa using hname.symm
    | some j =>
      rw [hfield, Option.map_some] at hname
      obtain ⟨a, ha, hj⟩ := Option.map_eq_some_iff.1 hname.symm
      rw [ha, Option.bind_some, Argument.read?_eq_some_iff.2 hj.symm]

/-- The values that are settings of characters are those of one of the shapes. -/
theorem read_eq_ok_iff {v : Json} (hv : v.IsValue) {s : CharacterSetting} :
    read v = .ok s ↔ Shape v s := by
  constructor
  · intro h
    cases v with
    | null | bool | number | object => exact nomatch h
    | string display =>
      obtain rfl := Except.ok.inj h
      exact .shorthand display
    | array items =>
      obtain ⟨display, rest, attributes, rfl, hlen, hslot, rfl⟩ := readArray_eq_ok_iff.1 h
      rcases readSlot_eq_ok_iff.1 hslot with
        ⟨rfl | ⟨more, rfl⟩, rfl⟩ | ⟨members, more, pairs, rfl, hpairs, rfl⟩
      · exact .alone display
      · obtain rfl : more = [] := by simpa using hlen
        exact .null display
      · obtain rfl : more = [] := by simpa using hlen
        -- The object is a value that was read, so its members are fields.
        obtain ⟨fields, rfl⟩ := hv.exists_fields
        exact .attributes (readAttributes_toList_iff.1
          ⟨pairs, readAttributes_eq_ok_iff.2 hpairs, rfl⟩)
  · intro h
    cases h with
    | shorthand display => rfl
    | alone display => rfl
    | null display => rfl
    | @attributes display fields attributes h =>
      obtain ⟨pairs, hpairs, rfl⟩ := readAttributes_toList_iff.2 h
      simp [read, readArray, readSlot, hpairs, Except.map]

/-- A setting determines its value, except that the place of attributes may be left out or hold
    null. -/
theorem Shape.eq_or_no_attributes {v v' : Json} {s : CharacterSetting} (h : Shape v s)
    (h' : Shape v' s) : v = v' ∨ ∃ display,
      (v = .array [.string display] ∧ v' = .array [.string display, .null]) ∨
        (v = .array [.string display, .null] ∧ v' = .array [.string display]) := by
  cases h with
  | shorthand display =>
    cases h'
    exact .inl rfl
  | alone display =>
    cases h' with
    | alone => exact .inl rfl
    | null => exact .inr ⟨display, .inl ⟨rfl, rfl⟩⟩
  | null display =>
    cases h' with
    | alone => exact .inr ⟨display, .inr ⟨rfl, rfl⟩⟩
    | null => exact .inl rfl
  | @attributes display fields attributes h =>
    cases h' with
    | @attributes _ fields' _ h' =>
      -- Both objects have the scalars of the same attributes, so they have the same fields.
      have hfields : fields = fields' := by
        apply Fields.ext_get?
        intro name
        have hname := (h name).trans (h' name).symm
        have hattribute := h name
        cases hfield : fields.get? name with
        | none =>
          rw [hfield, Option.map_none] at hname
          exact (Option.map_eq_none_iff.1 hname.symm).symm
        | some j =>
          rw [hfield, Option.map_some] at hname hattribute
          obtain ⟨j', hj', hsame⟩ := Option.map_eq_some_iff.1 hname.symm
          obtain ⟨a, -, ha⟩ := Option.map_eq_some_iff.1 hattribute.symm
          rw [hj', Argument.eq_of_ofJson? ha.symm (hsame.trans ha.symm)]
      rw [hfields]
      exact .inl rfl

end CharacterSetting

/-! ## Settings of macros -/

namespace MacroSetting

/-- The shapes of a setting of a macro. -/
inductive Shape : Json → MacroSetting → Prop
  /-- The handler. -/
  | shorthand (handler : String) : Shape (.string handler) (.shorthand handler)
  /-- An array of scalars, which stand for the elements in their order. -/
  | sequence {items : List Json} {args : List Argument}
      (h : List.Forall₂ (fun j a => Argument.ofJson? j = .ok a) items args) :
      Shape (.array items) (.sequence args)

theorem mapM_read?_eq_some_iff {items : List Json} {args : List Argument} :
    items.mapM Argument.read? = some args ↔
      List.Forall₂ (fun j a => Argument.ofJson? j = .ok a) items args := by
  induction items generalizing args with
  | nil => cases args <;> simp
  | cons j items ih =>
    cases args with
    | nil => simp [Option.bind_eq_some_iff]
    | cons a args =>
      rw [List.forall₂_cons, ← ih, ← Argument.read?_eq_some_iff]
      simp [Option.bind_eq_some_iff]

/-- The values that are settings of macros are those of one of the shapes. -/
theorem read_eq_ok_iff {v : Json} {s : MacroSetting} : read v = .ok s ↔ Shape v s := by
  constructor
  · intro h
    cases v with
    | null | bool | number | object => exact nomatch h
    | string handler =>
      obtain rfl := Except.ok.inj h
      exact .shorthand handler
    | array items =>
      obtain ⟨args, hargs, rfl⟩ := read_array_eq_ok_iff.1 h
      exact .sequence (mapM_read?_eq_some_iff.1 hargs)
  · intro h
    cases h with
    | shorthand handler => rfl
    | sequence h => exact read_array_eq_ok_iff.2 ⟨_, mapM_read?_eq_some_iff.2 h, rfl⟩

/-- A setting determines its value. -/
theorem Shape.eq {v v' : Json} {s : MacroSetting} (h : Shape v s) (h' : Shape v' s) : v = v' := by
  cases h with
  | shorthand handler =>
    cases h'
    rfl
  | @sequence items args h =>
    cases h' with
    | @sequence items' _ h' =>
      congr 1
      induction h generalizing items' with
      | nil =>
        cases h'
        rfl
      | cons hj _ ih =>
        cases h' with
        | cons hj' hrest => rw [Argument.eq_of_ofJson? hj hj', ih hrest]

end MacroSetting

/-! ## The value of a key -/

namespace Table

variable (ε : Type) {σ δ : Type} [TableEntry ε σ δ]

/-- The values of a block are read one by one. -/
theorem readSettings_eq_mapM (map : String) (pairs : List (String × Json)) :
    readSettings ε map pairs =
      pairs.mapM fun p => (readSetting ε map p.1 p.2).map (p.1, ·) := by
  induction pairs with
  | nil => rfl
  | cons p rest ih =>
    obtain ⟨key, j⟩ := p
    rw [readSettings, List.mapM_cons, ← ih]
    cases readSetting ε map key j with
    | error e => rfl
    | ok setting => cases readSettings ε map rest <;> rfl

/-- Reading the value of a key decides whether it has one of some shapes, and blames the key if it
    has none. -/
structure ReadsExactly (Shape : Json → σ → Prop) (map key : String) (v : Json) : Prop where
  accepted (setting : σ) : readSetting ε map key v = .ok setting ↔ Shape v setting
  refused : (∀ setting, ¬ Shape v setting) ↔ ∃ e, readSetting ε map key v = .error e
  blamed (e : BuildError) (h : readSetting ε map key v = .error e) :
    ∃ how, e = .entry map key (.malformed how)

variable {ε}

/-- It is enough that the shapes are those that are read. -/
theorem readsExactly_of_read {Shape : Json → σ → Prop} (map key : String) {v : Json}
    (h : ∀ setting, TableEntry.read ε v = .ok setting ↔ Shape v setting) :
    ReadsExactly ε Shape map key v where
  accepted setting := by rw [readSetting_eq_ok_iff, h]
  refused := by
    simp only [← h, readSetting_eq_error_iff]
    cases TableEntry.read ε v <;> simp
  blamed e he := by
    obtain ⟨how, -, rfl⟩ := readSetting_eq_error_iff.1 he
    exact ⟨how, rfl⟩

/-- Which values are read, and as what.

* A value is read as an argument just when it is a scalar.  Arrays, objects and whole numbers that
  do not fit into 64 bits with their sign are rejected, and nothing else is.
* A value is read as a setting of a character or of a macro just when it has one of their shapes.
  Any other value is a malformed entry, blamed on the map and the key.
* Different values are read as different settings, except that attributes which are left out may be
  written as null. -/
theorem readSetting_exact (map key : String) {v : Json} (hv : v.IsValue) :
    (∀ a, Argument.ofJson? v = .ok a ↔ Argument.Scalar v a) ∧
    ((∃ why, Argument.ofJson? v = .error why) ↔ Argument.NoScalar v) ∧
    ReadsExactly CharacterEntry CharacterSetting.Shape map key v ∧
    ReadsExactly MacroEntry MacroSetting.Shape map key v ∧
    ∀ v', v'.IsValue →
      (∀ setting, readSetting CharacterEntry map key v = .ok setting →
        readSetting CharacterEntry map key v' = .ok setting → v = v' ∨ ∃ display,
          (v = .array [.string display] ∧ v' = .array [.string display, .null]) ∨
            (v = .array [.string display, .null] ∧ v' = .array [.string display])) ∧
      ∀ setting, readSetting MacroEntry map key v = .ok setting →
        readSetting MacroEntry map key v' = .ok setting → v = v' := by
  have hcharacters {w : Json} (hw : w.IsValue) :
      ReadsExactly CharacterEntry CharacterSetting.Shape map key w :=
    readsExactly_of_read map key fun _ => CharacterSetting.read_eq_ok_iff hw
  have hmacros (w : Json) : ReadsExactly MacroEntry MacroSetting.Shape map key w :=
    readsExactly_of_read map key fun _ => MacroSetting.read_eq_ok_iff
  refine ⟨fun _ => Argument.ofJson?_eq_ok_iff, Argument.exists_ofJson?_eq_error_iff, hcharacters hv,
    hmacros v, fun v' hv' => ⟨fun s hs hs' => ?_, fun s hs hs' => ?_⟩⟩
  · have hshape := ((hcharacters hv).accepted s).1 hs
    exact hshape.eq_or_no_attributes (((hcharacters hv').accepted s).1 hs')
  · have hshape := ((hmacros v).accepted s).1 hs
    exact hshape.eq (((hmacros v').accepted s).1 hs')

/-- An empty set of attributes is not the same as none, and a number that is too wide spoils the
    whole value of its key. -/
theorem readSetting_exact_empty_attributes :
    readSetting CharacterEntry "m" "k" (.array [.string "A", .object []]) =
        .ok (.structured "A" (some .empty)) ∧
      (∃ e, readSetting MacroEntry "m" "k" (.array [.string "H", .number (.int (2 ^ 63))]) =
        .error e) := by
  have hempty : (Json.array [.string "A", .object []]).IsValue := rfl
  have hwide : (Json.array [.string "H", .number (.int (2 ^ 63))]).IsValue := rfl
  constructor
  · have hshape : CharacterSetting.Shape (.array [.string "A", .object []])
        (.structured "A" (some .empty)) :=
      @CharacterSetting.Shape.attributes "A" .empty .empty fun _ => rfl
    exact ((readSetting_exact "m" "k" hempty).2.2.1.accepted _).2 hshape
  · refine (readSetting_exact "m" "k" hwide).2.2.2.1.refused.1 fun setting hsetting => ?_
    cases hsetting with
    | sequence h =>
      obtain ⟨why, hwhy⟩ := Argument.exists_ofJson?_eq_error_iff.2
        (Argument.NoScalar.wide (n := 2 ^ 63) (.inr (Int.le_refl _)))
      cases h with
      | cons _ hrest =>
        cases hrest with
        | cons hj _ => exact nomatch hwhy.symm.trans hj

end Table

end TokenAtlas
