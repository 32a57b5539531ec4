import TokenAtlas.Atlas
import TokenAtlas.Proofs.Json.Printing
import TokenAtlas.Proofs.Settings

/-!
# Entries survive export

The JSON text of an entry says all that is needed to get the entry back.  It is read as an object;
the members of that, in the array that a configuration would hold, are a setting; and the setting
gives the entry again under its token, whatever table it is added to.  The same holds of an entry
inside the text of a resolution.  Floating-point numbers are left out, since a text has no form for
some of them.

## Key results

- `Json.canonical_canonical`: the value that a text stands for stands for itself
- `CharacterEntry.ofJson?_setting`, `MacroEntry.ofJson?_setting`: the setting of an entry gives it
- `entry_survives_export`: every entry without floating-point numbers survives
-/

namespace TokenAtlas

/-! ## Values that stand for themselves -/

namespace Json

/-- Members whose values stand for themselves are left as they are. -/
theorem canonicalMembers_eq_self {members : List (String × Json)}
    (h : ∀ m ∈ members, m.2.canonical = m.2) : canonicalMembers members = members := by
  induction members with
  | nil => rfl
  | cons m rest ih =>
    rw [List.forall_mem_cons] at h
    rw [canonicalMembers, h.1, ih h.2]

mutual

/-- The value that a text stands for stands for itself. -/
theorem canonical_canonical (j : Json) : j.canonical.canonical = j.canonical := by
  cases j with
  | null | bool | number | string => rfl
  | array items => rw [canonical, canonical, canonicalItems_canonicalItems items]
  | object members =>
    -- Sorting out repeated names leaves members that are canonical already.
    have hmembers := canonicalMembers_eq_self fun m hm =>
      canonical_of_mem_canonicalMembers members m (Fields.mem_of_mem_ofList hm)
    rw [canonical, canonical, hmembers, Fields.ofList_toList]

theorem canonicalItems_canonicalItems (items : List Json) :
    canonicalItems (canonicalItems items) = canonicalItems items := by
  cases items with
  | nil => rfl
  | cons j rest =>
    rw [canonicalItems, canonicalItems, canonical_canonical j, canonicalItems_canonicalItems rest]

theorem canonical_of_mem_canonicalMembers (members : List (String × Json)) :
    ∀ m ∈ canonicalMembers members, m.2.canonical = m.2 := by
  cases members with
  | nil => exact fun _ hm => absurd hm List.not_mem_nil
  | cons m rest =>
    rw [canonicalMembers, List.forall_mem_cons]
    exact ⟨canonical_canonical m.2, canonical_of_mem_canonicalMembers rest⟩

end

/-- The value that a text stands for stands for the same block as the text. -/
theorem toBlock?_canonical (j : Json) : j.canonical.toBlock? = j.toBlock? := by
  cases j with
  | object members =>
    have hmembers := canonicalMembers_eq_self fun m hm =>
      canonical_of_mem_canonicalMembers members m (Fields.mem_of_mem_ofList hm)
    rw [canonical, toBlock?, toBlock?, hmembers, Fields.ofList_toList]
  | null | bool | number | string | array => rfl

end Json

/-- Whether the text of a value is read as an object that stands for a block with a property. -/
def Json.ReadBack (j : Json) (P : Block → Prop) : Prop :=
  ∃ j' b, Json.read? j.render = some j' ∧ j'.toBlock? = some b ∧ P b

/-! ## Arguments -/

namespace Argument

/-- Whether an argument is anything but a floating-point number. -/
def IsExact (a : Argument) : Prop := a.kind ≠ .float

theorem integral_toJson {a : Argument} (h : a.IsExact) : a.toJson.Integral := by
  cases a with
  | int n =>
    have hlow : -2 ^ 63 ≤ n.toInt := n.le_toInt
    have hhigh : n.toInt < 2 ^ 63 := n.toInt_lt
    exact ⟨hlow, by omega⟩
  | float x => exact absurd rfl h
  | null | bool | text => exact trivial

theorem nesting_toJson (a : Argument) : a.toJson.nesting = 0 := by cases a <;> rfl

theorem canonical_toJson (a : Argument) : a.toJson.canonical = a.toJson := by cases a <;> rfl

/-- An argument is read back from its value. -/
theorem read?_toJson (a : Argument) : read? a.toJson = some a :=
  read?_eq_some_iff.2 (ofJson?_toJson a)

/-- Named arguments are read back from their members. -/
theorem mapM_read?_members (pairs : List (String × Argument)) :
    (pairs.map fun p => (p.1, p.2.toJson)).mapM (fun m => (read? m.2).map (m.1, ·)) = some pairs :=
  mapM_map_of_inverse (fun p => by rw [read?_toJson, Option.map_some]) pairs

end Argument

/-! ## What an object holds of an entry -/

/-- The setting of a character that the members of an object make up. -/
def CharacterEntry.setting? (b : Block) : Option Json := do
  let display ← b.get? "display"
  let attributes ← b.get? "attributes"
  some (.array [display, attributes])

/-- The setting of a macro that the members of an object make up. -/
def MacroEntry.setting? (b : Block) : Option Json := do
  let handler ← b.get? "handler"
  match ← b.get? "args" with
  | .array args => some (.array (handler :: args))
  | _ => none

namespace Table

variable {ε σ δ : Type} [TableEntry ε σ δ]

/-- Whether an object holds an entry: its token, and a setting that gives the entry when it is added
    under the token to a table, whatever is in that. -/
def Restores (setting? : Block → Option Json) (token : String) (e : ε) (b : Block) : Prop :=
  b.get? "symbol" = some (.string token) ∧
    ∃ j setting, setting? b = some j ∧ TableEntry.read ε j = .ok setting ∧
      ∀ t : Table ε, ∃ t', t.add token (TableEntry.expand ε setting) = .ok t' ∧
        t'.lookup? token = some e

/-- It is enough that the setting gives the entry. -/
theorem restores_of_ofJson? {setting? : Block → Option Json} {token : String} {e : ε} {b : Block}
    {j : Json} (hsymbol : b.get? "symbol" = some (.string token)) (hj : setting? b = some j)
    (he : TableEntry.ofJson? token j = .ok e) : Restores setting? token e b := by
  rw [TableEntry.ofJson?] at he
  split at he
  · cases he
  · rename_i setting hread
    refine ⟨hsymbol, j, setting, hj, hread, fun t => ⟨t.insert token e, ?_, ?_⟩⟩
    · exact add_eq_ok_iff.2 ⟨e, he, rfl⟩
    · simp [lookup?_insert]

end Table

/-! ## Entries -/

namespace CharacterEntry

/-- Whether no attribute is a floating-point number. -/
def IsExact (e : CharacterEntry) : Prop :=
  ∀ fs, e.attributes = some fs → ∀ p ∈ fs.toList, p.2.IsExact

theorem integral_attributesToJson {attributes : Option Attributes}
    (h : ∀ fs, attributes = some fs → ∀ p ∈ fs.toList, p.2.IsExact) :
    (attributesToJson attributes).Integral := by
  cases attributes with
  | none => exact trivial
  | some fs =>
    refine Json.integralMembers_iff.2 fun m hm => ?_
    obtain ⟨p, hp, rfl⟩ := List.mem_map.1 hm
    exact Argument.integral_toJson (h fs rfl p hp)

theorem nesting_attributesToJson (attributes : Option Attributes) :
    (attributesToJson attributes).nesting ≤ 1 := by
  cases attributes with
  | none => exact Nat.zero_le 1
  | some fs =>
    refine Nat.succ_le_succ (Json.nestingOfMembers_le_iff.2 fun m hm => ?_)
    obtain ⟨p, -, rfl⟩ := List.mem_map.1 hm
    exact Nat.le_of_eq (Argument.nesting_toJson p.2)

/-- Attributes have a name once and in order, so their object stands for itself. -/
theorem canonical_attributesToJson (attributes : Option Attributes) :
    (attributesToJson attributes).canonical = attributesToJson attributes := by
  cases attributes with
  | none => rfl
  | some fs =>
    -- The members are in the order of their names, as in a block.
    let members : Block := ⟨fs.toList.map fun p => (p.1, p.2.toJson), by
      simpa only [List.pairwise_map] using fs.sorted⟩
    have hmembers : Json.canonicalMembers members.toList = members.toList := by
      refine Json.canonicalMembers_eq_self fun m hm => ?_
      obtain ⟨p, -, rfl⟩ := List.mem_map.1 hm
      exact Argument.canonical_toJson p.2
    change (Json.object members.toList).canonical = .object members.toList
    rw [Json.canonical, hmembers, Fields.ofList_toList]

/-- The setting of an entry gives the entry. -/
theorem ofJson?_setting (e : CharacterEntry) :
    TableEntry.ofJson? e.symbol (.array [.string e.display, attributesToJson e.attributes]) =
      .ok e := by
  obtain ⟨symbol, display, attributes⟩ := e
  refine ofJson?_eq_ok_iff.2 ⟨display, attributes, rfl, ?_⟩
  cases attributes with
  | none => exact .inl ⟨.inr (.inr rfl), rfl⟩
  | some fs =>
    exact .inr ⟨_, fs.toList, rfl, Argument.mapM_read?_members fs.toList,
      by rw [Fields.ofList_toList]⟩

/-- The object of an entry holds the entry. -/
theorem restores_toJson (e : CharacterEntry) :
    ∃ b, e.toJson.toBlock? = some b ∧ Table.Restores setting? e.symbol e b := by
  -- No name is repeated in the object of an entry, so look-ups find what was put there.
  refine ⟨_, rfl, Table.restores_of_ofJson? ?_ ?_ e.ofJson?_setting⟩
  · rw [Fields.get?_ofList]
    rfl
  · rw [setting?, Fields.get?_ofList, Fields.get?_ofList]
    exact congrArg (fun j => some (Json.array [.string e.display, j]))
      (canonical_attributesToJson e.attributes)

theorem integral_toJson {e : CharacterEntry} (h : e.IsExact) : e.toJson.Integral :=
  ⟨trivial, trivial, integral_attributesToJson h, trivial⟩

theorem nesting_toJson (e : CharacterEntry) : e.toJson.nesting ≤ 2 := by
  have hattributes := nesting_attributesToJson e.attributes
  simp only [toJson, Json.nesting, Json.nestingOfMembers]
  omega

end CharacterEntry

namespace MacroEntry

/-- Whether no argument is a floating-point number. -/
def IsExact (e : MacroEntry) : Prop := ∀ a ∈ e.args, a.IsExact

/-- The setting of an entry with a handler gives the entry. -/
theorem ofJson?_setting {e : MacroEntry} (h : e.handler ≠ "") :
    TableEntry.ofJson? e.symbol (.array (.string e.handler :: e.args.map Argument.toJson)) =
      .ok e :=
  ofJson?_eq_ok_iff.2 ⟨e.handler, e.args, h, rfl,
    .inr ⟨_, rfl, mapM_map_of_inverse Argument.read?_toJson e.args⟩⟩

/-- The object of an entry with a handler holds the entry. -/
theorem restores_toJson {e : MacroEntry} (h : e.handler ≠ "") :
    ∃ b, e.toJson.toBlock? = some b ∧ Table.Restores setting? e.symbol e b := by
  have hargs : Json.canonicalItems (e.args.map Argument.toJson) = e.args.map Argument.toJson := by
    rw [Json.canonicalItems_eq_map, List.map_map]
    exact List.map_congr_left fun a _ => a.canonical_toJson
  refine ⟨_, rfl, Table.restores_of_ofJson? ?_ ?_ (ofJson?_setting h)⟩
  · rw [Fields.get?_ofList]
    rfl
  · rw [setting?, Fields.get?_ofList, Fields.get?_ofList]
    exact congrArg (fun args => some (Json.array (.string e.handler :: args))) hargs

theorem integral_toJson {e : MacroEntry} (h : e.IsExact) : e.toJson.Integral := by
  refine ⟨trivial, trivial, Json.integralItems_iff.2 fun j hj => ?_, trivial⟩
  obtain ⟨a, ha, rfl⟩ := List.mem_map.1 hj
  exact Argument.integral_toJson (h a ha)

theorem nesting_toJson (e : MacroEntry) : e.toJson.nesting ≤ 2 := by
  have hargs : Json.nestingOfItems (e.args.map Argument.toJson) ≤ 0 := by
    refine Json.nestingOfItems_le_iff.2 fun j hj => ?_
    obtain ⟨a, -, rfl⟩ := List.mem_map.1 hj
    exact Nat.le_of_eq a.nesting_toJson
  simp only [toJson, Json.nesting, Json.nestingOfMembers]
  omega

end MacroEntry

/-! ## Resolutions -/

namespace Resolution

/-- Whether an object is that of a resolution: the name and the kind of a map, and an entry whose
    object has a property. -/
def Holds (map : String) (kind : MapKind) (P : Block → Prop) (b : Block) : Prop :=
  b.get? "map" = some (.string map) ∧ b.get? "kind" = some (.string kind.name) ∧
    ∃ j b', b.get? "entry" = some j ∧ j.toBlock? = some b' ∧ P b'

/-- The object of a resolution holds the entry that was found. -/
theorem holds_of_toBlock? {map : String} {kind : MapKind} {entry : Json} {P : Block → Prop}
    {b : Block} (hb : entry.toBlock? = some b) (hP : P b) :
    ∃ b', (Json.object [("map", .string map), ("kind", .string kind.name),
      ("entry", entry)]).toBlock? = some b' ∧ Holds map kind P b' := by
  refine ⟨_, rfl, ?_, ?_, entry.canonical, b, ?_, entry.toBlock?_canonical.trans hb, hP⟩
  all_goals
    rw [Fields.get?_ofList]
    rfl

end Resolution

/-! ## Texts -/

/-- What an object holds is read back from its text. -/
theorem Json.readBack_of_toBlock? {j : Json} {P : Block → Prop} (hi : j.Integral)
    (hn : j.nesting ≤ 3) (h : ∃ b, j.toBlock? = some b ∧ P b) : j.ReadBack P := by
  obtain ⟨b, hb, hP⟩ := h
  exact ⟨j, b, Json.read?_render hi (Nat.le_trans hn (by decide)), hb, hP⟩

/-- What the object of an entry holds is read back from its own text and from that of a
    resolution. -/
theorem Json.readBack_entry {entry : Json} {P : Block → Prop} (hi : entry.Integral)
    (hn : entry.nesting ≤ 2) (h : ∃ b, entry.toBlock? = some b ∧ P b) :
    entry.ReadBack P ∧ ∀ map (kind : MapKind), (Json.object [("map", .string map),
      ("kind", .string kind.name), ("entry", entry)]).ReadBack (Resolution.Holds map kind P) := by
  refine ⟨readBack_of_toBlock? hi (Nat.le_succ_of_le hn) h, fun map kind => ?_⟩
  obtain ⟨b, hb, hP⟩ := h
  refine readBack_of_toBlock? ⟨trivial, trivial, hi, trivial⟩ ?_
    (Resolution.holds_of_toBlock? hb hP)
  simp only [nesting, nestingOfMembers]
  omega

/-- Every entry without floating-point numbers is read back from its JSON text, and so is the entry
    of a resolution, with the name and the kind of the map.  An entry of a macro must have a
    handler, since no table holds one without. -/
theorem entry_survives_export :
    (∀ e : CharacterEntry, e.IsExact →
      e.toJson.ReadBack (Table.Restores CharacterEntry.setting? e.symbol e) ∧
      ∀ map, (Resolution.mk map (.characterEntry e)).toJson.ReadBack
        (Resolution.Holds map .characters (Table.Restores CharacterEntry.setting? e.symbol e))) ∧
    (∀ e : MacroEntry, e.handler ≠ "" → e.IsExact →
      e.toJson.ReadBack (Table.Restores MacroEntry.setting? e.symbol e) ∧
      ∀ map, (Resolution.mk map (.macroEntry e)).toJson.ReadBack
        (Resolution.Holds map .macros (Table.Restores MacroEntry.setting? e.symbol e))) := by
  constructor
  · intro e he
    obtain ⟨hentry, hresolution⟩ := Json.readBack_entry (CharacterEntry.integral_toJson he)
      e.nesting_toJson e.restores_toJson
    exact ⟨hentry, fun map => hresolution map .characters⟩
  · intro e hhandler he
    obtain ⟨hentry, hresolution⟩ := Json.readBack_entry (MacroEntry.integral_toJson he)
      e.nesting_toJson (MacroEntry.restores_toJson hhandler)
    exact ⟨hentry, fun map => hresolution map .macros⟩

/-- A backslash and a line end are escaped, null is an argument like any other, and an empty set of
    attributes is not the same as none. -/
theorem entry_survives_export_escaped :
    (∃ j b, Json.read? "\x7b\"symbol\":\"\\\\\\n\",\"handler\":\"H\",\"args\":[null,-1,\"1\"]\x7d" =
        some j ∧ j.toBlock? = some b ∧ Table.Restores MacroEntry.setting? "\\\n"
          (⟨"\\\n", "H", [.null, .int (-1), .text "1"]⟩ : MacroEntry) b) ∧
    (∃ j b, Json.read? "\x7b\"symbol\":\"α\",\"display\":\"a\",\"attributes\":\x7b\x7d\x7d" =
        some j ∧ j.toBlock? = some b ∧ Table.Restores CharacterEntry.setting? "α"
          (⟨"α", "a", some .empty⟩ : CharacterEntry) b) := by
  constructor
  · let e : MacroEntry := ⟨"\\\n", "H", [.null, .int (-1), .text "1"]⟩
    have htext : e.toJson.render =
        "\x7b\"symbol\":\"\\\\\\n\",\"handler\":\"H\",\"args\":[null,-1,\"1\"]\x7d" := by
      decide +kernel
    have hexact : e.IsExact := by simp [e, MacroEntry.IsExact, Argument.IsExact, Argument.kind]
    obtain ⟨j, b, hread, hb⟩ := (entry_survives_export.2 e (by decide) hexact).1
    exact ⟨j, b, htext ▸ hread, hb⟩
  · let e : CharacterEntry := ⟨"α", "a", some .empty⟩
    have htext : e.toJson.render =
        "\x7b\"symbol\":\"α\",\"display\":\"a\",\"attributes\":\x7b\x7d\x7d" := by decide +kernel
    have hexact : e.IsExact := by
      intro fs hfs
      obtain rfl : Fields.empty = fs := Option.some.inj hfs
      exact fun _ hp => absurd hp List.not_mem_nil
    obtain ⟨j, b, hread, hb⟩ := (entry_survives_export.1 e hexact).1
    exact ⟨j, b, htext ▸ hread, hb⟩

end TokenAtlas
