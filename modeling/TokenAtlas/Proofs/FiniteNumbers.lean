import Mathlib
import TokenAtlas.Proofs.Contents
import TokenAtlas.Proofs.Loading
import TokenAtlas.Proofs.Settings

/-!
# Only finite numbers are stored

Texts can write numbers that are too great for a finite one, and YAML has words for the infinities
and for NaN.  None of them gets into an entry.  A numeral of JSON that is too great stands for
nothing, and whatever else is read passes through `Content.numberToJson`, which leaves only finite
numbers.  The rest of the way from a text to an entry makes no new numbers, so every stage of it
keeps `Json.Finite`.

## Key results

- `Block.isFinite_of_ofText?`: the numbers of a block are finite, in both formats
- `Definition.isFinite_of_definitions`: so are those of the definitions of a document
- `CharacterEntry.isFinite_of_ofJson?`, `MacroEntry.isFinite_of_ofJson?`: entries keep it
- `TokenMap.isFinite_of_build`: all that a map knows of a token is finite
-/

namespace TokenAtlas

/-! ## Finite values -/

namespace Json

theorem finiteItems_iff {items : List Json} : FiniteItems items ↔ ∀ j ∈ items, j.Finite := by
  induction items with
  | nil => simp [FiniteItems]
  | cons j rest ih => simp [FiniteItems, ih]

theorem finiteMembers_iff {members : List (String × Json)} :
    FiniteMembers members ↔ ∀ m ∈ members, m.2.Finite := by
  induction members with
  | nil => simp [FiniteMembers]
  | cons m rest ih => simp [FiniteMembers, ih]

mutual

/-- Sorting out repeated names makes no new numbers. -/
theorem Finite.canonical {j : Json} (h : j.Finite) : j.canonical.Finite := by
  cases j with
  | null | bool | string => exact trivial
  | number n => exact h
  | array items => exact FiniteItems.canonicalItems h
  | object members =>
    have hmembers := finiteMembers_iff.1 (FiniteMembers.canonicalMembers h)
    exact finiteMembers_iff.2 fun m hm => hmembers m (Fields.mem_of_mem_ofList hm)

theorem FiniteItems.canonicalItems {items : List Json} (h : FiniteItems items) :
    FiniteItems (canonicalItems items) := by
  cases items with
  | nil => exact trivial
  | cons j rest => exact ⟨h.1.canonical, FiniteItems.canonicalItems h.2⟩

theorem FiniteMembers.canonicalMembers {members : List (String × Json)}
    (h : FiniteMembers members) : FiniteMembers (canonicalMembers members) := by
  cases members with
  | nil => exact trivial
  | cons m rest => exact ⟨h.1.canonical, FiniteMembers.canonicalMembers h.2⟩

end

end Json

/-! ## Blocks -/

/-- Whether every floating-point number in a block is finite. -/
def Block.IsFinite (b : Block) : Prop := ∀ key j, b.get? key = some j → j.Finite

/-- A block has the numbers of the object that it stands for. -/
theorem Block.isFinite_of_toBlock? {j : Json} {b : Block} (hj : j.Finite)
    (h : j.toBlock? = some b) : b.IsFinite := by
  cases j with
  | object members =>
    obtain rfl := Option.some.inj h
    intro key j hget
    have hmem := Fields.mem_of_mem_ofList (Fields.mem_toList_iff.2 hget)
    exact Json.finiteMembers_iff.1 (Json.FiniteMembers.canonicalMembers hj) (key, j) hmem
  | null | bool | number | string | array => exact nomatch h

namespace Content

/-- What is no finite number becomes null. -/
theorem finite_numberToJson (n : Number) : (numberToJson n).Finite := by
  cases n with
  | int n => exact trivial
  | float x =>
    simp only [numberToJson]
    split
    · rename_i hx
      exact hx
    · exact trivial

mutual

/-- Whatever a document says, the JSON text of it has only finite numbers. -/
theorem finite_of_toJson? {c : Content} {j : Json} (h : c.toJson? = some j) : j.Finite := by
  cases c with
  | null | bool | text =>
    obtain rfl := Option.some.inj h
    exact trivial
  | number n =>
    obtain rfl := Option.some.inj h
    exact finite_numberToJson n
  | list items =>
    obtain ⟨js, hjs, rfl⟩ := Option.map_eq_some_iff.1 h
    exact finiteItems_of_toItems? hjs
  | mapping members =>
    obtain ⟨ms, hms, rfl⟩ := Option.map_eq_some_iff.1 h
    exact finiteMembers_of_toMembers? hms

theorem finiteItems_of_toItems? {items : List Content} {js : List Json}
    (h : toItems? items = some js) : Json.FiniteItems js := by
  cases items with
  | nil =>
    obtain rfl := Option.some.inj h
    exact trivial
  | cons c rest =>
    simp only [toItems?, Option.bind_eq_bind, Option.bind_eq_some_iff, Option.some.injEq] at h
    obtain ⟨j, hj, js', hrest, rfl⟩ := h
    exact ⟨finite_of_toJson? hj, finiteItems_of_toItems? hrest⟩

theorem finiteMembers_of_toMembers? {members : List (Content × Content)}
    {ms : List (String × Json)} (h : toMembers? members = some ms) : Json.FiniteMembers ms := by
  cases members with
  | nil =>
    obtain rfl := Option.some.inj h
    exact trivial
  | cons m rest =>
    simp only [toMembers?, Option.bind_eq_bind, Option.bind_eq_some_iff, Option.some.injEq] at h
    obtain ⟨name, -, j, hj, ms', hrest, rfl⟩ := h
    exact ⟨finite_of_toJson? hj, finiteMembers_of_toMembers? hrest⟩

end

theorem isFinite_of_toBlock? {c : Content} {b : Block} (h : c.toBlock? = some b) : b.IsFinite := by
  obtain ⟨j, hj, hb⟩ := Option.bind_eq_some_iff.1 h
  exact Block.isFinite_of_toBlock? (finite_of_toJson? hj) hb

end Content

/-- The numbers of the block that a text stands for are finite, in whatever way they are written. -/
theorem Block.isFinite_of_ofText? {format : DocumentFormat} {text : String} {b : Block}
    (h : ofText? format text = some b) : b.IsFinite := by
  cases format with
  | json =>
    obtain ⟨j, hread, hb⟩ := Option.bind_eq_some_iff.1 h
    obtain ⟨w, -, -, hw⟩ := Json.textOf_of_read? hread
    exact isFinite_of_toBlock? (Json.Written.finite_of_json? hw) hb
  | yaml =>
    have hempty : IsFinite Fields.empty := fun _ _ hget => nomatch hget
    obtain ⟨tokens, -, h⟩ := Option.bind_eq_some_iff.1 h
    obtain ⟨root, -, h⟩ := Option.bind_eq_some_iff.1 h
    -- Where nothing is written there is an empty block; all else is the content of a mapping.
    unfold Yaml.block? at h
    split at h
    · cases h
      exact hempty
    · split at h
      · obtain ⟨members, -, hb⟩ := Option.bind_eq_some_iff.1 h
        exact Content.isFinite_of_toBlock? hb
      · cases h
        exact hempty
      · cases h

/-! ## Entries -/

/-- Whether an argument is neither an infinity nor NaN. -/
def Argument.IsFinite : Argument → Prop
  | .float x => x.isFinite = true
  | _ => True

/-- Whether no attribute is an infinity or NaN. -/
def CharacterEntry.IsFinite (e : CharacterEntry) : Prop :=
  ∀ name a, e.attribute? name = some a → a.IsFinite

/-- Whether no argument is an infinity or NaN. -/
def MacroEntry.IsFinite (e : MacroEntry) : Prop := ∀ a ∈ e.args, a.IsFinite

/-- An argument is the number that it is read from. -/
theorem Argument.isFinite_of_read? {j : Json} {a : Argument} (hj : j.Finite)
    (h : read? j = some a) : a.IsFinite := by
  rw [read?_eq_some_iff] at h
  cases j with
  | number n =>
    cases n with
    | int n =>
      simp only [ofJson?] at h
      split at h
      · cases h
        trivial
      · cases h
    | float x =>
      -- The one case with something to show: the argument is the number itself.
      cases h
      exact hj
  | null | bool | string =>
    cases h
    trivial
  | array | object => cases h

/-- An entry of a character has the numbers of its setting. -/
theorem CharacterEntry.isFinite_of_ofJson? {token : String} {j : Json} {e : CharacterEntry}
    (hj : j.Finite) (h : TableEntry.ofJson? token j = .ok e) : e.IsFinite := by
  obtain ⟨display, attributes, rfl, ⟨-, rfl⟩ | ⟨members, pairs, rfl, hpairs, rfl⟩⟩ :=
    ofJson?_eq_ok_iff.1 h
  · exact fun _ _ hget => nomatch hget
  · intro name a hget
    have hlast : lastValue? name pairs = some a := by
      rw [← Fields.get?_ofList]
      exact hget
    -- The attribute was read from the last member with its name.
    rw [lastValue?_mapM hpairs] at hlast
    obtain ⟨j, hmember, ha⟩ := Option.bind_eq_some_iff.1 hlast
    have hmembers : Json.FiniteMembers members := hj.2.1
    exact Argument.isFinite_of_read?
      (Json.finiteMembers_iff.1 hmembers _ (mem_of_lastValue? hmember)) ha

/-- An entry of a macro has the numbers of its setting. -/
theorem MacroEntry.isFinite_of_ofJson? {token : String} {j : Json} {e : MacroEntry}
    (hj : j.Finite) (h : TableEntry.ofJson? token j = .ok e) : e.IsFinite := by
  obtain ⟨handler, args, -, rfl, ⟨-, rfl⟩ | ⟨items, rfl, hargs⟩⟩ := ofJson?_eq_ok_iff.1 h
  · exact fun _ ha => absurd ha List.not_mem_nil
  · intro a ha
    obtain ⟨j, hmem, hread⟩ := exists_of_mem_mapM hargs ha
    have hitems : Json.FiniteItems items := hj.2
    exact Argument.isFinite_of_read? (Json.finiteItems_iff.1 hitems j hmem) hread

/-! ## Tables -/

namespace Table

variable {ε σ δ : Type} [TableEntry ε σ δ]

/-- A table holds nothing but entries that its block gives. -/
theorem exists_ofJson?_of_lookup? {name : String} {b : Block} {t : Table ε}
    (h : ofBlock name b = .ok t) {token : String} {e : ε} (he : t.lookup? token = some e) :
    ∃ j, b.get? token = some j ∧ TableEntry.ofJson? token j = .ok e := by
  rcases lookup?_of_ofBlock h token with ⟨-, hnone⟩ | ⟨j, e', hget, hj, hlookup⟩
  · exact nomatch hnone.symm.trans he
  · obtain rfl : e' = e := Option.some.inj (hlookup.symm.trans he)
    exact ⟨j, hget, hj⟩

/-- What reading a setting keeps of finite numbers, a table made from a block keeps. -/
theorem forall_lookup?_of_ofBlock {P : ε → Prop}
    (hP : ∀ token j e, j.Finite → TableEntry.ofJson? token j = .ok e → P e) {name : String}
    {b : Block} {t : Table ε} (hb : b.IsFinite) (h : ofBlock name b = .ok t) {token : String}
    {e : ε} (he : t.lookup? token = some e) : P e := by
  obtain ⟨j, hget, hj⟩ := exists_ofJson?_of_lookup? h he
  exact hP token j e (hb token j hget) hj

/-- The same for a table that a text configures. -/
theorem forall_lookup?_of_ofText {P : ε → Prop}
    (hP : ∀ token j e, j.Finite → TableEntry.ofJson? token j = .ok e → P e)
    {format : DocumentFormat} {name text : String} {t : Table ε}
    (h : ofText format name text = .ok t) {token : String} {e : ε}
    (he : t.lookup? token = some e) : P e := by
  obtain ⟨b, hb, hmade⟩ := ofText_eq_ok_iff.1 h
  exact forall_lookup?_of_ofBlock hP (Block.isFinite_of_ofText? hb) hmade he

end Table

/-! ## Definitions -/

namespace Definition

/-- Whether the entries of a definition have only finite numbers. -/
def IsFinite : Definition → Prop
  | .patterns _ _ => True
  | .characters _ entries => entries.IsFinite
  | .macros _ entries => entries.IsFinite

theorem isFinite_of_make? {kind : MapKind} {name : String} {last : Content} {d : Definition}
    (h : make? kind name last = some d) : d.IsFinite := by
  cases kind with
  | patterns =>
    obtain ⟨pattern, -, rfl⟩ := Option.map_eq_some_iff.1 h
    exact trivial
  | characters =>
    obtain ⟨b, hb, rfl⟩ := Option.map_eq_some_iff.1 h
    exact Content.isFinite_of_toBlock? hb
  | macros =>
    obtain ⟨b, hb, rfl⟩ := Option.map_eq_some_iff.1 h
    exact Content.isFinite_of_toBlock? hb

/-- Whatever a definition is read from, it is made of a kind, a name and a third value. -/
theorem exists_make?_of_ofContent? {c : Content} {d : Definition} (h : ofContent? c = some d) :
    ∃ kind name last, make? kind name last = some d := by
  unfold ofContent? at h
  split at h
  · -- a mapping
    obtain ⟨kind, -, h⟩ := Option.bind_eq_some_iff.1 h
    obtain ⟨found, -, h⟩ := Option.bind_eq_some_iff.1 h
    split at h
    · exact ⟨_, _, _, h⟩
    · exact nomatch h
  · -- a list
    obtain ⟨kind, -, h⟩ := Option.bind_eq_some_iff.1 h
    unfold ofItems? at h
    split at h
    · obtain ⟨name, -, h⟩ := Option.bind_eq_some_iff.1 h
      exact ⟨_, _, _, h⟩
    · exact nomatch h
  · exact nomatch h

/-- The numbers of the definitions of a document are finite, whatever it is written in. -/
theorem isFinite_of_definitions {doc : Document} {ds : List Definition}
    (h : doc.definitions = .ok ds) : ∀ d ∈ ds, d.IsFinite := by
  intro d hd
  unfold Document.definitions at h
  split at h
  · rename_i ds' hds
    obtain rfl : ds' = ds := Except.ok.inj h
    obtain ⟨items, -, hitems⟩ := Option.bind_eq_some_iff.1 hds
    obtain ⟨c, -, hc⟩ := exists_of_mem_mapM hitems hd
    obtain ⟨kind, name, last, hmake⟩ := exists_make?_of_ofContent? hc
    exact isFinite_of_make? hmake
  · exact nomatch h

end Definition

/-! ## Maps -/

/-- Whether what a map knows of a token has only finite numbers. -/
def Found.IsFinite : Found → Prop
  | .matched => True
  | .characterEntry e => e.IsFinite
  | .macroEntry e => e.IsFinite

/-- A map with finite numbers in its definition knows only finite numbers. -/
theorem TokenMap.isFinite_of_build [Pattern.SizeCheck] {d : Definition} {m : TokenMap}
    (hd : d.IsFinite) (h : d.build = .ok m) {token : String} {found : Found}
    (hfound : m.lookup? token = some found) : found.IsFinite := by
  cases d with
  | patterns name pattern =>
    obtain ⟨p, -, rfl⟩ := map_eq_ok_iff.1 h
    simp only [lookup?] at hfound
    split at hfound
    · cases hfound
      trivial
    · cases hfound
  | characters name entries =>
    obtain ⟨t, ht, rfl⟩ := map_eq_ok_iff.1 h
    obtain ⟨e, he, rfl⟩ := Option.map_eq_some_iff.1 hfound
    exact Table.forall_lookup?_of_ofBlock (fun _ _ _ => CharacterEntry.isFinite_of_ofJson?) hd ht he
  | macros name entries =>
    obtain ⟨t, ht, rfl⟩ := map_eq_ok_iff.1 h
    obtain ⟨e, he, rfl⟩ := Option.map_eq_some_iff.1 hfound
    exact Table.forall_lookup?_of_ofBlock (fun _ _ _ => MacroEntry.isFinite_of_ofJson?) hd ht he

/-- The maps of a document know only finite numbers. -/
theorem Document.isFinite_of_load [Pattern.SizeCheck] {doc : Document} {a : Atlas}
    (h : doc.load = .ok a) {m : TokenMap} (hm : m ∈ a.maps) {token : String} {found : Found}
    (hfound : m.lookup? token = some found) : found.IsFinite := by
  obtain ⟨ds, hds, hholds⟩ := holds_of_load h
  obtain ⟨d, hd, hbuild⟩ := hholds.exists_of_mem hm
  exact TokenMap.isFinite_of_build (Definition.isFinite_of_definitions hds d hd) hbuild hfound

end TokenAtlas
