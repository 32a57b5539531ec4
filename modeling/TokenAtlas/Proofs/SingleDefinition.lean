import TokenAtlas.BlockText
import TokenAtlas.Proofs.Documents
import TokenAtlas.Proofs.Loading
import TokenAtlas.Proofs.Resolution

/-!
# Documents with one definition

The entries of a table may stand in the definition of a document or in a text of their own.  In JSON
both ways lead to the same table, or to the same error: a document that defines one table gives just
the table that the text of its entries gives directly.

## Key results

- `Document.load_of_definitions`: a document with one definition gives the map of that definition
- `EntryKind.load_json_entries`: in JSON that is the map that the text of the entries gives
-/

namespace TokenAtlas

open Json Written

/-- The kinds of maps that are defined by entries. -/
inductive EntryKind
  | characters
  | macros
  deriving DecidableEq, Repr

namespace EntryKind

/-- The kind of the maps. -/
def kind : EntryKind → MapKind
  | .characters => .characters
  | .macros => .macros

/-- The definition of a map with entries. -/
def definition (k : EntryKind) (name : String) (entries : Block) : Definition :=
  match k with
  | .characters => .characters name entries
  | .macros => .macros name entries

/-- The map that a text of entries gives directly. -/
def ofText (k : EntryKind) (format : DocumentFormat) (name text : String) :
    Except BuildError TokenMap :=
  match k with
  | .characters => (Table.ofText format name text).map .characters
  | .macros => (Table.ofText format name text).map .macros

theorem name_definition (k : EntryKind) (name : String) (entries : Block) :
    (k.definition name entries).name = name := by
  cases k <;> rfl

/-- The entries are the third value of a definition. -/
theorem make?_kind (k : EntryKind) (name : String) (c : Content) :
    Definition.make? k.kind name c = c.toBlock?.map (k.definition name) := by
  cases k <;> rfl

theorem lastMember_kind (k : EntryKind) : Definition.lastMember k.kind = "entries" := by
  cases k <;> rfl

/-- Texts with the same block give the same map, whatever formats they are in. -/
theorem ofText_congr {k : EntryKind} {format format' : DocumentFormat} {name text text' : String}
    (h : Block.read format name text = Block.read format' name text') :
    k.ofText format name text = k.ofText format' name text' := by
  cases k <;> simp only [ofText, Table.ofText, h]

/-- What a text of entries gives is what a definition with its block gives. -/
theorem ofText_of_read [Pattern.SizeCheck] {k : EntryKind} {format : DocumentFormat}
    {name text : String} {b : Block} (h : Block.read format name text = .ok b) :
    k.ofText format name text = (k.definition name b).build := by
  cases k with
  | characters => simp only [ofText, Table.ofText, h, definition, Definition.build]
  | macros => simp only [ofText, Table.ofText, h, definition, Definition.build]

/-- A mapping of a kind, a name and entries is a definition if the entries are a block. -/
theorem ofContent?_item (k : EntryKind) (name : String) (c : Content) :
    Definition.ofContent? (.mapping (Definition.keyed
      [("kind", .text k.kind.name), ("name", .text name), ("entries", c)])) =
      c.toBlock?.map (k.definition name) := by
  rw [← k.lastMember_kind, Definition.ofContent?_members, k.make?_kind]

end EntryKind

/-! ## Loading one definition -/

namespace Document

/-- Loading gives the atlas of a single map, or fails because this map cannot be built. -/
def LoadsOnly [Pattern.SizeCheck] (d : Document) (name : String)
    (made : Except BuildError TokenMap) : Prop :=
  (∀ m, made = .ok m → ∃ a, d.load = .ok a ∧ a.maps = [m] ∧ a.get? name = some m) ∧
    ∀ e, made = .error e → d.load = .error (.build e)

/-- A document with one definition gives the map of that definition. -/
theorem load_of_definitions [Pattern.SizeCheck] {doc : Document} {d : Definition}
    (h : doc.definitions = .ok [d]) : doc.LoadsOnly d.name d.build := by
  have hbuild : build [d] = add .empty d := by
    rw [build, List.foldlM_cons]
    cases add .empty d <;> rfl
  refine ⟨fun m hm => ?_, fun e he => ?_⟩
  · -- There is no map before it, so its name is not repeated.
    obtain ⟨a, hadd, ha⟩ :=
      add_of_no_fault (d := d) holds_empty (by simp [Definition.faultAfter?, hm])
    have hmaps : a.maps = [m] := by
      have hbuilt : ([Except.ok m] : List (Except BuildError TokenMap)) = a.maps.map Except.ok := by
        simpa [Holds, hm] using ha
      cases hmaps : a.maps with
      | nil => simp [hmaps] at hbuilt
      | cons m' rest =>
        rw [hmaps, List.map_cons, List.cons.injEq, Except.ok.injEq, List.nil_eq,
          List.map_eq_nil_iff] at hbuilt
        rw [hbuilt.1, hbuilt.2]
    have hload : doc.load = .ok a := by simp only [load, h, hbuild, hadd]
    refine ⟨a, hload, hmaps, ?_⟩
    rw [← Definition.name_of_build hm]
    exact Atlas.get?_eq_some_of_mem (by rw [hmaps]; exact List.mem_singleton_self m)
  · have hadd : add .empty d = .error e :=
      add_of_fault holds_empty (by simp only [Definition.faultAfter?, he])
    simp only [load, h, hbuild, hadd]

/-- A document with one item that is a mapping of a kind, a name and entries has one definition. -/
theorem definitions_of_item {doc : Document} {k : EntryKind} {name : String} {c : Content}
    (h : doc.items? = some [.mapping (Definition.keyed
      [("kind", .text k.kind.name), ("name", .text name), ("entries", c)])]) :
    doc.definitions = match c.toBlock? with
      | some b => .ok [k.definition name b]
      | none => .error .unreadable := by
  rw [definitions, h]
  simp only [Option.bind_some, List.mapM_cons, List.mapM_nil, k.ofContent?_item]
  cases c.toBlock? <;> rfl

end Document

/-! ## Entries in JSON -/

namespace EntryKind

/-- A document whose only definition is that of a map with entries. -/
def document (k : EntryKind) (name : String) (entries : List (String × Written)) : Written :=
  .object [("maps", .array [.object [("kind", .string k.kind.name), ("name", .string name),
    ("entries", .object entries)]])]

/-- A text of such a document, in which a given text of the entries stands as it is. -/
def documentText (k : EntryKind) (name entries : String) : String :=
  .ofList ("\x7b\"maps\":[\x7b\"kind\":\"".toList ++ k.kind.name.toList ++ "\",\"name\":".toList ++
    renderString name ++ ",\"entries\":".toList ++ entries.toList ++ "\x7d]\x7d".toList)

/-- The text in which the entries stand as they are written is a text of the document. -/
theorem textOf_documentText (k : EntryKind) (name : String) {members : List (String × Written)}
    {entries : String} (h : TextOf (.object members) entries) :
    TextOf (k.document name members) (k.documentText name entries) := by
  obtain ⟨b, t, b', hb, ht, hb', hentries⟩ : ∃ b t b', Blank b ∧ Renders (.object members) t ∧
      Blank b' ∧ entries.toList = b ++ (t ++ b') := by
    cases h with
    | mk hb ht hb' => exact ⟨_, _, _, hb, ht, hb', String.toList_ofList⟩
  have hmember {key : String} {w : Written} {b' t : List Char}
      (hkey : ∀ c ∈ key.toList, 0x20 ≤ c.toNat ∧ c ≠ '"' ∧ c ≠ '\\') (hb' : Blank b')
      (hw : Renders w t) : MemberText Renders (key, w) _ :=
    .mk (Document.spells_self hkey) blank_nil hb' hw
  -- From the inside: the strings, the definition, and the document around it.
  have hkind : Renders (.string k.kind.name) ('"' :: (k.kind.name.toList ++ ['"'])) :=
    .string (Document.spells_self (by cases k <;> simp [kind, MapKind.name]))
  have hname : Renders (.string name) (renderString name) :=
    .string (spells_renderString name.toList)
  have hitem : Renders (.object [("kind", .string k.kind.name), ("name", .string name),
      ("entries", .object members)]) _ :=
    .object (.cons blank_nil (hmember (by simp) blank_nil hkind) blank_nil
      (.cons blank_nil (hmember (by simp) blank_nil hname) blank_nil
        (.one blank_nil (hmember (by simp) hb ht) hb')))
  have hdocument : Renders (k.document name members) _ :=
    .object (.one blank_nil (hmember (by simp) blank_nil
      (.array (.one blank_nil hitem blank_nil))) blank_nil)
  have htext := TextOf.mk blank_nil hdocument blank_nil
  refine Eq.subst (congrArg String.ofList ?_) htext
  simp [hentries]

/-- The array with the only definition nests two levels deeper than the entries. -/
theorem depth_definitions (k : EntryKind) (name : String) (members : List (String × Written)) :
    (Written.array [.object [("kind", .string k.kind.name), ("name", .string name),
      ("entries", .object members)]]).depth = (Written.object members).depth + 2 := by
  simp [depth, depthOfItems, depthOfMembers]

/-- The only item of such a document has the content of the entries for its third value. -/
theorem items?_document {k : EntryKind} {name text : String} {members : List (String × Written)}
    {j : Json} (h : TextOf (k.document name members) text)
    (hdepth : (Written.object members).depth ≤ 124) (hj : (Written.object members).json? = some j) :
    (Document.mk .json text).items? = some [.mapping (Definition.keyed [("kind", .text k.kind.name),
      ("name", .text name), ("entries", Content.ofJson j)])] := by
  let item : Written := .object [("kind", .string k.kind.name), ("name", .string name),
    ("entries", .object members)]
  have hvalues : valuesOf "maps" [("maps", Written.array [item])] = [.array [item]] := rfl
  -- With two levels around them, the entries still nest within what the reader allows.
  have hwithin : (Written.array [item]).jsonWithin? (maxDepth - 1) =
      (Written.array [item]).json? := by
    refine jsonWithin?_of_le ?_
    rw [depth_definitions, maxDepth]
    omega
  have hjson : (Written.array [item]).json? = some (.array [.object
      [("kind", .string k.kind.name), ("name", .string name), ("entries", j)]]) := by
    rw [json?] at hj
    simp [item, json?, Written.jsonItems?, jsonMembers?, hj]
  exact (Document.jsonItems?_textOf h).2 ⟨_, _, hvalues, hwithin.trans hjson, rfl⟩

/-- The entries of a table may stand in a document or be read directly, with the same result.

Every text of entries that is accepted is a text of an object.  Where it nests at most 124 levels, a
document with just this definition gives an atlas with just the table that the text of the entries
gives directly, and the error of the entries if there is one.  The entries may stand in the document
as they are, or in any other layout of the same object. -/
theorem load_json_entries [Pattern.SizeCheck] (k : EntryKind) (name : String) {entries : String}
    {b : Block} (h : Block.read .json name entries = .ok b) :
    (∃ members, TextOf (.object members) entries) ∧
    ∀ members, TextOf (.object members) entries → (Written.object members).depth ≤ 124 →
      TextOf (k.document name members) (k.documentText name entries) ∧
      ∀ text, TextOf (k.document name members) text →
        (Document.mk .json text).LoadsOnly name (k.ofText .json name entries) := by
  have hread : Block.ofJson? entries = some b := read_json_eq_ok_iff.1 h
  constructor
  · obtain ⟨members, hmembers, -⟩ := textOf_of_ofJson? hread
    exact ⟨members, hmembers⟩
  intro members hmembers hdepth
  refine ⟨k.textOf_documentText name hmembers, fun text htext => ?_⟩
  -- Both ways go through the same value `j` of the entries.
  have hwithin : (Written.object members).depth ≤ maxDepth := by rw [maxDepth]; omega
  rw [Block.ofJson?, read?_textOf hmembers hwithin] at hread
  obtain ⟨j, hj, hb⟩ := Option.bind_eq_some_iff.1 hread
  have hcontent : (Content.ofJson j).toBlock? = some b := (Content.toBlock?_ofJson hj).trans hb
  have hdefinitions : (Document.mk .json text).definitions = .ok [k.definition name b] := by
    rw [Document.definitions_of_item (k := k) (items?_document htext hdepth hj), hcontent]
  have hload := Document.load_of_definitions hdefinitions
  rw [k.name_definition] at hload
  rw [ofText_of_read h]
  exact hload

/-- A name that is repeated, a negative zero and an integer that is rounded. -/
theorem load_json_entries_repeated_name :
    ∃ m, EntryKind.macros.ofText .json "m"
        "\x7b\"k\":[],\"k\":[\"H\",-0,18446744073709551616]\x7d" = .ok m ∧
      ∃ a, (Document.mk .json (EntryKind.macros.documentText "m"
        "\x7b\"k\":[],\"k\":[\"H\",-0,18446744073709551616]\x7d")).load = .ok a ∧ a.maps = [m] := by
  let entries := "\x7b\"k\":[],\"k\":[\"H\",-0,18446744073709551616]\x7d"
  let zero : Numeral := ⟨true, [0], none, none⟩
  let wide : Numeral :=
    ⟨false, [1, 8, 4, 4, 6, 7, 4, 4, 0, 7, 3, 7, 0, 9, 5, 5, 1, 6, 1, 6], none, none⟩
  let members : List (String × Written) :=
    [("k", .array []), ("k", .array [.string "H", .numeral zero, .numeral wide])]
  have hzero : Renders (.numeral zero) "-0".toList := .numeral (.mk .zero .absent .absent)
  have hwide : Renders (.numeral wide) "18446744073709551616".toList :=
    .numeral (.mk (.digits (by decide) ⟨by decide, by decide⟩) .absent .absent)
  have hspells : Spells "H".toList ['H'] := .plain (by decide) (by decide) (by decide) .nil
  have hkey : Spells "k".toList ['k'] := .plain (by decide) (by decide) (by decide) .nil
  have harray : Renders (.array [.string "H", .numeral zero, .numeral wide])
      "[\"H\",-0,18446744073709551616]".toList :=
    .array (.cons blank_nil (.string hspells) blank_nil
      (.cons blank_nil hzero blank_nil (.one blank_nil hwide blank_nil)))
  have htext : TextOf (.object members) entries :=
    .mk blank_nil (.object (.cons blank_nil (.mk hkey blank_nil blank_nil (.emptyArray blank_nil))
      blank_nil (.one blank_nil (.mk hkey blank_nil blank_nil harray) blank_nil))) blank_nil
  have hread : (Block.read .json "m" entries).toOption.isSome = true := by decide +kernel
  have hmade : (EntryKind.macros.ofText .json "m" entries).toOption.isSome = true := by
    decide +kernel
  obtain ⟨b, hb⟩ : ∃ b, Block.read .json "m" entries = .ok b := by
    cases h : Block.read .json "m" entries with
    | ok b => exact ⟨b, rfl⟩
    | error => rw [h] at hread; exact nomatch hread
  obtain ⟨m, hm⟩ : ∃ m, EntryKind.macros.ofText .json "m" entries = .ok m := by
    cases h : EntryKind.macros.ofText .json "m" entries with
    | ok m => exact ⟨m, rfl⟩
    | error => rw [h] at hmade; exact nomatch hmade
  obtain ⟨hdocument, hloads⟩ := (load_json_entries .macros "m" hb).2 members htext (by decide)
  obtain ⟨a, hload, hmaps, -⟩ := (hloads _ hdocument).1 m hm
  exact ⟨m, hm, a, hload, hmaps⟩

end EntryKind

end TokenAtlas
