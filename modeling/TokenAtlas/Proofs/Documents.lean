import TokenAtlas.Document
import TokenAtlas.Proofs.Contents
import TokenAtlas.Proofs.Json.Blocks
import TokenAtlas.Proofs.Json.Printing
import TokenAtlas.Proofs.Json.Skipping

/-!
# Definitions in JSON documents

A document in JSON says which definitions it holds, however it is laid out.  `WritesDefinition` says
what the ways to write a definition are: as an object with the three members anywhere among others,
or as an array of the three values.  A document that holds such texts in the array of its only
member `maps` is read as those definitions, and whatever its other members are does not matter.  An
object that gives one of the three members more than once makes the document unreadable.

## Key results

- `Document.jsonItems?_textOf`: the items of a document are those of its only member `maps`
- `ofContent?_of_writes`, `ofContent?_of_repeats`: what the text of one definition is read as
- `definitions_of_text`: what definitions a document holds
-/

namespace TokenAtlas

open Json

/-! ## Contents of objects -/

namespace Json.Written

/-- What a text is the content of, unless a numeral in it stands for nothing. -/
def content? (w : Written) : Option Content := w.json?.map Content.ofJson

/-- The content of an object has the contents of its members. -/
theorem exists_keyed_of_json? {members : List (String × Written)} {j : Json}
    (h : (Written.object members).json? = some j) :
    ∃ contents, Content.ofJson j = .mapping (Definition.keyed contents) ∧
      members.mapM (fun m => (content? m.2).map (m.1, ·)) = some contents := by
  obtain ⟨ms, hms, rfl⟩ := Option.map_eq_some_iff.1 h
  refine ⟨ms.map fun m => (m.1, Content.ofJson m.2), ?_, ?_⟩
  · rw [Content.ofJson, Content.ofMembers_eq_keyed]
  · rw [jsonMembers?_eq_mapM] at hms
    have hmember : (fun m : String × Written => (content? m.2).map (m.1, ·)) =
        fun m => (jsonMember? m).map fun m => (m.1, Content.ofJson m.2) := by
      funext m
      simp only [content?, jsonMember?, Option.map_map]
      rfl
    rw [hmember]
    exact mapM_map_of_mapM _ hms

end Json.Written

/-! ## Texts of definitions -/

namespace Definition

open Written

/-- A text of the third value of a definition: a string for a pattern, and else an object that has
    under every name the entry that is written last there. -/
inductive WritesLast : Definition → Written → Prop
  | pattern {name pattern : String} : WritesLast (.patterns name pattern) (.string pattern)
  | characters {name : String} {entries : Block} {members : List (String × Written)}
      (h : ∀ key, entries.get? key = (lastValue? key members).map resolve) :
      WritesLast (.characters name entries) (.object members)
  | macros {name : String} {entries : Block} {members : List (String × Written)}
      (h : ∀ key, entries.get? key = (lastValue? key members).map resolve) :
      WritesLast (.macros name entries) (.object members)

/-- A text of a definition: an object with the three members in any order and any further ones with
    other names, or an array of the three values. -/
inductive WritesDefinition (d : Definition) : Written → Prop
  | object {last : Written} {members further : List (String × Written)} (hlast : WritesLast d last)
      (hfurther : ∀ m ∈ further, m.1 ≠ "kind" ∧ m.1 ≠ "name" ∧ m.1 ≠ lastMember d.kind)
      (h : members.Perm (("kind", .string d.kind.name) :: ("name", .string d.name) ::
        (lastMember d.kind, last) :: further)) : WritesDefinition d (.object members)
  | array {last : Written} (hlast : WritesLast d last) :
      WritesDefinition d (.array [.string d.kind.name, .string d.name, last])

/-- An object that gives the kind, the name or the third value of a definition more than once. -/
def Repeats (members : List (String × Written)) : Prop :=
  2 ≤ (valuesOf "kind" members).length ∨ 2 ≤ (valuesOf "name" members).length ∨
    ∃ k : MapKind, ("kind", .string k.name) ∈ members ∧
      2 ≤ (valuesOf (lastMember k) members).length

/-- Only a text of a string has a text as its content. -/
theorem content?_eq_text_iff {w : Written} {s : String} :
    w.content? = some (.text s) ↔ w = .string s := by
  cases w <;> simp [content?, json?, Content.ofJson, Option.map_map]

/-- The third value is read as it is written. -/
theorem make?_of_writesLast {d : Definition} {last : Written} {j : Json} (h : WritesLast d last)
    (hi : last.IntegersWithin (-2 ^ 63) (2 ^ 64 - 1)) (hj : last.json? = some j) :
    make? d.kind d.name (Content.ofJson j) = some d := by
  -- Both kinds of tables have their entries from the object, where the last value of a name counts.
  have hblock {entries : Block} {members : List (String × Written)}
      (h : ∀ key, entries.get? key = (lastValue? key members).map resolve)
      (hi : (Written.object members).IntegersWithin (-2 ^ 63) (2 ^ 64 - 1))
      (hj : (Written.object members).json? = some j) :
      (Content.ofJson j).toBlock? = some entries := by
    obtain ⟨b, hb, hget⟩ := toBlock?_object hj
    rw [Content.toBlock?_ofJson hj, hb]
    refine congrArg some (Fields.ext_get? fun key => ?_)
    rw [hget, h]
    cases hlast : lastValue? key members with
    | none => rfl
    | some w =>
      exact value?_of_integers (membersWithin_iff.1 hi (key, w) (mem_of_lastValue? hlast))
  cases h with
  | pattern =>
    obtain rfl := Option.some.inj hj
    rfl
  | characters h => simp only [kind, make?, hblock h hi hj, Option.map_some, name]
  | macros h => simp only [kind, make?, hblock h hi hj, Option.map_some, name]

/-- A text of a definition is read as the definition. -/
theorem ofContent?_of_writes {d : Definition} {w : Written} {j : Json} (h : WritesDefinition d w)
    (hi : w.IntegersWithin (-2 ^ 63) (2 ^ 64 - 1)) (hj : w.json? = some j) :
    ofContent? (Content.ofJson j) = some d := by
  cases h with
  | @object last members further hlast hfurther hperm =>
    obtain ⟨contents, hcontent, hmembers⟩ := exists_keyed_of_json? hj
    -- Members may be read before the values under a name are chosen, or after.
    have hvalues {key : String} {w : Written} (hw : valuesOf key members = [w]) :
        ∃ c, w.content? = some c ∧ valuesOf key contents = [c] := by
      have hmap : (valuesOf key members).mapM content? = some (valuesOf key contents) :=
        valuesOf_mapM hmembers
      rw [hw, List.mapM_cons, List.mapM_nil] at hmap
      obtain ⟨c, hc, hcontents⟩ := Option.bind_eq_some_iff.1 hmap
      exact ⟨c, hc, (Option.some.inj hcontents).symm⟩
    obtain ⟨hkind, hname, hthird⟩ := valuesOf_of_perm hperm hfurther
    obtain ⟨_, hc, hkind'⟩ := hvalues hkind
    obtain rfl := Option.some.inj hc
    obtain ⟨_, hc, hname'⟩ := hvalues hname
    obtain rfl := Option.some.inj hc
    obtain ⟨_, hc, hthird'⟩ := hvalues hthird
    obtain ⟨lastJson, hlastJson, rfl⟩ := Option.map_eq_some_iff.1 hc
    have hmem : (lastMember d.kind, last) ∈ members := hperm.mem_iff.2 (by simp)
    rw [hcontent]
    exact ofContent?_mapping.2 ⟨d.kind, d.name, _, hkind', hname', hthird',
      make?_of_writesLast hlast (membersWithin_iff.1 hi _ hmem) hlastJson⟩
  | @array last hlast =>
    simp only [json?, jsonItems?, Option.bind_eq_bind, Option.bind_some, Option.map_eq_some_iff,
      Option.bind_eq_some_iff, Option.some.injEq] at hj
    obtain ⟨_, ⟨_, ⟨_, ⟨lastJson, hlastJson, rfl⟩, rfl⟩, rfl⟩, rfl⟩ := hj
    exact ofContent?_list.2 ⟨d.kind, d.name, _, rfl, make?_of_writesLast hlast hi.2.2.1 hlastJson⟩

/-- An object that repeats a member is no definition. -/
theorem ofContent?_of_repeats {members : List (String × Written)} {j : Json} (h : Repeats members)
    (hj : (Written.object members).json? = some j) : ofContent? (Content.ofJson j) = none := by
  obtain ⟨contents, hcontent, hmembers⟩ := exists_keyed_of_json? hj
  have hvalues {key : String} {c : Content} (hc : valuesOf key contents = [c]) :
      ∃ w, valuesOf key members = [w] ∧ w.content? = some c :=
    mapM_eq_singleton_iff.1 (hc ▸ valuesOf_mapM hmembers)
  rw [hcontent]
  refine Option.eq_none_iff_forall_ne_some.2 fun d hd => ?_
  obtain ⟨k, name, last, hkind, hname, hlast, -⟩ := ofContent?_mapping.1 hd
  obtain ⟨word, hword, htext⟩ := hvalues hkind
  -- A definition has each of the three members once, which every kind of repetition contradicts.
  rcases h with h | h | ⟨k', hk', h⟩
  · simp [hword] at h
  · obtain ⟨w, hw, -⟩ := hvalues hname
    simp [hw] at h
  · have hmem := mem_valuesOf hk'
    rw [hword, List.mem_singleton, content?_eq_text_iff.1 htext, Written.string.injEq] at hmem
    obtain rfl := eq_of_kindName hmem
    obtain ⟨w, hw, -⟩ := hvalues hlast
    simp [hw] at h

end Definition

/-! ## Documents -/

namespace Document

open Definition Written

/-- A document whose members are those of an object: `maps` is one of them, an array of texts of
    definitions, and no other has this name. -/
def WritesDefinitions (ds : List Definition) (members : List (String × Written)) : Prop :=
  ∃ items further, members.Perm (("maps", .array items) :: further) ∧
    (∀ m ∈ further, m.1 ≠ "maps") ∧ List.Forall₂ WritesDefinition ds items

/-- What is read of a member of a document. -/
def candidate? (m : String × Written) : Option (Option Json) :=
  if m.1 = "maps" then (m.2.jsonWithin? (maxDepth - 1)).map some else some none

/-- Only the members `maps` are read; the others are passed over. -/
private theorem readJsonMember_memberText {m : String × Written} {t rest : List Char}
    (h : MemberText Renders m t) (hr : Delimited rest) :
    readJsonMember (t ++ rest) = (candidate? m).map (·, rest) := by
  cases h with
  | @mk name w n b b' t hn hb hb' hw =>
    have hread : readValue (maxDepth - 1) (t ++ rest) = _ := readValue_eq_jsonWithin? hw hr
    have hskip : skipValue (t ++ rest).length (t ++ rest) = some ((), rest) :=
      skipValue_renders hw (by simp) hr
    obtain ⟨c, r, rfl, hc, -⟩ := renders_starts hw
    have hname := readName?_spells (t := c :: r) hn hb hb' rest
    simp only [List.cons_append, List.append_assoc, skipBlanks_cons hc] at hread hskip hname ⊢
    rw [readJsonMember, hname]
    by_cases hmaps : name = "maps"
    · -- The value is read one level below the root.
      subst hmaps
      simp only [hread, candidate?, if_true, Option.map_map]
      rfl
    · simp only [hskip, candidate?, if_neg hmaps, Option.map_some]

/-- The candidates for the array of maps are the values of the members `maps`. -/
theorem mapM_candidate? (members : List (String × Written)) :
    (members.mapM candidate?).map (List.filterMap id) =
      (valuesOf "maps" members).mapM (jsonWithin? (maxDepth - 1)) := by
  induction members with
  | nil => rfl
  | cons m rest ih =>
    rw [List.mapM_cons, valuesOf_cons]
    by_cases hmaps : m.1 = "maps"
    · rw [candidate?, if_pos hmaps, if_pos hmaps, List.mapM_cons, ← ih]
      cases m.2.jsonWithin? (maxDepth - 1) with
      | none => rfl
      | some j => cases rest.mapM candidate? <;> rfl
    · rw [candidate?, if_neg hmaps, if_neg hmaps, ← ih]
      cases rest.mapM candidate? <;> rfl

/-- The root of a document is read up to its end. -/
private theorem readJsonRoot_renders {members : List (String × Written)} {t rest : List Char}
    (h : Renders (.object members) t) :
    readJsonRoot (t ++ rest) =
      ((valuesOf "maps" members).mapM (jsonWithin? (maxDepth - 1))).map (·, rest) := by
  cases h with
  | emptyObject hb =>
    simp only [List.cons_append, List.append_assoc, List.nil_append, readJsonRoot,
      readSequence_blank hb closes_object]
    rfl
  | @object _ t h =>
    have hread : readSequence readJsonMember '\x7d' (t ++ '\x7d' :: rest) =
        (members.mapM candidate?).map (·, rest) :=
      readSequence_separated h (fun _ _ => memberText_starts) closes_object
        (fun m _ t rest => readJsonMember_memberText) rest
    simp only [List.cons_append, List.append_assoc, List.nil_append, readJsonRoot, hread,
      ← mapM_candidate?, Option.map_map]
    rfl

/-- A document has items if it has just one member `maps` and that is an array that does not nest
    too deep. -/
theorem jsonItems?_textOf {members : List (String × Written)} {text : String}
    {contents : List Content} (h : TextOf (.object members) text) :
    jsonItems? text = some contents ↔ ∃ w js, valuesOf "maps" members = [w] ∧
      w.jsonWithin? (maxDepth - 1) = some (.array js) ∧ contents = Content.ofItems js := by
  have hread : readWhole? readJsonRoot text =
      (valuesOf "maps" members).mapM (jsonWithin? (maxDepth - 1)) := by
    cases h with
    | mk hb hw hb' => exact readWhole?_renders hb hw hb' (readJsonRoot_renders hw)
  rw [jsonItems?, hread]
  -- There are items just where one value was read and that is an array.
  constructor
  · intro h
    split at h
    · rename_i js hjs
      obtain ⟨w, hw, hj⟩ := mapM_eq_singleton_iff.1 hjs
      exact ⟨w, js, hw, hj, (Option.some.inj h).symm⟩
    · cases h
  · rintro ⟨w, js, hw, hj, rfl⟩
    rw [mapM_eq_singleton_iff.2 ⟨w, hw, hj⟩]

/-- The items of a document that holds definitions are read as the definitions. -/
theorem mapM_ofContent?_of_writes {ds : List Definition} {items : List Written} {js : List Json}
    (h : List.Forall₂ WritesDefinition ds items)
    (hi : ItemsWithin (-2 ^ 63) (2 ^ 64 - 1) items) (hjs : items.mapM json? = some js) :
    (Content.ofItems js).mapM ofContent? = some ds := by
  induction h generalizing js with
  | nil =>
    obtain rfl : [] = js := Option.some.inj hjs
    rfl
  | cons hd hds ih =>
    simp only [List.mapM_cons, Option.bind_eq_bind, Option.bind_eq_some_iff, Option.pure_def,
      Option.some.injEq] at hjs
    obtain ⟨j, hj, js', hrest, rfl⟩ := hjs
    simp [Content.ofItems, ofContent?_of_writes hd hi.1 hj, ih hi.2 hrest]

/-- A document is read as the definitions that it holds. -/
theorem definitions_of_writes {ds : List Definition} {members : List (String × Written)}
    {text : String} (htext : TextOf (.object members) text)
    (hi : (Written.object members).IntegersWithin (-2 ^ 63) (2 ^ 64 - 1))
    (hd : (Written.object members).depth ≤ maxDepth) (h : WritesDefinitions ds members) :
    definitions ⟨.json, text⟩ = .ok ds := by
  obtain ⟨items, further, hperm, hfurther, hds⟩ := h
  have hmem : ("maps", .array items) ∈ members := hperm.mem_iff.2 (by simp)
  have hvalues : valuesOf "maps" members = [.array items] := by
    simpa [valuesOf_cons, valuesOf_eq_nil hfurther] using valuesOf_perm "maps" hperm
  -- The array nests less deep than the document, and its integers are among those of the document.
  have hdepth : (Written.array items).depth ≤ maxDepth - 1 :=
    depthOfMembers_le_iff.1 (Nat.le_of_succ_le_succ hd) _ hmem
  have hinteger : (Written.array items).IntegersWithin (-2 ^ 63) (2 ^ 64 - 1) :=
    membersWithin_iff.1 hi _ hmem
  obtain ⟨_, hj, -⟩ := Option.map_eq_some_iff.1 (value?_of_integers hinteger)
  obtain ⟨js, hjs, rfl⟩ := Option.map_eq_some_iff.1 hj
  have hitems : jsonItems? text = some (Content.ofItems js) :=
    (jsonItems?_textOf htext).2 ⟨_, js, hvalues, (jsonWithin?_of_le hdepth).trans hj, rfl⟩
  rw [jsonItems?_eq_mapM] at hjs
  simp only [definitions, items?, hitems, Option.bind_some,
    mapM_ofContent?_of_writes hds hinteger hjs]

/-- A document with an item that repeats a member cannot be read. -/
theorem definitions_of_repeats {members ms : List (String × Written)} {items : List Written}
    {text : String} (htext : TextOf (.object members) text)
    (hmem : ("maps", .array items) ∈ members) (hitem : .object ms ∈ items) (h : Repeats ms) :
    definitions ⟨.json, text⟩ = .error .unreadable := by
  have hnone : (jsonItems? text).bind (·.mapM ofContent?) = none := by
    refine Option.eq_none_iff_forall_ne_some.2 fun ds hds => ?_
    obtain ⟨contents, hcontents, hmapM⟩ := Option.bind_eq_some_iff.1 hds
    obtain ⟨w, js, hw, hj, rfl⟩ := (jsonItems?_textOf htext).1 hcontents
    -- There is only one member `maps`, so its items are those that were read.
    have hmaps := mem_valuesOf hmem
    rw [hw, List.mem_singleton] at hmaps
    subst hmaps
    have hjson : (Written.array items).json? = some (.array js) := by
      rw [jsonWithin?] at hj
      split at hj
      · exact hj
      · cases hj
    obtain ⟨js', hjs, heq⟩ := Option.map_eq_some_iff.1 hjson
    obtain rfl : js' = js := Json.array.inj heq
    rw [jsonItems?_eq_mapM] at hjs
    obtain ⟨j, hjmem, hj⟩ := exists_of_mapM hjs hitem
    rw [Content.ofItems_eq_map] at hmapM
    obtain ⟨d, -, hd⟩ := exists_of_mapM hmapM (List.mem_map_of_mem hjmem)
    cases (ofContent?_of_repeats h hj).symm.trans hd
  simp only [definitions, items?, hnone]

/-- What definitions a document in JSON holds.

* Where its only member `maps` is an array of texts of definitions, it is read as these definitions,
  in their order.  The objects among these texts may have their members in any order, with others
  between them that do not count, and so may the document.
* Where an object in an array `maps` repeats one of the members of a definition, the document cannot
  be read. -/
theorem definitions_of_text {members : List (String × Written)} {text : String}
    (htext : TextOf (.object members) text) :
    (∀ ds, (Written.object members).IntegersWithin (-2 ^ 63) (2 ^ 64 - 1) →
      (Written.object members).depth ≤ 127 → WritesDefinitions ds members →
      definitions ⟨.json, text⟩ = .ok ds) ∧
    (∀ items ms, ("maps", .array items) ∈ members → .object ms ∈ items → Repeats ms →
      definitions ⟨.json, text⟩ = .error .unreadable) :=
  ⟨fun _ hi hd h => definitions_of_writes htext hi hd h,
    fun _ _ hmem hitem h => definitions_of_repeats htext hmem hitem h⟩

/-- Characters that need not be escaped spell themselves. -/
theorem spells_self {cs : List Char}
    (h : ∀ c ∈ cs, 0x20 ≤ c.toNat ∧ c ≠ '"' ∧ c ≠ '\\') : Spells cs cs := by
  induction cs with
  | nil => exact .nil
  | cons c cs ih =>
    obtain ⟨⟨hc, hq, hb⟩, hcs⟩ := List.forall_mem_cons.1 h
    exact .plain hc hq hb (ih hcs)

/-- The kind after the members that it governs, members that do not count, and the short form; and a
    name that is repeated. -/
theorem definitions_of_text_kind_last :
    definitions ⟨.json, "\x7b\"x\":null,\"maps\":[\x7b\"y\":[],\"entries\":\x7b\"k\":\"H\"\x7d," ++
        "\"name\":\"m\",\"kind\":\"macro\"\x7d,[\"pattern\",\"p\",\"a+\"]]\x7d"⟩ =
        .ok [.macros "m" (.ofList [("k", .string "H")]), .patterns "p" "a+"] ∧
    definitions ⟨.json, "\x7b\"maps\":[\x7b\"name\":\"m\",\"name\":\"m\"\x7d]\x7d"⟩ =
      .error .unreadable := by
  have hstring {s : String} (h : ∀ c ∈ s.toList, 0x20 ≤ c.toNat ∧ c ≠ '"' ∧ c ≠ '\\') :
      Renders (.string s) ('"' :: (s.toList ++ ['"'])) := .string (spells_self h)
  have hmember {name : String} {w : Written} {t : List Char}
      (h : ∀ c ∈ name.toList, 0x20 ≤ c.toNat ∧ c ≠ '"' ∧ c ≠ '\\') (hw : Renders w t) :
      MemberText Renders (name, w) _ := .mk (spells_self h) blank_nil blank_nil hw
  constructor
  · let block : List (String × Written) := [("k", .string "H")]
    let first : List (String × Written) := [("y", .array []), ("entries", .object block),
      ("name", .string "m"), ("kind", .string "macro")]
    let second : List Written := [.string "pattern", .string "p", .string "a+"]
    let members : List (String × Written) :=
      [("x", .null), ("maps", .array [.object first, .array second])]
    have hblock : Renders (.object block) "\x7b\"k\":\"H\"\x7d".toList :=
      .object (.one blank_nil (hmember (by simp) (hstring (by simp))) blank_nil)
    have hfirst : Renders (.object first) ("\x7b\"y\":[],\"entries\":\x7b\"k\":\"H\"\x7d," ++
        "\"name\":\"m\",\"kind\":\"macro\"\x7d").toList :=
      .object (.cons blank_nil (hmember (by simp) (.emptyArray blank_nil)) blank_nil
        (.cons blank_nil (hmember (by simp) hblock) blank_nil
          (.cons blank_nil (hmember (by simp) (hstring (by simp))) blank_nil
            (.one blank_nil (hmember (by simp) (hstring (by simp))) blank_nil))))
    have hsecond : Renders (.array second) "[\"pattern\",\"p\",\"a+\"]".toList :=
      .array (.cons blank_nil (hstring (by simp)) blank_nil
        (.cons blank_nil (hstring (by simp)) blank_nil
          (.one blank_nil (hstring (by simp)) blank_nil)))
    have hmaps : MemberText Renders ("maps", .array [.object first, .array second]) _ :=
      hmember (by simp)
        (.array (.cons blank_nil hfirst blank_nil (.one blank_nil hsecond blank_nil)))
    have hother : MemberText Renders ("x", .null) _ := hmember (by simp) .null
    have htext : TextOf (.object members) _ :=
      .mk blank_nil (.object (.cons blank_nil hother blank_nil (.one blank_nil hmaps blank_nil)))
        blank_nil
    have hget (key : String) : (Fields.ofList [("k", Json.string "H")]).get? key =
        (lastValue? key block).map resolve :=
      (Fields.get?_ofList key _).trans (lastValue?_map key resolve block)
    have hwrites : List.Forall₂ WritesDefinition
        [.macros "m" (.ofList [("k", .string "H")]), .patterns "p" "a+"]
        [.object first, .array second] :=
      .cons (@WritesDefinition.object _ _ _ [("y", .array [])] (.macros hget)
        (by simp [lastMember, Definition.kind]) (List.reverse_perm [_, _, _, _]))
        (.cons (.array .pattern) .nil)
    have hintegers : (Written.object members).IntegersWithin (-2 ^ 63) (2 ^ 64 - 1) := by
      simp [members, first, second, block, IntegersWithin, MembersWithin, ItemsWithin]
    exact (definitions_of_text htext).1 _ hintegers (by decide)
      ⟨_, [("x", .null)], .swap _ _ _, by simp, hwrites⟩
  · let item : List (String × Written) := [("name", .string "m"), ("name", .string "m")]
    have hname : MemberText Renders ("name", .string "m") _ :=
      hmember (by simp) (hstring (by simp))
    have hitem : Renders (.object item) _ :=
      .object (.cons blank_nil hname blank_nil (.one blank_nil hname blank_nil))
    have hmaps : MemberText Renders ("maps", .array [.object item]) _ :=
      hmember (by simp) (.array (.one blank_nil hitem blank_nil))
    have htext : TextOf (.object [("maps", .array [.object item])]) _ :=
      .mk blank_nil (.object (.one blank_nil hmaps blank_nil)) blank_nil
    exact (definitions_of_text htext).2 [.object item] item (by simp) (by simp)
      (.inr (.inl (by decide)))

end Document

end TokenAtlas
