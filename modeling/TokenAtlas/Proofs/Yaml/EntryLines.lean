import TokenAtlas.Proofs.SettingLists
import TokenAtlas.Proofs.Settings
import TokenAtlas.Proofs.Yaml.BlockReader
import TokenAtlas.Proofs.Yaml.DefinitionNodes
import TokenAtlas.Proofs.Yaml.KeyReadings

/-!
# Entries on lines of their own

A block may give every entry a line: a control sequence, a colon and a word, all written plain.  A
backslash means nothing in a plain scalar, so a control sequence stands for itself as a key, also
where keys are contents like any other; and so does a word of letters unless it is one of those for
null and the truth values.  For macros the lines say just what a list of settings says.

## Key results

- `Outside.entryLines`, `readBlockMapping?_linesTokens`, `expand_linesNode`: the lines as a part of
  a text, for each of the three readers
- `Block.ofText?_entryLines`: the block that lines are as a text of their own
- `Table.ofBlock_linesBlock`: the table of macros that this block gives is the one of the settings
-/

namespace TokenAtlas

open Yaml TokenReader

/-! ## Lines -/

/-- A backslash and letters of ASCII. -/
def IsControlSequence (s : String) : Prop :=
  ∃ letters, s.toList = '\\' :: letters ∧ 1 ≤ letters.length ∧ letters.length ≤ 1000 ∧
    ∀ c ∈ letters, c.isAlpha = true

/-- A word of letters of ASCII that is none of those for null and the truth values. -/
structure IsTextWord (s : String) : Prop where
  ne_empty : s ≠ ""
  letters : ∀ c ∈ s.toList, c.isAlpha = true
  not_special : s ∉ ["null", "Null", "NULL", "true", "True", "TRUE", "false", "False", "FALSE"]

/-- A control sequence and a word on a line. -/
structure EntryLine where
  token : String
  word : String
  isControl : IsControlSequence token
  isWord : IsTextWord word

namespace IsControlSequence

variable {s : String}

theorem isLineWord (h : IsControlSequence s) : IsLineWord s.toList := by
  obtain ⟨letters, hs, -, -, hletters⟩ := h
  rw [hs]
  refine ⟨⟨List.cons_ne_nil _ _, List.forall_mem_cons.2 ⟨by decide, fun c hc => ?_⟩⟩, ?_⟩
  · exact isAlpha_bare (hletters c hc)
  · rintro c ⟨⟩
    decide

/-- A control sequence is short enough for a key. -/
theorem length_le (h : IsControlSequence s) : s.toList.length ≤ keyLimit := by
  obtain ⟨letters, hs, -, hlength, -⟩ := h
  rw [hs, List.length_cons, keyLimit]
  omega

/-- No word for null or a truth value begins with a backslash. -/
theorem plainContent?_eq (h : IsControlSequence s) : plainContent? s = some (.text s) := by
  obtain ⟨letters, hs, -⟩ := h
  refine plainContent?_of_leads hs (by decide) fun hmem => ?_
  have hhead : ∀ w ∈ ["~", "null", "Null", "NULL", "true", "True", "TRUE", "false", "False",
      "FALSE"], w.toList.head? ≠ some '\\' := by decide
  exact hhead s hmem (by rw [hs]; rfl)

end IsControlSequence

namespace IsTextWord

variable {s : String}

theorem isLineWord (h : IsTextWord s) : IsLineWord s.toList :=
  isLineWord_of_letters (fun hnil => h.ne_empty (String.toList_eq_nil_iff.1 hnil)) h.letters

theorem plainContent?_eq (h : IsTextWord s) : plainContent? s = some (.text s) := by
  obtain ⟨c, t, hs⟩ := List.exists_cons_of_ne_nil h.isLineWord.ne_nil
  have hletter : c.isAlpha = true := h.letters c (by rw [hs]; exact List.mem_cons_self)
  have hleads : leadsNumber c = false :=
    forall_bare (P := fun c => c.isAlpha = true → leadsNumber c = false) (by decide)
      (isAlpha_bare hletter) hletter
  have htilde : s ≠ "~" := by
    rintro rfl
    exact absurd (h.letters '~' (by decide)) (by decide)
  refine plainContent?_of_leads hs hleads fun hmem => ?_
  exact h.not_special ((List.mem_cons.1 hmem).resolve_left htilde)

end IsTextWord

namespace EntryLine

/-- The characters of a line, without its line break. -/
def text (l : EntryLine) : List Char := l.token.toList ++ ':' :: ' ' :: l.word.toList

/-- The tokens of a line. -/
def tokens (l : EntryLine) : List Token :=
  [.key, .scalar l.token true, .value, .scalar l.word true]

/-- The member of a mapping that a line is. -/
def node (l : EntryLine) : Node × Node := (wordNode l.token, wordNode l.word)

/-- The token with its word. -/
def pair (l : EntryLine) : String × String := (l.token, l.word)

end EntryLine

namespace Yaml

/-- Lines that are indented by `n` spaces. -/
def linesText (n : Nat) (lines : List EntryLine) : List Char :=
  lines.flatMap fun l => List.replicate n ' ' ++ (l.text ++ ['\n'])

/-- The tokens of lines. -/
def linesTokens (lines : List EntryLine) : List Token := lines.flatMap EntryLine.tokens

/-- The mapping that lines are. -/
def linesNode (lines : List EntryLine) : Node := .mapping none none (lines.map EntryLine.node)

/-- The content of this mapping. -/
def linesContent (lines : List EntryLine) : Content :=
  .mapping (lines.map fun l => (.text l.token, .text l.word))

/-- The block that lines stand for. -/
def linesBlock (lines : List EntryLine) : Block :=
  .ofList ((lines.map EntryLine.pair).map fun p => (p.1, .string p.2))

/-- The settings that say the same as lines. -/
def linesSettings (lines : List EntryLine) : List (String × MacroSetting) :=
  (lines.map EntryLine.pair).map fun p => (p.1, .shorthand p.2)

/-! ## From texts to tokens -/

namespace TokenReader

/-- Lines at one column are the members of a block mapping that the first of them opens, or that is
    open there.  What follows is indented no deeper. -/
theorem Outside.entryLines {blocks blocks' : Int × List Int} {st : TokenReader}
    {ts begun : List Token} {l : EntryLine} {lines : List EntryLine} {n m : Nat} {rest : List Char}
    (h : Outside blocks n st true ts
      (l.text ++ '\n' :: (linesText n lines ++ (List.replicate m ' ' ++ rest))))
    (hopens : Opens .blockMappingStart n blocks blocks' begun) (hm : m ≤ n)
    (hrest : BeginsToken rest) :
    ∃ st', Passes st st' ∧
      Outside blocks' m st' true ((linesTokens (l :: lines)).reverse ++ (begun ++ ts)) rest := by
  have hmember (l : EntryLine) (s : List Char) : l.text ++ '\n' :: s =
      l.token.toList ++ ':' :: ' ' :: (l.word.toList ++ '\n' :: s) := by
    simp [EntryLine.text]
  rw [hmember] at h
  induction lines generalizing l blocks st ts begun with
  | nil =>
    obtain ⟨st', hpass, h'⟩ := h.member l.isControl.isLineWord l.isControl.length_le
      l.isWord.isLineWord hopens hm hrest
    refine ⟨st', hpass, ?_⟩
    simpa [linesTokens, EntryLine.tokens] using h'
  | cons next lines ih =>
    have hnext : linesText n (next :: lines) ++ (List.replicate m ' ' ++ rest) =
        List.replicate n ' ' ++ (next.text ++ '\n' :: (linesText n lines ++
          (List.replicate m ' ' ++ rest))) := by
      simp [linesText]
    rw [hnext, hmember next] at h
    obtain ⟨st₁, hpass₁, h₁⟩ := h.member l.isControl.isLineWord l.isControl.length_le
      l.isWord.isLineWord hopens (Nat.le_refl n)
      (beginsToken_bare next.isControl.isLineWord.toIsBare _)
    -- The mapping is open now, so the other lines belong to it.
    have hlevel : Opens .blockMappingStart n blocks' blocks' [] := by
      obtain ⟨indent, indents⟩ := blocks'
      obtain rfl : indent = n := hopens.fst_eq
      exact .level indents
    obtain ⟨st', hpass', h'⟩ := ih h₁ hlevel
    refine ⟨st', hpass₁.trans hpass', ?_⟩
    simpa [linesTokens, EntryLine.tokens] using h'

end TokenReader

theorem isText_linesText (n : Nat) (lines : List EntryLine) :
    ∀ c ∈ linesText n lines, IsText c := by
  have hsigns : IsText ':' ∧ IsText ' ' ∧ IsText '\n' := by
    simp only [IsText, IsPrintable]
    decide
  obtain ⟨hcolon, hspace, hbreak⟩ := hsigns
  simp only [linesText, EntryLine.text, List.forall_mem_flatMap, List.forall_mem_append,
    List.forall_mem_cons]
  intro l _
  have htoken : ∀ c ∈ l.token.toList, IsText c := fun c hc =>
    .inl (l.isControl.isLineWord.printable c hc)
  have hword : ∀ c ∈ l.word.toList, IsText c := fun c hc =>
    .inl (l.isWord.isLineWord.printable c hc)
  exact ⟨fun c hc => isText_of_mem_spaces hc, ⟨htoken, hcolon, hspace, hword⟩, hbreak,
    List.forall_mem_nil _⟩

/-- The tokens of a text of lines. -/
theorem Token.ofText?_entryLines {lines : List EntryLine} (hne : lines ≠ []) :
    Token.ofText? (String.ofList (linesText 0 lines)) =
      some (.blockMappingStart :: (linesTokens lines ++ [.blockEnd])) := by
  obtain ⟨l, lines, rfl⟩ := List.exists_cons_of_ne_nil hne
  have hstart : Outside (-1, []) 0 (.start (linesText 0 (l :: lines))) true []
      (l.text ++ '\n' :: (linesText 0 lines ++ (List.replicate 0 ' ' ++ []))) :=
    ⟨rfl, rfl, rfl, rfl, rfl, rfl, by simp [start, linesText]⟩
  obtain ⟨st, hpass, hend⟩ := hstart.entryLines (.deeper [] (by decide)) (Nat.le_refl 0) nofun
  rw [ofText?_of_passes (isText_linesText 0 _) hpass hend]
  simp [closeBlocks]

/-! ## From tokens to nodes -/

section Nodes

variable {ns : Names} {fuel : Nat}

theorem length_linesTokens (lines : List EntryLine) :
    (linesTokens lines).length = 4 * lines.length := by
  induction lines with
  | nil => rfl
  | cons l lines ih =>
    rw [linesTokens, List.flatMap_cons, List.length_append, ← linesTokens, ih, List.length_cons]
    show 4 + 4 * lines.length = _
    omega

/-- The tokens of lines are read as their members, up to the end of the mapping. -/
theorem readBlockMapping?_linesTokens {lines : List EntryLine} (rest : List Token)
    (hfuel : lines.length + 1 < fuel) :
    Node.readBlockMapping? fuel ns (linesTokens lines ++ .blockEnd :: rest) =
      some (lines.map EntryLine.node, ns, rest) := by
  induction lines generalizing fuel with
  | nil =>
    obtain ⟨fuel, rfl⟩ := Nat.exists_eq_add_of_le' (Nat.le_of_lt hfuel)
    rfl
  | cons l lines ih =>
    obtain ⟨fuel, rfl⟩ : ∃ f, fuel = f + 2 := ⟨fuel - 2, by omega⟩
    have hrest : lines.length + 1 < fuel + 1 := by
      rw [List.length_cons] at hfuel
      omega
    have htokens : linesTokens (l :: lines) ++ .blockEnd :: rest = .key :: .scalar l.token true ::
        .value :: .scalar l.word true :: (linesTokens lines ++ .blockEnd :: rest) := rfl
    rw [htokens, Node.readBlockMapping?_member rfl]
    simp only [NodeReader.bind, NodeReader.map, Node.read?_scalar, Option.bind_some, ih hrest]
    rfl

/-- A text of lines is read as their mapping. -/
theorem readDocument?_linesTokens (lines : List EntryLine) :
    readDocument? (.blockMappingStart :: (linesTokens lines ++ [.blockEnd])) =
      some (some (linesNode lines)) := by
  obtain ⟨fuel, hfuel, hlimit⟩ : ∃ fuel, lines.length + 1 < fuel ∧
      callLimit (.blockMappingStart :: (linesTokens lines ++ [.blockEnd])) = fuel + 1 := by
    refine ⟨12 * lines.length + 8, by omega, ?_⟩
    simp only [callLimit, List.length_cons, List.length_append, List.length_nil,
      length_linesTokens]
    omega
  let ns : Names := { handles := [] ++ Names.defaultHandles }
  have hroot : Node.read? (callLimit (.blockMappingStart :: (linesTokens lines ++ [.blockEnd])))
      true false ns (.blockMappingStart :: (linesTokens lines ++ [.blockEnd])) =
        some (linesNode lines, ns, []) := by
    rw [hlimit, Node.read?_blockMapping, readBlockMapping?_linesTokens [] hfuel]
    rfl
  exact readDocument?_blockMapping hroot

end Nodes

/-! ## From nodes to the block -/

section Contents

variable {ts : Targets} {keys : KeyReading} {depth : Nat}

theorem expandMember_node (l : EntryLine) :
    expandMember ts keys depth l.node = pure (.text l.token, .text l.word) := by
  -- As a content the token is a text too, for it is no word for anything else.
  have hkey : expandKey ts keys depth (wordNode l.token) = pure (.text l.token) := by
    cases keys with
    | asText => rfl
    | asContent =>
      rw [expandKey, expand_wordNode, l.isControl.plainContent?_eq]
      rfl
  rw [expandMember, EntryLine.node, hkey, expand_wordNode, l.isWord.plainContent?_eq]
  rfl

/-- Keys and values stand for their own texts, whichever way keys are read. -/
theorem mapM_expandMember_node (lines : List EntryLine) :
    (lines.map EntryLine.node).mapM (expandMember ts keys depth) =
      pure (lines.map fun l => (.text l.token, .text l.word)) := by
  rw [List.mapM_map, ← List.mapM_pure]
  exact congrArg (lines.mapM ·) (funext expandMember_node)

theorem expand_linesNode (lines : List EntryLine) :
    expand ts keys (depth + 1) (linesNode lines) = pure (linesContent lines) := by
  rw [linesNode, expand_mapping none _ rfl, mapM_expandMember_node]
  rfl

theorem toBlock?_linesContent (lines : List EntryLine) :
    (linesContent lines).toBlock? = some (linesBlock lines) := by
  have hmembers : Content.toMembers? (lines.map fun l => (.text l.token, .text l.word)) =
      some (lines.map fun l => (l.token, .string l.word)) := by
    induction lines with
    | nil => rfl
    | cons l lines ih =>
      rw [List.map_cons, Content.toMembers?, ih]
      rfl
  rw [Content.toBlock?, linesContent, Content.toJson?, hmembers]
  simp only [Option.map_some, Option.bind_some, Json.toBlock?, Json.canonicalMembers_eq_map,
    linesBlock, List.map_map]
  rfl

end Contents

/-- The mapping of lines is the block that they stand for. -/
theorem block?_linesNode (lines : List EntryLine) :
    block? (some (linesNode lines)) = some (linesBlock lines) := by
  rw [← toBlock?_linesContent]
  simp only [block?, linesNode, expandMembers_eq, mapM_expandMember_node]
  rfl

end Yaml

/-- The block that lines are as a text of their own. -/
theorem Block.ofText?_entryLines {lines : List EntryLine} (hne : lines ≠ []) :
    Block.ofText? .yaml (String.ofList (linesText 0 lines)) = some (linesBlock lines) := by
  rw [ofText?, ofYaml?]
  simp only [Token.ofText?_entryLines hne, readDocument?_linesTokens, Option.bind_eq_bind,
    Option.bind_some, block?_linesNode]

/-! ## The table of lines -/

namespace Table

/-- A table holds what lines say, as a list of settings does: of the lines for a token the last one
    counts, its handler has no arguments, and other tokens have no entry. -/
structure HoldsLines (name : String) (lines : List EntryLine) (t : Table MacroEntry) : Prop where
  settings : ofSettings name (linesSettings lines) = .ok t
  lookup?_eq (token : String) : t.lookup? token =
    (lastValue? token (lines.map EntryLine.pair)).map fun handler =>
      { symbol := token, handler, args := [] }

variable {name : String} {lines : List EntryLine}

/-- Tables of one name that hold the same are the same. -/
theorem eq_of_lookup? {ε : Type} {t t' : Table ε} (hname : t.name = t'.name)
    (h : ∀ token, t.lookup? token = t'.lookup? token) : t = t' := by
  obtain ⟨name, entries⟩ := t
  obtain ⟨name', entries'⟩ := t'
  obtain rfl : name = name' := hname
  obtain rfl : entries = entries' := Fields.ext_get? h
  rfl

/-- The word that stands last for a token is not empty. -/
theorem ne_empty_of_lastValue? {token word : String}
    (h : lastValue? token (lines.map EntryLine.pair) = some word) : word ≠ "" := by
  obtain ⟨l, -, heq⟩ := List.mem_map.1 (mem_of_lastValue? h)
  obtain rfl : l.word = word := congrArg Prod.snd heq
  exact l.isWord.ne_empty

theorem get?_linesBlock (lines : List EntryLine) (key : String) :
    (linesBlock lines).get? key = (lastValue? key (lines.map EntryLine.pair)).map .string := by
  rw [linesBlock, Fields.get?_ofList, lastValue?_map]

/-- The block of lines gives a table of characters. -/
theorem exists_characters_of_lines (name : String) (lines : List EntryLine) :
    ∃ t : Table CharacterEntry, ofBlock name (linesBlock lines) = .ok t := by
  refine exists_ofBlock fun key j hj => ?_
  rw [get?_linesBlock] at hj
  obtain ⟨word, -, rfl⟩ := Option.map_eq_some_iff.1 hj
  exact ⟨_, rfl⟩

/-- The settings of lines are all accepted, and the last one for a token counts. -/
theorem exists_holdsLines (name : String) (lines : List EntryLine) :
    ∃ t, HoldsLines name lines t := by
  have hfit : ∀ p ∈ linesSettings lines, Fits MacroEntry p := by
    simp only [linesSettings, List.map_map, List.forall_mem_map]
    exact fun l _ => ⟨_, MacroEntry.make?_eq_ok_iff.2 ⟨l.word, [], l.isWord.ne_empty, rfl, rfl⟩⟩
  obtain ⟨t, ht⟩ := exists_ofSettings_iff.2 hfit
  refine ⟨t, ht, fun token => Option.ext fun e => ?_⟩
  rw [lookup?_ofSettings_iff ht, linesSettings, lastValue?_map token MacroSetting.shorthand]
  cases hlast : lastValue? token (lines.map EntryLine.pair) with
  | none => simp
  | some handler =>
    have hmake : TableEntry.make token (TableEntry.expand MacroEntry (.shorthand handler)) =
        (.ok { symbol := token, handler, args := [] } : Except EntryFault MacroEntry) :=
      MacroEntry.make?_eq_ok_iff.2 ⟨handler, [], ne_empty_of_lastValue? hlast, rfl, rfl⟩
    simp [hmake]

/-- The block of lines gives the table of their settings. -/
theorem ofBlock_linesBlock (name : String) (lines : List EntryLine) :
    (ofBlock name (linesBlock lines) : Except BuildError (Table MacroEntry)) =
      ofSettings name (linesSettings lines) := by
  obtain ⟨t', ht', hlookup'⟩ := exists_holdsLines name lines
  have hentry : ∀ key j, (linesBlock lines).get? key = some j →
      ∃ e : MacroEntry, TableEntry.ofJson? key j = .ok e := by
    intro key j hj
    rw [get?_linesBlock] at hj
    obtain ⟨handler, hlast, rfl⟩ := Option.map_eq_some_iff.1 hj
    exact ⟨_, MacroEntry.ofJson?_eq_ok_iff.2
      ⟨handler, [], ne_empty_of_lastValue? hlast, rfl, .inl ⟨rfl, rfl⟩⟩⟩
  obtain ⟨t, ht⟩ : ∃ t : Table MacroEntry, ofBlock name (linesBlock lines) = .ok t :=
    exists_ofBlock hentry
  -- There are both tables, and for every token both hold the last word.
  rw [ht, ht']
  refine congrArg Except.ok (eq_of_lookup? ?_ fun token => ?_)
  · rw [name_of_ofBlock ht, name_of_addAll ht']
    rfl
  · rw [hlookup']
    rcases lookup?_of_ofBlock ht token with ⟨hnone, hlookup⟩ | ⟨j, e, hj, he, hlookup⟩
    · rw [get?_linesBlock, Option.map_eq_none_iff] at hnone
      rw [hlookup, hnone]
      rfl
    · rw [get?_linesBlock] at hj
      obtain ⟨handler, hlast, rfl⟩ := Option.map_eq_some_iff.1 hj
      obtain ⟨handler', args, -, rfl, ⟨⟨⟩, rfl⟩ | ⟨_, hj', -⟩⟩ := MacroEntry.ofJson?_eq_ok_iff.1 he
      · rw [hlookup, hlast]
        rfl
      · exact nomatch hj'

/-- A text of lines gives the table of their settings. -/
theorem ofText_entryLines (name : String) (hne : lines ≠ []) :
    (ofText .yaml name (String.ofList (linesText 0 lines)) : Except BuildError (Table MacroEntry)) =
      ofSettings name (linesSettings lines) := by
  simp only [ofText, Block.read, Block.ofText?_entryLines hne, ofBlock_linesBlock]

end Table

end TokenAtlas
