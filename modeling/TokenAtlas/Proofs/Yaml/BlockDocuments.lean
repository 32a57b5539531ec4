import TokenAtlas.Proofs.Yaml.EntryLines
import TokenAtlas.Proofs.Yaml.SingleDefinition

/-!
# Documents of definitions on several lines

A document may write its definitions as the items of a block sequence, and the entries of a table as
lines of their own below the key for them.  How deep the definitions and their lines are indented
does not matter, as long as what belongs to something is indented deeper than it; only the hyphens
of the definitions may stand below their key.  If its patterns are accepted, such a document loads,
and every map of macros in it holds what its lines hold as a text of their own, whatever other
definitions stand around it.

## Key results

- `Outside.items`, `readItems?_itemsTokens`, `expandYaml_documentNode`: the definitions, for each of
  the three readers
- `Document.definitions_blockDocument`: the definitions of such a document
- `Table.macroLines_verbatim`: lines are taken as they are written, alone and in a document
-/

namespace TokenAtlas

open Yaml TokenReader

/-! ## Definitions on several lines -/

/-- What a definition is made of besides its name. -/
inductive DefinitionBody
  /-- Entries on lines of their own, which are indented by `extra + 1` spaces more than the key for
      them. -/
  | entries (kind : EntryKind) (extra : Nat) (lines : List EntryLine) (ne_nil : lines ≠ [])
  /-- A pattern between quotes. -/
  | pattern (source : String) (printable : ∀ c ∈ source.toList, IsPrintable c)

namespace DefinitionBody

/-- The kind of the map. -/
def kind : DefinitionBody → MapKind
  | .entries k _ _ _ => k.kind
  | .pattern _ _ => .patterns

/-- The name of the third member. -/
def key (b : DefinitionBody) : String := Definition.lastMember b.kind

/-- The text after the colon of the third member, whose key is indented by `n` spaces. -/
def text (n : Nat) : DefinitionBody → List Char
  | .entries _ extra lines _ => '\n' :: linesText (n + 1 + extra) lines
  | .pattern source _ => ' ' :: (Json.renderString source ++ ['\n'])

/-- The tokens of the third value. -/
def tokens : DefinitionBody → List Token
  | .entries _ _ lines _ => .blockMappingStart :: (linesTokens lines ++ [.blockEnd])
  | .pattern source _ => [.scalar source false]

/-- The third value as a node. -/
def node : DefinitionBody → Node
  | .entries _ _ lines _ => linesNode lines
  | .pattern source _ => .scalar none none source false

/-- Its content. -/
def content : DefinitionBody → Content
  | .entries _ _ lines _ => linesContent lines
  | .pattern source _ => .text source

/-- The definition of a map with a name. -/
def definition (name : String) : DefinitionBody → Definition
  | .entries k _ lines _ => k.definition name (linesBlock lines)
  | .pattern source _ => .patterns name source

/-- Whether a pattern is accepted.  Entries on lines always are. -/
def IsAccepted [Pattern.SizeCheck] : DefinitionBody → Prop
  | .entries _ _ _ _ => True
  | .pattern source _ => (Pattern.parse? source).isSome = true

end DefinitionBody

/-- A definition with a line for each of its members, the third of which may go on below. -/
structure BlockDefinition where
  name : String
  /-- Whether the name stands between quotes. -/
  quoted : Bool
  /-- Between quotes the name may be any text of printable characters, and a word of letters
      otherwise. -/
  name_ok : if quoted then ∀ c ∈ name.toList, IsPrintable c else IsTextWord name
  body : DefinitionBody

namespace BlockDefinition

/-- The name as it is written. -/
def nameText (d : BlockDefinition) : List Char :=
  if d.quoted then Json.renderString d.name else d.name.toList

/-- A definition after the indentation of its hyphen, which is `n` spaces. -/
def text (n : Nat) (d : BlockDefinition) : List Char :=
  '-' :: ' ' :: ("kind".toList ++ ':' :: ' ' :: (d.body.kind.name.toList ++ '\n' ::
    (List.replicate (n + 2) ' ' ++ ("name".toList ++ ':' :: ' ' :: (d.nameText ++ '\n' ::
      (List.replicate (n + 2) ' ' ++ (d.body.key.toList ++ ':' :: d.body.text (n + 2))))))))

/-- The tokens of a definition. -/
def tokens (d : BlockDefinition) : List Token :=
  .blockEntry :: .blockMappingStart :: .key :: .scalar "kind" true :: .value ::
    .scalar d.body.kind.name true :: .key :: .scalar "name" true :: .value ::
      .scalar d.name (!d.quoted) :: .key :: .scalar d.body.key true :: .value ::
        (d.body.tokens ++ [.blockEnd])

/-- The item of a document that a definition is. -/
def node (d : BlockDefinition) : Node :=
  Document.namedItemNode d.body.kind.name d.name (!d.quoted) d.body.key d.body.node

/-- Its content. -/
def content (d : BlockDefinition) : Content :=
  .mapping (Definition.keyed
    [("kind", .text d.body.kind.name), ("name", .text d.name), (d.body.key, d.body.content)])

/-- The definition itself. -/
def definition (d : BlockDefinition) : Definition := d.body.definition d.name

end BlockDefinition

namespace Yaml

/-- Definitions whose hyphens are indented by `n` spaces. -/
def itemsText (n : Nat) (ds : List BlockDefinition) : List Char :=
  ds.flatMap fun d => List.replicate n ' ' ++ d.text n

/-- A document of definitions. -/
def blockDocument (n : Nat) (ds : List BlockDefinition) : String :=
  .ofList ("maps".toList ++ ':' :: '\n' :: itemsText n ds)

/-- The tokens of definitions. -/
def itemsTokens (ds : List BlockDefinition) : List Token := ds.flatMap BlockDefinition.tokens

/-- The root of a document of definitions. -/
def documentNode (ds : List BlockDefinition) : Node :=
  .mapping none none [(wordNode "maps", .sequence none none (ds.map BlockDefinition.node))]

/-! ## From texts to tokens -/

/-- The words of a document. -/
def documentWords : List String :=
  ["maps", "kind", "name", "entries", "pattern", "character", "macro"]

theorem isLineWord_of_documentWord {w : String} (h : w ∈ documentWords) :
    IsLineWord w.toList ∧ w.toList.length ≤ keyLimit := by
  have hall : ∀ w ∈ documentWords, w.toList ≠ [] ∧ (∀ c ∈ w.toList, c.isAlpha = true) ∧
      w.toList.length ≤ keyLimit := by
    simp [documentWords, keyLimit]
  obtain ⟨hne, hletters, hlength⟩ := hall w h
  exact ⟨isLineWord_of_letters hne hletters, hlength⟩

theorem kindName_mem_documentWords (k : MapKind) : k.name ∈ documentWords := by
  cases k <;> simp [documentWords, MapKind.name]

theorem lastMember_mem_documentWords (k : MapKind) : Definition.lastMember k ∈ documentWords := by
  cases k <;> simp [documentWords, Definition.lastMember]

namespace TokenReader

variable {st : TokenReader} {ts : List Token} {indents : List Int} {n m : Nat} {rest : List Char}

/-- The name of a definition, up to the next line. -/
theorem Outside.nameLine {d : BlockDefinition}
    (h : Outside ((n : Int), indents) n st true ts ("name".toList ++ ':' :: ' ' :: (d.nameText ++
      '\n' :: (List.replicate n ' ' ++ rest)))) (hrest : BeginsToken rest) :
    ∃ st', Passes st st' ∧ Outside ((n : Int), indents) n st' true
      (.scalar d.name (!d.quoted) :: .value :: .scalar "name" true :: .key :: ts) rest := by
  obtain ⟨hkey, hlength⟩ := isLineWord_of_documentWord (w := "name") (by simp [documentWords])
  have hopens : Opens .blockMappingStart n ((n : Int), indents) ((n : Int), indents) [] :=
    .level indents
  have hname := d.name_ok
  cases hquoted : d.quoted with
  | true =>
    rw [hquoted, if_pos rfl] at hname
    rw [BlockDefinition.nameText, hquoted, if_pos rfl] at h
    simpa using h.quotedMember hkey hlength hname hopens
  | false =>
    rw [hquoted, if_neg Bool.false_ne_true] at hname
    rw [BlockDefinition.nameText, hquoted, if_neg Bool.false_ne_true] at h
    simpa using h.member hkey hlength hname.isLineWord hopens (Nat.le_refl n) hrest

/-- The third member of a definition, up to what follows it further left.  The mappings that are
    still open there are ended by whatever stands that far left. -/
theorem Outside.body {b : DefinitionBody}
    (h : Outside (((n + 2 : Nat) : Int), (n : Int) :: indents) (n + 2) st true ts
      (b.key.toList ++ ':' :: (b.text (n + 2) ++ (List.replicate m ' ' ++ rest))))
    (hm : m ≤ n) (hrest : BeginsToken rest) :
    ∃ st' indent' indents' ts', Passes st st' ∧ Outside (indent', indents') m st' true ts' rest ∧
      ∀ column : Int, column ≤ n → closeBlocks column ts' indent' indents' =
        closeBlocks column (.blockEnd :: (b.tokens.reverse ++
          .value :: .scalar b.key true :: .key :: ts)) n indents := by
  obtain ⟨hkey, hlength⟩ := isLineWord_of_documentWord (lastMember_mem_documentWords b.kind)
  cases b with
  | entries k extra lines hne =>
    obtain ⟨l, lines, rfl⟩ := List.exists_cons_of_ne_nil hne
    have htext : DefinitionBody.text (n + 2) (.entries k extra (l :: lines) hne) ++
        (List.replicate m ' ' ++ rest) = '\n' :: (List.replicate (n + 2 + 1 + extra) ' ' ++
          (l.text ++ '\n' :: (linesText (n + 2 + 1 + extra) lines ++
            (List.replicate m ' ' ++ rest)))) := by
      simp [DefinitionBody.text, linesText]
    rw [htext] at h
    obtain ⟨st₁, hpass₁, h₁⟩ := h.keyLine hkey hlength (.level _)
    obtain ⟨st', hpass', h'⟩ := h₁.entryLines (.deeper _ (by omega)) (by omega) hrest
    refine ⟨st', _, _, _, hpass₁.trans hpass', h', fun column hcolumn => ?_⟩
    -- The mapping of the lines is open here, and around it the one of the definition.
    rw [closeBlocks_cons_of_lt (by omega), closeBlocks_cons_of_lt (by omega)]
    simp [DefinitionBody.tokens, DefinitionBody.key]
  | pattern source hprintable =>
    have htext : DefinitionBody.text (n + 2) (.pattern source hprintable) ++
        (List.replicate m ' ' ++ rest) = ' ' :: (Json.renderString source ++
          '\n' :: (List.replicate m ' ' ++ rest)) := by
      simp [DefinitionBody.text]
    rw [htext] at h
    obtain ⟨st', hpass', h'⟩ := h.quotedMember hkey hlength hprintable (.level _)
    refine ⟨st', _, _, _, hpass', h', fun column hcolumn => ?_⟩
    -- Only the mapping of the definition is open here.
    rw [closeBlocks_cons_of_lt (by omega)]
    simp [DefinitionBody.tokens, DefinitionBody.key]

/-- A definition, up to what follows it no deeper than its hyphen. -/
theorem Outside.item {blocks : Int × List Int} {begun : List Token} {d : BlockDefinition}
    (h : Outside blocks n st true ts (d.text n ++ (List.replicate m ' ' ++ rest)))
    (hopens : Opens .blockSequenceStart n blocks ((n : Int), indents) begun)
    (hm : m ≤ n) (hrest : BeginsToken rest) :
    ∃ st' indent' indents' ts', Passes st st' ∧ Outside (indent', indents') m st' true ts' rest ∧
      ∀ column : Int, column ≤ n → closeBlocks column ts' indent' indents' =
        closeBlocks column (d.tokens.reverse ++ (begun ++ ts)) n indents := by
  obtain ⟨hkind, hkindLength⟩ := isLineWord_of_documentWord (w := "kind") (by simp [documentWords])
  obtain ⟨hword, -⟩ := isLineWord_of_documentWord (kindName_mem_documentWords d.body.kind)
  obtain ⟨hname, -⟩ := isLineWord_of_documentWord (w := "name") (by simp [documentWords])
  obtain ⟨hkey, -⟩ := isLineWord_of_documentWord (lastMember_mem_documentWords d.body.kind)
  simp only [BlockDefinition.text, List.cons_append, List.append_assoc] at h
  obtain ⟨st₁, hpass₁, h₁⟩ := h.entry hopens
  have hinner : Opens .blockMappingStart (n + 2) ((n : Int), indents)
      (((n + 2 : Nat) : Int), (n : Int) :: indents) [.blockMappingStart] :=
    .deeper indents (by omega)
  obtain ⟨st₂, hpass₂, h₂⟩ := h₁.member hkind hkindLength hword hinner (Nat.le_refl _)
    (beginsToken_bare hname.toIsBare _)
  obtain ⟨st₃, hpass₃, h₃⟩ := h₂.nameLine (beginsToken_bare hkey.toIsBare _)
  obtain ⟨st', indent', indents', ts', hpass', h', hclose⟩ := h₃.body hm hrest
  refine ⟨st', indent', indents', ts', hpass₁.trans (hpass₂.trans (hpass₃.trans hpass')), h',
    fun column hcolumn => ?_⟩
  rw [hclose column hcolumn]
  simp [BlockDefinition.tokens]

/-- Definitions, up to the end of the text. -/
theorem Outside.items {blocks : Int × List Int} {begun : List Token} {d : BlockDefinition}
    {ds : List BlockDefinition} (h : Outside blocks n st true ts (d.text n ++ itemsText n ds))
    (hopens : Opens .blockSequenceStart n blocks ((n : Int), indents) begun) :
    ∃ st' indent' indents' ts', Passes st st' ∧ Outside (indent', indents') 0 st' true ts' [] ∧
      closeBlocks (-1) ts' indent' indents' =
        closeBlocks (-1) ((itemsTokens (d :: ds)).reverse ++ (begun ++ ts)) n indents := by
  -- Only the first definition may open the sequence, so the place of the first one is generalized.
  induction ds generalizing d blocks st ts begun with
  | nil =>
    have hlast : Outside blocks n st true ts (d.text n ++ (List.replicate 0 ' ' ++ [])) := by
      simpa [itemsText] using h
    obtain ⟨st', indent', indents', ts', hpass, h', hclose⟩ := hlast.item hopens (by omega) nofun
    refine ⟨st', indent', indents', ts', hpass, h', ?_⟩
    rw [hclose (-1) (by omega)]
    simp [itemsTokens]
  | cons next ds ih =>
    have hnext : itemsText n (next :: ds) =
        List.replicate n ' ' ++ (next.text n ++ itemsText n ds) := by
      simp [itemsText]
    rw [hnext] at h
    have hbegins : BeginsToken (next.text n ++ itemsText n ds) := by
      intro c hc
      obtain rfl : '-' = c := by simpa [BlockDefinition.text] using hc
      exact ⟨rfl, by decide⟩
    obtain ⟨st₁, _, _, ts₁, hpass₁, h₁, hclose⟩ := h.item hopens (Nat.le_refl n) hbegins
    -- The next hyphen ends what the definition before it has left open.
    obtain ⟨st₂, hpass₂, h₂⟩ := h₁.unindent hbegins
    rw [hclose n (Int.le_refl _), closeBlocks_of_le (Int.le_refl _)] at h₂
    obtain ⟨st', indent', indents', ts', hpass', h', hend⟩ := ih h₂ (.level indents)
    refine ⟨st', indent', indents', ts', hpass₁.trans (hpass₂.trans hpass'), h', ?_⟩
    rw [hend]
    simp [itemsTokens]

end TokenReader

/-- What opens the sequence of the definitions, if they are indented. -/
def opening (n : Nat) : List Token := if n = 0 then [] else [.blockSequenceStart]

/-- What ends it. -/
def closing (n : Nat) : List Token := if n = 0 then [] else [.blockEnd]

/-- The tokens of a document of definitions. -/
def documentTokens (n : Nat) (ds : List BlockDefinition) : List Token :=
  .blockMappingStart :: .key :: .scalar "maps" true :: .value ::
    (opening n ++ (itemsTokens ds ++ (closing n ++ [.blockEnd])))

theorem isText_nameText (d : BlockDefinition) : ∀ c ∈ d.nameText, IsText c := by
  have hname := d.name_ok
  rw [BlockDefinition.nameText]
  split at hname
  · rename_i hquoted
    rw [if_pos hquoted]
    exact fun c hc => .inl (isPrintable_of_mem_renderString hname c hc)
  · rename_i hplain
    rw [if_neg hplain]
    exact fun c hc => .inl (hname.isLineWord.printable c hc)

theorem isText_signs : IsText ':' ∧ IsText ' ' ∧ IsText '-' ∧ IsText '\n' := by
  simp only [IsText, IsPrintable]
  decide

theorem isText_body (n : Nat) (b : DefinitionBody) : ∀ c ∈ b.text n, IsText c := by
  obtain ⟨-, hspace, -, hbreak⟩ := isText_signs
  cases b with
  | entries k extra lines hne => exact List.forall_mem_cons.2 ⟨hbreak, isText_linesText _ lines⟩
  | pattern source hprintable =>
    simp only [DefinitionBody.text, List.forall_mem_cons, List.forall_mem_append]
    exact ⟨hspace, fun c hc => .inl (isPrintable_of_mem_renderString hprintable c hc), hbreak,
      List.forall_mem_nil _⟩

theorem isText_blockDocument (n : Nat) (ds : List BlockDefinition) :
    ∀ c ∈ "maps".toList ++ ':' :: '\n' :: itemsText n ds, IsText c := by
  obtain ⟨hcolon, hspace, hhyphen, hbreak⟩ := isText_signs
  have hword {w : String} (h : w ∈ documentWords) : ∀ c ∈ w.toList, IsText c := fun c hc =>
    .inl ((isLineWord_of_documentWord h).1.printable c hc)
  have hspaces (n : Nat) : ∀ c ∈ List.replicate n ' ', IsText c := fun c hc =>
    isText_of_mem_spaces hc
  simp only [itemsText, BlockDefinition.text, List.forall_mem_flatMap, List.forall_mem_append,
    List.forall_mem_cons]
  exact ⟨hword (by simp [documentWords]), hcolon, hbreak, fun d _ => ⟨hspaces n, hhyphen, hspace,
    hword (by simp [documentWords]), hcolon, hspace, hword (kindName_mem_documentWords _), hbreak,
    hspaces _, hword (by simp [documentWords]), hcolon, hspace, isText_nameText d, hbreak,
    hspaces _, hword (lastMember_mem_documentWords _), hcolon, isText_body _ d.body⟩⟩

theorem Token.ofText?_blockDocument (n : Nat) {ds : List BlockDefinition} (hne : ds ≠ []) :
    Token.ofText? (blockDocument n ds) = some (documentTokens n ds) := by
  obtain ⟨d, ds, rfl⟩ := List.exists_cons_of_ne_nil hne
  obtain ⟨hmaps, hlength⟩ := isLineWord_of_documentWord (w := "maps") (by simp [documentWords])
  have htext : itemsText n (d :: ds) = List.replicate n ' ' ++ (d.text n ++ itemsText n ds) := by
    simp [itemsText]
  have hstart : Outside (-1, []) 0 (.start ("maps".toList ++ ':' :: '\n' :: itemsText n (d :: ds)))
      true [] ("maps".toList ++ ':' :: '\n' ::
        (List.replicate n ' ' ++ (d.text n ++ itemsText n ds))) :=
    ⟨rfl, rfl, rfl, rfl, rfl, rfl, by rw [← htext]; rfl⟩
  obtain ⟨st₁, hpass₁, h₁⟩ := hstart.keyLine hmaps hlength (.deeper [] (by decide))
  have htext := isText_blockDocument n (d :: ds)
  cases n with
  | zero =>
    obtain ⟨st', _, _, ts', hpass', h', hend⟩ := h₁.items (.level _)
    rw [blockDocument, ofText?_of_passes htext (hpass₁.trans hpass') h', hend]
    simp [closeBlocks, documentTokens, opening, closing]
  | succ n =>
    obtain ⟨st', _, _, ts', hpass', h', hend⟩ := h₁.items (.deeper _ (by omega))
    rw [blockDocument, ofText?_of_passes htext (hpass₁.trans hpass') h', hend]
    simp [closeBlocks, documentTokens, opening, closing]

/-! ## From tokens to nodes -/

section Nodes

variable {ns : Names} {fuel : Nat}

/-- Reads the items of a sequence that is indented or not. -/
def readItems? : Bool → NodeReader (List Node)
  | true => Node.readBlockSequence?
  | false => Node.readPlainSequence?

theorem readItems?_entry (indented : Bool) (ts : List Token) :
    readItems? indented (fuel + 1) ns (.blockEntry :: .blockMappingStart :: ts) =
      (NodeReader.bind (Node.read? · true false) fun n =>
        NodeReader.map (n :: ·) (readItems? indented)) fuel ns (.blockMappingStart :: ts) := by
  have hblock : Node.endsBlockItem (.blockMappingStart :: ts) = false := rfl
  have hplain : Node.endsPlainItem (.blockMappingStart :: ts) = false := rfl
  cases indented with
  | true =>
    simp only [readItems?, Node.readBlockSequence?, hblock, Bool.false_eq_true, if_false,
      NodeReader.bind]
    cases Node.read? fuel true false ns (.blockMappingStart :: ts) <;> rfl
  | false =>
    simp only [readItems?, Node.readPlainSequence?, hplain, Bool.false_eq_true, if_false,
      NodeReader.bind]
    cases Node.read? fuel true false ns (.blockMappingStart :: ts) <;> rfl

/-- The third value of a definition. -/
theorem read?_body (b : DefinitionBody) (rest : List Token) (hfuel : b.tokens.length < fuel) :
    Node.endsBlockPart (b.tokens ++ rest) = false ∧
      Node.read? fuel true true ns (b.tokens ++ rest) = some (b.node, ns, rest) := by
  obtain ⟨fuel, rfl⟩ : ∃ f, fuel = f + 1 := ⟨fuel - 1, by omega⟩
  cases b with
  | entries k extra lines hne =>
    have hlines : Node.readBlockMapping? fuel ns (linesTokens lines ++ .blockEnd :: rest) =
        some (lines.map EntryLine.node, ns, rest) := by
      refine readBlockMapping?_linesTokens rest ?_
      simp only [DefinitionBody.tokens, List.length_cons, List.length_append, List.length_nil,
        length_linesTokens] at hfuel
      omega
    have htokens : DefinitionBody.tokens (.entries k extra lines hne) ++ rest =
        .blockMappingStart :: (linesTokens lines ++ .blockEnd :: rest) := by
      simp [DefinitionBody.tokens]
    rw [htokens, Node.read?_blockMapping, hlines]
    exact ⟨rfl, rfl⟩
  | pattern source hprintable => exact ⟨rfl, rfl⟩

/-- The members of a definition. -/
theorem read?_members (d : BlockDefinition) (rest : List Token) (hfuel : d.tokens.length < fuel) :
    Node.read? fuel true false ns (d.tokens.tail ++ rest) = some (d.node, ns, rest) := by
  have hlength : d.tokens.length = d.body.tokens.length + 14 := by
    simp [BlockDefinition.tokens]
  obtain ⟨fuel, rfl⟩ : ∃ f, fuel = f + 5 := ⟨fuel - 5, by omega⟩
  obtain ⟨hends, hbody⟩ := @read?_body ns (fuel + 1) d.body (.blockEnd :: rest) (by omega)
  have hend : Node.readBlockMapping? (fuel + 1) ns (.blockEnd :: rest) = some ([], ns, rest) := rfl
  have htokens : d.tokens.tail ++ rest = .blockMappingStart :: .key :: .scalar "kind" true ::
      .value :: .scalar d.body.kind.name true :: .key :: .scalar "name" true :: .value ::
      .scalar d.name (!d.quoted) :: .key :: .scalar d.body.key true :: .value ::
      (d.body.tokens ++ .blockEnd :: rest) := by
    simp [BlockDefinition.tokens]
  rw [htokens, Node.read?_blockMapping, Node.readBlockMapping?_member rfl]
  simp only [NodeReader.bind, NodeReader.map, Node.read?_scalar, Option.bind_some]
  rw [Node.readBlockMapping?_member rfl]
  simp only [NodeReader.bind, NodeReader.map, Node.read?_scalar, Option.bind_some]
  rw [Node.readBlockMapping?_member hends]
  simp only [NodeReader.bind, NodeReader.map, hbody, hend, Option.bind_some, Option.map_some]
  rfl

/-- The tokens of definitions are read as their items, up to what ends the sequence. -/
theorem readItems?_itemsTokens {indented : Bool} {ds : List BlockDefinition} {ts rest : List Token}
    (hend : ∀ fuel, readItems? indented (fuel + 1) ns ts = some ([], ns, rest))
    (hfuel : (itemsTokens ds).length + 1 < fuel) :
    readItems? indented fuel ns (itemsTokens ds ++ ts) =
      some (ds.map BlockDefinition.node, ns, rest) := by
  obtain ⟨fuel, rfl⟩ : ∃ f, fuel = f + 1 := ⟨fuel - 1, by omega⟩
  induction ds generalizing fuel with
  | nil => exact hend fuel
  | cons d ds ih =>
    have hlength : (itemsTokens (d :: ds)).length = d.tokens.length + (itemsTokens ds).length := by
      rw [itemsTokens, List.flatMap_cons, List.length_append]
      rfl
    have hpositive : 0 < d.tokens.length := Nat.succ_pos _
    -- The item is read with one call less, and so are the items after it.
    obtain ⟨fuel, rfl⟩ : ∃ f, fuel = f + 1 := ⟨fuel - 1, by omega⟩
    have htokens : itemsTokens (d :: ds) ++ ts = .blockEntry :: .blockMappingStart ::
        (d.tokens.drop 2 ++ (itemsTokens ds ++ ts)) := by
      simp [itemsTokens, BlockDefinition.tokens]
    have hmembers : Node.read? (fuel + 1) true false ns (.blockMappingStart ::
        (d.tokens.drop 2 ++ (itemsTokens ds ++ ts))) = some (d.node, ns, itemsTokens ds ++ ts) :=
      read?_members d _ (by omega)
    have hrest := ih fuel (by omega)
    rw [htokens, readItems?_entry]
    simp only [NodeReader.bind, NodeReader.map, hmembers, Option.bind_some, hrest]
    rfl

/-- The sequence of definitions, indented or not. -/
theorem read?_itemsTokens (n : Nat) {ds : List BlockDefinition} (hne : ds ≠ [])
    (hfuel : (itemsTokens ds).length + 1 < fuel) :
    Node.endsBlockPart (opening n ++ (itemsTokens ds ++ (closing n ++ [.blockEnd]))) = false ∧
    Node.read? (fuel + 1) true true ns
      (opening n ++ (itemsTokens ds ++ (closing n ++ [.blockEnd]))) =
        some (.sequence none none (ds.map BlockDefinition.node), ns, [.blockEnd]) := by
  obtain ⟨d, ds, rfl⟩ := List.exists_cons_of_ne_nil hne
  have hends (ts : List Token) :
      Node.endsBlockPart (opening n ++ (itemsTokens (d :: ds) ++ ts)) = false := by
    cases n <;> rfl
  have hread (ts : List Token) :
      Node.read? (fuel + 1) true true ns (opening n ++ (itemsTokens (d :: ds) ++ ts)) =
        (readItems? (decide (0 < n)) fuel ns (itemsTokens (d :: ds) ++ ts)).map
          fun r => (.sequence none none r.1, r.2) := by
    cases n <;> rfl
  have hclosing (fuel : Nat) :
      readItems? (decide (0 < n)) (fuel + 1) ns (closing n ++ [.blockEnd]) =
      some ([], ns, [.blockEnd]) := by
    cases n <;> rfl
  refine ⟨hends _, ?_⟩
  rw [hread, readItems?_itemsTokens hclosing hfuel]
  rfl

/-- A document of definitions is read as its root. -/
theorem readDocument?_documentTokens (n : Nat) {ds : List BlockDefinition} (hne : ds ≠ []) :
    readDocument? (documentTokens n ds) = some (some (documentNode ds)) := by
  let ns : Names := { handles := [] ++ Names.defaultHandles }
  obtain ⟨fuel, hfuel, hlimit⟩ : ∃ fuel, (itemsTokens ds).length + 1 < fuel ∧
      callLimit (documentTokens n ds) = fuel + 3 := by
    refine ⟨callLimit (documentTokens n ds) - 3, ?_, ?_⟩ <;>
    · simp only [callLimit, documentTokens, List.length_cons, List.length_append]
      omega
  obtain ⟨hvalue, hmaps⟩ := @read?_itemsTokens ns fuel n ds hne hfuel
  have hroot : Node.read? (callLimit (documentTokens n ds)) true false ns (documentTokens n ds) =
      some (documentNode ds, ns, []) := by
    rw [hlimit, documentTokens, Node.read?_blockMapping, Node.readBlockMapping?_member hvalue]
    simp only [NodeReader.bind, NodeReader.map, hmaps, Option.bind_some]
    rfl
  exact readDocument?_blockMapping hroot

end Nodes

end Yaml

/-! ## From nodes to definitions -/

namespace Document

theorem expand_body (ts : Targets) (b : DefinitionBody) :
    expand ts .asContent partDepth b.node = pure b.content := by
  cases b with
  | entries k extra lines hne => exact expand_linesNode lines
  | pattern source hprintable =>
    rw [DefinitionBody.node, expand_scalar]
    rfl

theorem expandYamlItem_node (ts : Targets) (d : BlockDefinition) :
    expandYamlItem ts d.node = pure d.content := by
  have hname : scalarContent? none d.name (!d.quoted) = some (.text d.name) := by
    have hname := d.name_ok
    cases hquoted : d.quoted with
    | true => rfl
    | false =>
      rw [hquoted, if_neg Bool.false_ne_true] at hname
      exact hname.plainContent?_eq
  have hkey : d.body.key ∈ ["entries", "pattern"] := by
    rw [DefinitionBody.key]
    cases d.body.kind <;> simp [Definition.lastMember]
  rw [BlockDefinition.node, expandYamlItem_namedItemNode ts hname hkey, expand_body]
  rfl

/-- The items of a document of definitions are their contents. -/
theorem expandYaml_documentNode (ds : List BlockDefinition) :
    expandYaml (documentNode ds) = pure (ds.map BlockDefinition.content) := by
  have hitems (ts : Targets) : (ds.map BlockDefinition.node).mapM (expandYamlItem ts) =
      pure (ds.map BlockDefinition.content) := by
    rw [List.mapM_map, ← List.mapM_pure]
    exact congrArg (ds.mapM ·) (funext (expandYamlItem_node ts))
  unfold expandYaml
  simp only [documentNode, wordNode, yamlMaps, scalarText, follow, pure_bind, if_true, hitems]

theorem ofContent?_content (d : BlockDefinition) :
    Definition.ofContent? d.content = some d.definition := by
  rw [BlockDefinition.content, DefinitionBody.key, Definition.ofContent?_members,
    BlockDefinition.definition]
  cases d.body with
  | entries k extra lines hne =>
    rw [DefinitionBody.kind, DefinitionBody.content, k.make?_kind, toBlock?_linesContent]
    rfl
  | pattern source hprintable => rfl

/-- The definitions of such a document. -/
theorem definitions_blockDocument (n : Nat) {ds : List BlockDefinition} (hne : ds ≠ []) :
    (Document.mk .yaml (blockDocument n ds)).definitions =
      .ok (ds.map BlockDefinition.definition) := by
  have hitems : (Document.mk .yaml (blockDocument n ds)).items? =
      some (ds.map BlockDefinition.content) := by
    simp only [items?, yamlItems?, Token.ofText?_blockDocument n hne,
      readDocument?_documentTokens n hne, Option.bind_eq_bind, Option.bind_some,
      expandYaml_documentNode]
    rfl
  have hall : (ds.map BlockDefinition.content).mapM Definition.ofContent? =
      some (ds.map BlockDefinition.definition) := by
    rw [List.mapM_map, ← Option.pure_def, ← List.mapM_pure]
    exact congrArg (ds.mapM ·) (funext ofContent?_content)
  simp only [definitions, hitems, Option.bind_some, hall]

end Document

theorem BlockDefinition.name_definition (d : BlockDefinition) : d.definition.name = d.name := by
  rw [definition]
  cases d.body with
  | entries k extra lines hne => exact k.name_definition d.name (linesBlock lines)
  | pattern source hprintable => rfl

/-! ## The maps of such documents -/

namespace Table

/-- A definition of macros by lines gives the map that holds them. -/
theorem exists_build_macros [Pattern.SizeCheck] (name : String) (lines : List EntryLine) :
    ∃ t, HoldsLines name lines t ∧
      (Definition.macros name (linesBlock lines)).build = .ok (.macros t) := by
  obtain ⟨t, ht⟩ := exists_holdsLines name lines
  exact ⟨t, ht, map_eq_ok_iff.2 ⟨t, (ofBlock_linesBlock name lines).trans ht.settings, rfl⟩⟩

end Table

/-- Every definition of such a document gives a map, if its pattern is accepted. -/
theorem BlockDefinition.exists_build [Pattern.SizeCheck] {d : BlockDefinition}
    (h : d.body.IsAccepted) : ∃ m, d.definition.build = .ok m := by
  obtain ⟨name, quoted, name_ok, body⟩ := d
  rw [definition]
  cases body with
  | entries k extra lines hne =>
    cases k with
    | characters =>
      obtain ⟨t, ht⟩ := Table.exists_characters_of_lines name lines
      exact ⟨_, map_eq_ok_iff.2 ⟨t, ht, rfl⟩⟩
    | macros =>
      obtain ⟨t, -, ht⟩ := Table.exists_build_macros name lines
      exact ⟨_, ht⟩
  | pattern source hprintable =>
    obtain ⟨pattern, hpattern⟩ := Option.isSome_iff_exists.1 h
    refine ⟨_, map_eq_ok_iff.2 ⟨⟨name, source, pattern⟩, ?_, rfl⟩⟩
    rw [Recognizer.ofSource, hpattern]

namespace Table

/-- Lines are taken as they are written, as a text of their own and as the entries of a document,
    where patterns may stand between them that are accepted. -/
theorem macroLines_verbatim [Pattern.SizeCheck] :
    (∀ (name : String) (lines : List EntryLine), lines ≠ [] →
      ∃ t, ofText .yaml name (String.ofList (linesText 0 lines)) = .ok t ∧
        HoldsLines name lines t) ∧
    ∀ (n : Nat) (ds : List BlockDefinition), ds ≠ [] → (ds.map BlockDefinition.name).Nodup →
      (∀ d ∈ ds, d.body.IsAccepted) →
      ∃ a, (Document.mk .yaml (blockDocument n ds)).load = .ok a ∧
        a.names = ds.map BlockDefinition.name ∧
        ∀ d ∈ ds, ∀ extra lines hne, d.body = .entries .macros extra lines hne →
          ∃ t, a.get? d.name = some (.macros t) ∧ HoldsLines d.name lines t := by
  constructor
  · intro name lines hne
    obtain ⟨t, ht⟩ := exists_holdsLines name lines
    exact ⟨t, (ofText_entryLines name hne).trans ht.settings, ht⟩
  · intro n ds hne hnodup haccepted
    have hnames : (ds.map BlockDefinition.definition).map Definition.name =
        ds.map BlockDefinition.name := by
      rw [List.map_map]
      exact List.map_congr_left fun d _ => d.name_definition
    have hall : ∀ d ∈ ds.map BlockDefinition.definition, ∃ m, d.build = .ok m :=
      List.forall_mem_map.2 fun d hd => BlockDefinition.exists_build (haccepted d hd)
    obtain ⟨a, hload, ha⟩ := Document.exists_load_of_nodup
      (Document.definitions_blockDocument n hne) hall (hnames.symm ▸ hnodup)
    refine ⟨a, hload, ha.names_eq.trans hnames, fun d hd extra lines hlines hbody => ?_⟩
    -- The map of this definition is in the atlas, and it is the first with its name.
    have hdefinition : d.definition = .macros d.name (linesBlock lines) := by
      rw [BlockDefinition.definition, hbody]
      rfl
    obtain ⟨t, ht, hbuild⟩ := exists_build_macros d.name lines
    rw [← hdefinition] at hbuild
    have hname : TokenMap.name (.macros t) = d.name :=
      (Definition.name_of_build hbuild).trans d.name_definition
    refine ⟨t, ?_, ht⟩
    rw [← hname]
    exact Atlas.get?_eq_some_of_mem (ha.mem_of_build (List.mem_map_of_mem hd) hbuild)

/-- A token that looks like an escape and is repeated, in a text of its own and in a document below
    the definition of a pattern. -/
theorem macroLines_verbatim_repeated :
    (∃ t : Table MacroEntry, ofText .yaml "m" "\\n: Nan\n\\a: One\n\\n: Yes\n" = .ok t ∧
      t.lookup? "\\n" = some { symbol := "\\n", handler := "Yes", args := [] }) ∧
    ∃ a t, (Document.mk .yaml ("maps:\n  - kind: pattern\n    name: p\n    pattern: \"[a-z]\"\n" ++
        "  - kind: macro\n    name: m\n    entries:\n" ++
        "      \\n: Nan\n      \\a: One\n      \\n: Yes\n")).load = .ok a ∧
      a.get? "m" = some (.macros t) ∧
      t.lookup? "\\n" = some { symbol := "\\n", handler := "Yes", args := [] } := by
  have hn : IsControlSequence "\\n" := ⟨['n'], by simp, by simp, by simp, by simp⟩
  have ha : IsControlSequence "\\a" := ⟨['a'], by simp, by simp, by simp, by simp⟩
  have hword : ∀ w ∈ ["Nan", "One", "Yes", "m", "p"], IsTextWord w := by
    intro w hw
    fin_cases hw <;> exact ⟨by simp, by simp, by simp⟩
  let lines : List EntryLine := [⟨"\\n", "Nan", hn, hword _ (by simp)⟩,
    ⟨"\\a", "One", ha, hword _ (by simp)⟩, ⟨"\\n", "Yes", hn, hword _ (by simp)⟩]
  have hne : lines ≠ [] := List.cons_ne_nil _ _
  let p : BlockDefinition := ⟨"p", false, hword _ (by simp),
    .pattern "[a-z]" (by simp [IsPrintable])⟩
  let m : BlockDefinition := ⟨"m", false, hword _ (by simp), .entries .macros 1 lines hne⟩
  have htext : String.ofList (linesText 0 lines) = "\\n: Nan\n\\a: One\n\\n: Yes\n" := by
    simp [linesText, EntryLine.text, lines]
  have hdocument : blockDocument 2 [p, m] =
      "maps:\n  - kind: pattern\n    name: p\n    pattern: \"[a-z]\"\n" ++
        "  - kind: macro\n    name: m\n    entries:\n" ++
        "      \\n: Nan\n      \\a: One\n      \\n: Yes\n" := by
    simp [blockDocument, itemsText, BlockDefinition.text, BlockDefinition.nameText,
      DefinitionBody.text, DefinitionBody.key, DefinitionBody.kind, EntryKind.kind, MapKind.name,
      Definition.lastMember, Json.renderString, Json.escapeChar, linesText, EntryLine.text, p, m,
      lines]
  have hlast : lastValue? "\\n" (lines.map EntryLine.pair) = some "Yes" := by
    simp [lastValue?, EntryLine.pair, lines]
  have hpattern : p.body.IsAccepted := by
    show (Pattern.parse? "[a-z]").isSome = true
    decide +kernel
  obtain ⟨htexts, hdocuments⟩ := macroLines_verbatim
  constructor
  · obtain ⟨t, ht, hholds⟩ := htexts "m" lines hne
    refine ⟨t, htext ▸ ht, ?_⟩
    rw [hholds.lookup?_eq, hlast]
    rfl
  · obtain ⟨a, hload, -, hmaps⟩ := hdocuments 2 [p, m] (List.cons_ne_nil _ _) (by simp [p, m])
      (List.forall_mem_cons.2 ⟨hpattern, List.forall_mem_singleton.2 trivial⟩)
    obtain ⟨t, hget, hholds⟩ := hmaps m (by simp) 1 lines hne rfl
    refine ⟨a, t, hdocument ▸ hload, hget, ?_⟩
    rw [hholds.lookup?_eq, hlast]
    rfl

end Table

end TokenAtlas
