import TokenAtlas.Proofs.Yaml.BareWords

/-!
# Reading tokens outside of flow collections

`Outside` says where a reader of tokens is outside of flow collections: in which column, what block
collections are around it, what tokens it has found and what follows.  No key is open there.  Each
theorem here says that from one such place the reader comes to another, as those for `At` do inside
flow collections.

A line break lets a key begin and counts as a blank otherwise.  A token to the left of a block
collection ends it, before anything else is done; so the end of collections is a step of its own.

## Key results

- `Outside.member`, `Outside.quotedMember`, `Outside.keyLine`: a line with a key
- `Outside.entry`: the hyphen of an item
- `Outside.unindent`: what the start of another line ends
- `Outside.run?_end`: the end of the text
-/

namespace TokenAtlas.Yaml

namespace TokenReader

/-! ## Places outside of flow collections -/

/-- Where a reader is outside of flow collections.  `blocks` are the columns of the block
    collections around it. -/
structure Outside (blocks : Int × List Int) (column : Nat) (st : TokenReader) (keyAllowed : Bool)
    (tokens : List Token) (rest : List Char) : Prop where
  flow : st.flow = 0
  keys : st.keys = [none]
  column : st.mark.column = column
  blocks : (st.indent, st.indents) = blocks
  keyAllowed : st.keyAllowed = keyAllowed
  tokens : st.tokens = tokens
  rest : st.rest = rest

/-- What a token of a collection does to the columns of the block collections around it: it opens
    one to their right, or belongs to the innermost one. -/
inductive Opens (t : Token) (column : Nat) :
    Int × List Int → Int × List Int → List Token → Prop
  | deeper {indent : Int} (indents : List Int) (h : indent < column) :
    Opens t column (indent, indents) (column, indent :: indents) [t]
  | level (indents : List Int) : Opens t column (column, indents) (column, indents) []

/-- A text at its end, or one whose first character begins a token. -/
def BeginsToken (rest : List Char) : Prop :=
  ∀ c ∈ rest.head?, counts c = true ∧ c.toNat < 128

variable {blocks blocks' : Int × List Int} {indent : Int} {indents : List Int} {column m : Nat}
  {st : TokenReader} {keyAllowed : Bool} {tokens begun : List Token} {c : Char}
  {rest : List Char}

theorem Opens.fst_eq {t : Token} (h : Opens t column blocks blocks' begun) :
    blocks'.1 = column := by
  cases h <;> rfl

theorem Opens.le {t : Token} (h : Opens t column blocks blocks' begun) : blocks.1 ≤ column := by
  cases h with
  | deeper _ h => exact Int.le_of_lt h
  | level => exact Int.le_refl _

/-- A token that opens a collection is put in only where the collection is a new one. -/
theorem openBlock_eq {t : Token} (hflow : st.flow = 0) (hblocks : (st.indent, st.indents) = blocks)
    (hopens : Opens t column blocks blocks' begun) (put : TokenReader → TokenReader) :
    st.openBlock column put =
      (if begun = [] then id else put) { st with indent := blocks'.1, indents := blocks'.2 } := by
  have hflow' : (st.flow == 0) = true := beq_iff_eq.2 hflow
  cases hopens with
  | deeper indents hdeeper =>
    obtain ⟨rfl, rfl⟩ := Prod.mk.inj hblocks
    simp only [openBlock, hflow', hdeeper, decide_true, Bool.and_true, if_true, List.cons_ne_nil,
      if_false]
  | level indents =>
    obtain ⟨hindent, rfl⟩ := Prod.mk.inj hblocks
    have hlevel : ¬ st.indent < (column : Int) := hindent ▸ Int.lt_irrefl _
    simp only [openBlock, hlevel, decide_false, Bool.and_false, Bool.false_eq_true, if_false,
      if_true]
    rw [← hindent]
    rfl

theorem beginsToken_bare {w : List Char} (hw : IsBare w) (rest : List Char) :
    BeginsToken (w ++ rest) := by
  obtain ⟨c, t, rfl⟩ := List.exists_cons_of_ne_nil hw.ne_nil
  have hc := hw.chars c List.mem_cons_self
  intro x hx
  obtain rfl : c = x := by simpa using hx
  exact ⟨forall_bare (P := (counts · = true)) (by decide) hc, toNat_lt_of_bare hc⟩

theorem startsWith_hash_bare {w : List Char} (hw : IsBare w) : startsWith '#' w = false := by
  obtain ⟨c, t, rfl⟩ := List.exists_cons_of_ne_nil hw.ne_nil
  rw [startsWith, beq_eq_false_iff_ne]
  exact forall_bare (P := (· ≠ '#')) (by decide) (hw.chars c List.mem_cons_self)

/-! ## Blanks -/

theorem Mark.afterAll_of_not_break {s : List Char} (k : Mark) (h : ∀ c ∈ s, isBreak c = false) :
    k.afterAll s = ⟨k.index + s.length, k.line, k.column + s.length⟩ := by
  induction s generalizing k with
  | nil => rfl
  | cons c s ih =>
    obtain ⟨hc, hs⟩ := List.forall_mem_cons.1 h
    rw [Mark.afterAll, List.foldl_cons, ← Mark.afterAll, ih _ hs, Mark.after_of_not_break hc,
      List.length_cons]
    simp only [Mark.mk.injEq, true_and]
    omega

theorem column_afterAll_spaces (k : Mark) (n : Nat) :
    (k.afterAll (List.replicate n ' ')).column = k.column + n := by
  rw [Mark.column_afterAll, List.length_replicate]
  intro c hc
  rw [List.eq_of_mem_replicate hc]
  rfl

theorem skipBlanks_spaces (block allowed : Bool) (k : Mark) (n : Nat) (rest : List Char) :
    skipBlanks block allowed false k (List.replicate n ' ' ++ rest) =
      skipBlanks block allowed false (k.afterAll (List.replicate n ' ')) rest := by
  induction n generalizing k with
  | zero => rfl
  | succ n ih =>
    rw [List.replicate_succ, List.cons_append]
    exact ih (k.after ' ')

theorem toToken_of_beginsToken (h : BeginsToken st.rest) : st.toToken = st := by
  have hskip : skipBlanks (st.flow == 0) st.keyAllowed false st.mark st.rest =
      (st.mark, st.rest, st.keyAllowed) := by
    cases hrest : st.rest with
    | nil => rfl
    | cons c rest =>
      obtain ⟨hc, hascii⟩ := h c (by rw [hrest]; rfl)
      simp only [counts, isBlank, Bool.and_eq_true, Bool.not_eq_true', Bool.or_eq_false_iff,
        bne_iff_ne, ne_eq] at hc
      obtain ⟨⟨⟨hspace, htab⟩, hbreak⟩, hhash⟩ := hc
      have hmark : (c.toNat == 0xFEFF) = false := by
        rw [beq_eq_false_iff_ne]
        omega
      simp [skipBlanks, hspace, htab, hbreak, hhash, hmark]
  rw [toToken, hskip]

/-- The spaces before a line, after a line break. -/
theorem readGap?_indentation {indent : Int} {g : Gap} {k : Mark} {n : Nat} (hg : g.broken = true)
    (hrest : BeginsToken rest) :
    readGap? indent g k (List.replicate n ' ' ++ rest) =
      some ⟨g, k.afterAll (List.replicate n ' '), rest⟩ := by
  induction n generalizing k with
  | zero =>
    cases rest with
    | nil => rfl
    | cons c rest =>
      obtain ⟨hc, -⟩ := hrest c rfl
      simp only [counts, Bool.and_eq_true, Bool.not_eq_true'] at hc
      simp [readGap?, hc, Mark.afterAll]
  | succ n ih =>
    have hspace : isBlank ' ' = true ∧ (' ' == '\t') = false := by decide
    simp only [List.replicate_succ, List.cons_append, readGap?, hspace, if_true, Bool.and_false,
      Bool.false_eq_true, if_false, Gap.addBlank, hg, ih]
    rfl

/-- A word at the end of a line, before a line that is indented too little to belong to it. -/
theorem readPlain?_lineEnd {indent : Int} {k : Mark} {w : List Char} {n : Nat} (hw : IsBare w)
    (hsign : atDocumentSign k (w ++ '\n' :: (List.replicate n ' ' ++ rest)) = false)
    (hn : n < indent) (hrest : BeginsToken rest) :
    readPlain? false indent k (w ++ '\n' :: (List.replicate n ' ' ++ rest)) =
      some ⟨(w, true), ((k.afterAll w).after '\n').afterAll (List.replicate n ' '), rest⟩ := by
  have hhash : startsWith '#' (w ++ '\n' :: (List.replicate n ' ' ++ rest)) = false := by
    rw [startsWith_append hw.ne_nil, startsWith_hash_bare hw]
  have hlet : (isBlank '\n' = false ∧ isBreak '\n' = true) := by decide
  -- The line break ends the word, and the scalar ends with it, since the next line is not indented.
  have hstop : readPlainWord? false (k.afterAll w) ('\n' :: (List.replicate n ' ' ++ rest)) =
      some ⟨[], k.afterAll w, '\n' :: (List.replicate n ' ' ++ rest)⟩ := by
    simp only [readPlainWord?, hlet, Bool.or_true, if_true]
  have hgap : readGap? indent {} (k.afterAll w) ('\n' :: (List.replicate n ' ' ++ rest)) =
      some ⟨{ broken := true, first := some '\n' },
        ((k.afterAll w).after '\n').afterAll (List.replicate n ' '), rest⟩ := by
    simp only [readGap?, hlet, Bool.false_eq_true, if_false, if_true]
    exact readGap?_indentation rfl hrest
  have hcolumn : ((((k.afterAll w).after '\n').afterAll (List.replicate n ' ')).column : Int) <
      indent := by
    rw [column_afterAll_spaces]
    simpa [Mark.after, hlet] using hn
  have hempty : w.isEmpty = false := by simpa using hw.ne_nil
  simp only [readPlain?, readPlainWords?, hsign, hhash, Bool.or_self, Bool.false_eq_true, if_false,
    readPlainWord?_append_of_plain hw.plainChars, hstop, Option.map_some, List.append_nil, hempty,
    List.isEmpty_cons, endsWord, hlet, Bool.or_true, Bool.not_true, hgap, Bool.not_false,
    Bool.true_and, decide_eq_true_eq, hcolumn, if_true]
  rfl

/-- What is left after block collections are ended reaches no further to the right. -/
theorem closeBlocks_le (column : Nat) (tokens : List Token) (indent : Int) (indents : List Int) :
    (closeBlocks column tokens indent indents).1 ≤ column := by
  induction indents generalizing indent tokens with
  | nil =>
    rw [closeBlocks]
    split <;> simp only <;> omega
  | cons outer indents ih =>
    rw [closeBlocks]
    split
    · exact ih _ outer
    · simp only
      omega

/-- All collections are ended, whether some of them are ended before or not. -/
theorem closeBlocks_closeBlocks (column : Nat) (tokens : List Token) (indent : Int)
    (indents : List Int) :
    (closeBlocks (-1) (closeBlocks column tokens indent indents).2.2
      (closeBlocks column tokens indent indents).1
      (closeBlocks column tokens indent indents).2.1).2.2 =
        (closeBlocks (-1) tokens indent indents).2.2 := by
  -- The induction follows the collections outwards; the first that stays is reached by both.
  induction indents generalizing indent tokens with
  | nil =>
    by_cases hlt : (column : Int) < indent
    · have hall : (-1 : Int) < indent := by omega
      simp [closeBlocks, hlt, hall]
    · simp [closeBlocks, hlt]
  | cons outer indents ih =>
    by_cases hlt : (column : Int) < indent
    · have hall : (-1 : Int) < indent := by omega
      simp only [closeBlocks, hlt, hall, if_true]
      exact ih _ outer
    · have hsame : closeBlocks column tokens indent (outer :: indents) =
          (indent, outer :: indents, tokens) := closeBlocks_of_le (Int.not_lt.1 hlt) _
      rw [hsame]

theorem closeBlocks_cons_of_lt {column : Int} (h : column < indent) (tokens : List Token)
    (outer : Int) (indents : List Int) :
    closeBlocks column tokens indent (outer :: indents) =
      closeBlocks column (.blockEnd :: tokens) outer indents := by
  rw [closeBlocks, if_pos h]

namespace Outside

/-- Where a token begins, no blanks are passed over. -/
theorem toToken_eq (h : Outside blocks column st keyAllowed tokens rest)
    (hrest : BeginsToken rest) : st.toToken = st :=
  toToken_of_beginsToken (h.rest ▸ hrest)

/-- Spaces between tokens. -/
theorem spaces {n : Nat}
    (h : Outside blocks column st keyAllowed tokens (List.replicate n ' ' ++ rest)) :
    ∃ st', Passes st st' ∧ Outside blocks (column + n) st' keyAllowed tokens rest := by
  let st' : TokenReader := { st with mark := st.mark.afterAll (List.replicate n ' '), rest }
  have hcolumn : st'.mark.column = column + n := by
    rw [column_afterAll_spaces, h.column]
  have htoken : st.toToken = st'.toToken := by
    simp only [toToken, st', h.rest, skipBlanks_spaces]
  refine ⟨st', .of_next?_eq ?_ ?_, ⟨h.flow, h.keys, hcolumn, h.blocks, h.keyAllowed, h.tokens, rfl⟩⟩
  · rw [TokenReader.next?, TokenReader.next?, htoken]
  · rw [h.rest, List.length_append]
    exact Nat.le_add_left _ _

/-- A line break, and the spaces before what is on the next line. -/
theorem newline {n : Nat} (h : Outside blocks column st keyAllowed tokens
      ('\n' :: (List.replicate n ' ' ++ rest))) :
    ∃ st', Passes st st' ∧ Outside blocks n st' true tokens rest := by
  let st₁ : TokenReader :=
    { st with mark := st.mark.after '\n', rest := List.replicate n ' ' ++ rest, keyAllowed := true }
  have hflow : (st.flow == 0) = true := beq_iff_eq.2 h.flow
  have hbreak : Outside blocks 0 st₁ true tokens (List.replicate n ' ' ++ rest) :=
    ⟨h.flow, h.keys, rfl, h.blocks, rfl, h.tokens, rfl⟩
  -- The break is passed over as a blank is, but the reader keeps that a key may begin behind it.
  have htoken : st.toToken = st₁.toToken := by
    have hlet : isBreak '\n' = true := by decide
    simp only [toToken, st₁, h.rest, hflow, skipBlanks, hlet, if_true, Bool.or_true]
  have hpass : Passes st st₁ := by
    refine .of_next?_eq ?_ ?_
    · rw [TokenReader.next?, TokenReader.next?, htoken]
    · rw [h.rest, hbreak.rest, List.length_cons]
      exact Nat.le_succ _
  obtain ⟨st', hpass', h'⟩ := hbreak.spaces
  exact ⟨st', hpass.trans hpass', by rwa [Nat.zero_add] at h'⟩

/-! ## The next token -/

theorem dropStale?_eq (h : Outside blocks column st keyAllowed tokens rest) :
    st.dropStale? = some st := by
  obtain ⟨mark, rest, indent, indents, flow, keyAllowed, keys, tokens⟩ := st
  obtain rfl : keys = [none] := h.keys
  rfl

theorem unindent_eq (h : Outside (indent, indents) column st keyAllowed tokens rest) :
    st.unindent column = { st with
      indent := (closeBlocks column tokens indent indents).1
      indents := (closeBlocks column tokens indent indents).2.1
      tokens := (closeBlocks column tokens indent indents).2.2 } := by
  obtain ⟨hindent, hindents⟩ := Prod.mk.inj h.blocks
  have hflow : (st.flow == 0) = true := beq_iff_eq.2 h.flow
  simp only [TokenReader.unindent, hflow, if_true, h.tokens, hindent, hindents]

/-- Inside of all block collections around it, a token is taken at once. -/
theorem next?_eq (h : Outside blocks column st keyAllowed tokens (c :: rest))
    (hrest : BeginsToken (c :: rest)) (hindent : blocks.1 ≤ column) :
    st.next? = (st.takeAt? c rest).map (·, false) := by
  have hclose : st.unindent st.mark.column = st := by
    have hindent' : st.indent ≤ st.mark.column := by
      have hfst : st.indent = blocks.1 := congrArg Prod.fst h.blocks
      rwa [h.column, hfst]
    have hflow : (st.flow == 0) = true := beq_iff_eq.2 h.flow
    simp only [TokenReader.unindent, hflow, if_true, closeBlocks_of_le hindent']
  simp only [TokenReader.next?, h.toToken_eq hrest, h.dropStale?_eq, Option.bind_eq_bind,
    Option.bind_some, hclose, h.rest]

theorem passes {st₁ : TokenReader} (h : Outside blocks column st keyAllowed tokens (c :: rest))
    (hrest : BeginsToken (c :: rest)) (hindent : blocks.1 ≤ column)
    (htake : st.takeAt? c rest = some st₁) (hlength : st₁.rest.length ≤ rest.length) :
    Passes st st₁ := by
  refine .next ?_ ?_
  · rw [h.next?_eq hrest hindent, htake]
    rfl
  · rw [h.rest, List.length_cons]
    omega

/-- To the left of block collections, these are ended first. -/
theorem unindent (h : Outside (indent, indents) column st keyAllowed tokens rest)
    (hrest : BeginsToken rest) :
    ∃ st', Passes st st' ∧ Outside ((closeBlocks column tokens indent indents).1,
      (closeBlocks column tokens indent indents).2.1) column st' keyAllowed
        (closeBlocks column tokens indent indents).2.2 rest := by
  have h' : Outside ((closeBlocks column tokens indent indents).1,
      (closeBlocks column tokens indent indents).2.1) column (st.unindent column) keyAllowed
        (closeBlocks column tokens indent indents).2.2 rest := by
    rw [h.unindent_eq]
    exact ⟨h.flow, h.keys, h.column, rfl, h.keyAllowed, rfl, h.rest⟩
  -- Ending them a second time ends nothing, so both readers find the same token next.
  have hagain : (st.unindent column).unindent column = st.unindent column := by
    rw [h'.unindent_eq, closeBlocks_of_le (closeBlocks_le column tokens indent indents),
      h.unindent_eq]
  refine ⟨st.unindent column, .of_next?_eq ?_ ?_, h'⟩
  · simp only [TokenReader.next?, h.toToken_eq hrest, h'.toToken_eq hrest, h.dropStale?_eq,
      h'.dropStale?_eq, Option.bind_eq_bind, Option.bind_some, h.column, h'.column, hagain]
  · rw [h.rest, h'.rest]

/-- A bare word that begins with no hyphen or point is a plain scalar. -/
theorem takeAt?_bare (hc : isBareChar c = true) (hhyphen : c ≠ '-') (hpoint : c ≠ '.')
    (st : TokenReader) (rest : List Char) : st.takeAt? c rest = st.takePlain? := by
  have hsign : atDocumentSign st.mark (c :: rest) = false := by
    simp [atDocumentSign, hhyphen, hpoint]
  have hother : c ∉ "%[]\x7b\x7d,?:*&!|>'\"".toList :=
    forall_bare (P := (· ∉ "%[]\x7b\x7d,?:*&!|>'\"".toList)) (by decide) hc
  simp only [String.reduceToList, List.mem_cons, List.not_mem_nil, or_false, not_or] at hother
  simp [takeAt?, hsign, hother, hhyphen, beginsPlain_of_bare hc hhyphen]

theorem passes_word {w : List Char} {st₁ : TokenReader}
    (h : Outside blocks column st keyAllowed tokens (w ++ rest)) (hw : IsLineWord w)
    (hindent : blocks.1 ≤ column) (htake : st.takePlain? = some st₁)
    (hlength : st₁.rest.length ≤ rest.length) : Passes st st₁ := by
  have hbegins := beginsToken_bare hw.toIsBare rest
  obtain ⟨c, t, rfl⟩ := List.exists_cons_of_ne_nil hw.ne_nil
  obtain ⟨hhyphen, hpoint⟩ := hw.head c rfl
  refine h.passes hbegins hindent ?_ ?_
  · rw [takeAt?_bare (hw.chars c List.mem_cons_self) hhyphen hpoint, htake]
  · show st₁.rest.length ≤ (t ++ rest).length
    rw [List.length_append]
    omega

/-! ### Keys -/

/-- The reader after a word that may be a key. -/
def afterWord (st : TokenReader) (w rest : List Char) : TokenReader where
  mark := st.mark.afterAll w
  rest := rest
  indent := st.indent
  indents := st.indents
  flow := 0
  keyAllowed := false
  keys := [some ⟨st.indent == st.mark.column, st.tokens.length, st.mark⟩]
  tokens := .scalar (String.ofList w) true :: st.tokens

/-- A word that begins with no hyphen or point is not taken for a sign that bounds documents. -/
theorem atDocumentSign_word {w : List Char} (hw : IsLineWord w) (k : Mark) (rest : List Char) :
    atDocumentSign k (w ++ rest) = false := by
  obtain ⟨c, t, rfl⟩ := List.exists_cons_of_ne_nil hw.ne_nil
  obtain ⟨hhyphen, hpoint⟩ := hw.head c rfl
  simp [atDocumentSign, hhyphen, hpoint]

theorem takePlain?_key {w : List Char} (h : Outside blocks column st true tokens (w ++ ':' :: rest))
    (hw : IsLineWord w) (hend : endsWord rest = true) :
    st.takePlain? = some (afterWord st w (':' :: rest)) := by
  obtain ⟨mark, text, indent, indents, flow, keyAllowed, keys, found⟩ := st
  obtain ⟨rfl, rfl, -, -, rfl, -, rfl⟩ := h
  have hstray : isStrayColon false (':' :: rest) = false := by cases rest <;> rfl
  have hends : endsPlain false (':' :: rest) = true := by simp [endsPlain, hend]
  have hread : readPlain? false (indent + 1) mark (w ++ ':' :: rest) =
      some ⟨(w, false), mark.afterAll w, ':' :: rest⟩ :=
    readPlain?_word hw.ne_nil hw.plainChars (atDocumentSign_word hw _ _)
      (startsWith_hash_bare hw.toIsBare) rfl hstray hends
  have hflow : (0 != 0) = false := rfl
  simp only [takePlain?, saveKey?, dropKey?, if_true, Option.map_some, Option.bind_eq_bind,
    Option.bind_some, hflow, hread]
  rfl

/-- The colon after a word that may be a key. -/
theorem next?_afterWord {w : List Char}
    (h : Outside blocks column st true tokens (w ++ ':' :: rest)) (hw : IsBare w)
    (hlength : w.length ≤ keyLimit) (hindent : blocks.1 ≤ column)
    (hend : endsWord rest = true) :
    (afterWord st w (':' :: rest)).next? =
      (afterWord st w (':' :: rest)).takeValue?.map (·, false) := by
  have hmark := Mark.afterAll_of_not_break st.mark fun c hc => (hw.printable c hc).not_break
  have htoken : (afterWord st w (':' :: rest)).toToken = afterWord st w (':' :: rest) := by
    refine toToken_of_beginsToken fun c hc => ?_
    obtain rfl : ':' = c := by simpa [afterWord] using hc
    exact ⟨rfl, by decide⟩
  -- The word is on this line and short enough, so it may still become a key.
  have hstale : (afterWord st w (':' :: rest)).dropStale? =
      some (afterWord st w (':' :: rest)) := by
    have hfresh (required : Bool) :
        isStale (st.mark.afterAll w) ⟨required, st.tokens.length, st.mark⟩ = false := by
      simp only [isStale, hmark, Bool.or_eq_false_iff, decide_eq_false_iff_not]
      omega
    simp [TokenReader.dropStale?, afterWord, hfresh]
  have hclose : (afterWord st w (':' :: rest)).unindent (afterWord st w (':' :: rest)).mark.column =
      afterWord st w (':' :: rest) := by
    have hindent' : st.indent ≤ (st.mark.afterAll w).column := by
      have hfst : st.indent = blocks.1 := congrArg Prod.fst h.blocks
      rw [hmark, hfst]
      refine hindent.trans ?_
      show (column : Int) ≤ ((st.mark.column + w.length : Nat) : Int)
      rw [h.column]
      omega
    simp only [TokenReader.unindent, afterWord, closeBlocks_of_le hindent']
    rfl
  have htake : (afterWord st w (':' :: rest)).takeAt? ':' rest =
      (afterWord st w (':' :: rest)).takeValue? := by
    simp [takeAt?, atDocumentSign, afterWord, hend]
  simp only [TokenReader.next?, htoken, hstale, Option.bind_eq_bind, Option.bind_some, hclose]
  exact congrArg (Option.map (·, false)) htake

/-- The tokens for a key and for the mapping that it opens are put in before the word. -/
theorem takeValue?_afterWord {w : List Char}
    (h : Outside blocks column st true tokens (w ++ ':' :: rest)) (hw : IsBare w)
    (hopens : Opens .blockMappingStart column blocks blocks' begun) :
    ∃ st', (afterWord st w (':' :: rest)).takeValue? = some st' ∧
      Outside blocks' (column + w.length + 1) st' false
        (.value :: .scalar (String.ofList w) true :: .key :: (begun ++ tokens)) rest := by
  have hcolumn : ((st.mark.afterAll w).after ':').column = column + w.length + 1 := by
    rw [Mark.afterAll_of_not_break st.mark fun c hc => (hw.printable c hc).not_break, ← h.column]
    rfl
  let keyed : TokenReader := { afterWord st w (':' :: rest) with
    tokens := .scalar (String.ofList w) true :: .key :: st.tokens }
  have hkeyed : (afterWord st w (':' :: rest)).emitAt st.tokens.length .key = keyed := by
    simp [emitAt, afterWord, keyed]
  have hblocks : (keyed.indent, keyed.indents) = blocks := h.blocks
  -- The token for the key goes in before the word, and then the one that opens a mapping before it.
  have htake : (afterWord st w (':' :: rest)).takeValue? = some
      ({ (((afterWord st w (':' :: rest)).emitAt st.tokens.length .key).openBlock st.mark.column
          (·.emitAt st.tokens.length .blockMappingStart)) with
        keys := [none], keyAllowed := false }.pass.emit .value) := rfl
  rw [htake, hkeyed, h.column, openBlock_eq rfl hblocks hopens, h.tokens]
  refine ⟨_, rfl, ?_⟩
  cases hopens with
  | deeper indents =>
    have hplace : (Token.scalar (String.ofList w) true :: Token.key :: tokens).length -
        tokens.length = 2 := by
      simp only [List.length_cons]
      omega
    simp only [List.cons_ne_nil, if_false, emitAt, keyed, h.tokens, hplace, pass, emit, afterWord]
    exact ⟨rfl, rfl, hcolumn, rfl, rfl, rfl, rfl⟩
  | level indents => exact ⟨rfl, rfl, hcolumn, rfl, rfl, by rw [← h.tokens]; rfl, rfl⟩

/-- A key before its colon, which opens a block mapping or belongs to one. -/
theorem key {w : List Char} (h : Outside blocks column st true tokens (w ++ ':' :: rest))
    (hw : IsLineWord w) (hlength : w.length ≤ keyLimit)
    (hopens : Opens .blockMappingStart column blocks blocks' begun) (hend : endsWord rest = true) :
    ∃ st', Passes st st' ∧ Outside blocks' (column + w.length + 1) st' false
      (.value :: .scalar (String.ofList w) true :: .key :: (begun ++ tokens)) rest := by
  have hword : Passes st (afterWord st w (':' :: rest)) :=
    h.passes_word hw hopens.le (h.takePlain?_key hw hend) (Nat.le_refl _)
  have hnext := h.next?_afterWord hw.toIsBare hlength hopens.le hend
  obtain ⟨st', htake, h'⟩ := h.takeValue?_afterWord hw.toIsBare hopens
  rw [htake] at hnext
  refine ⟨st', hword.trans (.next hnext ?_), h'⟩
  rw [h'.rest]
  exact Nat.lt_succ_self _

/-! ### Values -/

/-- A word as a value, at the end of a line.  The line break and the spaces after it are read with
    the word, and a key may begin behind them. -/
theorem word {w : List Char} {n : Nat} (h : Outside blocks column st false tokens
      (w ++ '\n' :: (List.replicate n ' ' ++ rest)))
    (hw : IsLineWord w) (hindent : blocks.1 ≤ column)
    (hn : n ≤ blocks.1) (hrest : BeginsToken rest) :
    ∃ st', Passes st st' ∧
      Outside blocks n st' true (.scalar (String.ofList w) true :: tokens) rest := by
  -- The word is followed up to the first token of the next line, where a key may begin again.
  let mark := ((st.mark.afterAll w).after '\n').afterAll (List.replicate n ' ')
  let st' : TokenReader := { st with
    mark, rest, keyAllowed := true, tokens := .scalar (String.ofList w) true :: st.tokens }
  have hplain : st.takePlain? = some st' := by
    obtain ⟨st_mark, text, indent, indents, flow, keyAllowed, keys, found⟩ := st
    obtain ⟨rfl, rfl, -, rfl, rfl, -, rfl⟩ := h
    have hread : readPlain? false (indent + 1) st_mark
        (w ++ '\n' :: (List.replicate n ' ' ++ rest)) = some ⟨(w, true), mark, rest⟩ :=
      readPlain?_lineEnd hw.toIsBare (atDocumentSign_word hw _ _) (Int.lt_add_one_of_le hn) hrest
    have hflow : (0 != 0) = false := rfl
    simp only [takePlain?, saveKey?, Bool.false_eq_true, if_false, Option.bind_eq_bind,
      Option.bind_some, hflow, hread]
    rfl
  have hcolumn : mark.column = n := by
    rw [column_afterAll_spaces]
    exact Nat.zero_add n
  refine ⟨st', h.passes_word hw hindent hplain ?_, h.flow, h.keys, hcolumn, h.blocks, rfl,
    by rw [← h.tokens], rfl⟩
  show rest.length ≤ ('\n' :: (List.replicate n ' ' ++ rest)).length
  simp only [List.length_append, List.length_cons]
  omega

/-- A string as JSON writes it, as a value. -/
theorem quoted {s : String}
    (h : Outside blocks column st false tokens (Json.renderString s ++ rest))
    (hs : ∀ c ∈ s.toList, IsPrintable c) (hindent : blocks.1 ≤ column) :
    ∃ column' st', Passes st st' ∧
      Outside blocks column' st' false (.scalar s false :: tokens) rest := by
  have hrest : st.rest = '"' :: (s.toList.flatMap Json.escapeChar ++ '"' :: rest) := by
    rw [h.rest, Json.renderString, List.cons_append, List.append_assoc]
    rfl
  have hmark : 0 < (st.mark.after '"').column := by
    rw [Mark.after_of_not_break (by decide)]
    exact Nat.succ_pos _
  let mark := ((st.mark.after '"').afterAll (s.toList.flatMap Json.escapeChar)).after '"'
  have hread : readQuoted? true (st.mark.after '"')
      (s.toList.flatMap Json.escapeChar ++ '"' :: rest) = some ⟨s.toList, mark, rest⟩ :=
    readQuoted?_escaped hs hmark
  -- No key may begin here, so the scalar is added and no place for a key is kept.
  let st' : TokenReader := { st with
    mark, rest, keyAllowed := false, tokens := .scalar s false :: st.tokens }
  have hquoted : st.takeQuoted? true = some st' := by
    have hsave : st.saveKey? = some st := by
      rw [saveKey?, h.keyAllowed, if_neg Bool.false_ne_true]
    simp only [takeQuoted?, hsave, Option.bind_eq_bind, Option.bind_some, pass_eq hrest, hread,
      String.ofList_toList]
    rfl
  rw [h.rest] at hrest
  rw [hrest] at h
  refine ⟨mark.column, st', h.passes ?_ hindent ?_ ?_,
    h.flow, h.keys, rfl, h.blocks, rfl, by rw [← h.tokens], rfl⟩
  · intro c hc
    obtain rfl : '"' = c := by simpa using hc
    exact ⟨rfl, by decide⟩
  · rw [← hquoted]
    simp [takeAt?, atDocumentSign]
  · show rest.length ≤ (s.toList.flatMap Json.escapeChar ++ '"' :: rest).length
    rw [List.length_append, List.length_cons]
    omega

/-! ### Members on a line -/

/-- A key and a word for its value, up to the next line. -/
theorem member {key word : List Char} {n : Nat} (h : Outside blocks column st true tokens
      (key ++ ':' :: ' ' :: (word ++ '\n' :: (List.replicate n ' ' ++ rest))))
    (hkey : IsLineWord key) (hlength : key.length ≤ keyLimit) (hword : IsLineWord word)
    (hopens : Opens .blockMappingStart column blocks blocks' begun) (hn : n ≤ column)
    (hrest : BeginsToken rest) :
    ∃ st', Passes st st' ∧ Outside blocks' n st' true (.scalar (String.ofList word) true ::
      .value :: .scalar (String.ofList key) true :: .key :: (begun ++ tokens)) rest := by
  have hle : blocks'.1 = column := hopens.fst_eq
  obtain ⟨st₁, hpass₁, h₁⟩ := h.key hkey hlength hopens rfl
  obtain ⟨st₂, hpass₂, h₂⟩ := spaces (n := 1) h₁
  obtain ⟨st', hpass', h'⟩ := h₂.word hword (by omega) (by omega) hrest
  exact ⟨st', hpass₁.trans (hpass₂.trans hpass'), h'⟩

/-- A key and a string for its value, up to the next line. -/
theorem quotedMember {key : List Char} {value : String} {n : Nat}
    (h : Outside blocks column st true tokens (key ++ ':' :: ' ' ::
      (Json.renderString value ++ '\n' :: (List.replicate n ' ' ++ rest))))
    (hkey : IsLineWord key) (hlength : key.length ≤ keyLimit)
    (hvalue : ∀ c ∈ value.toList, IsPrintable c)
    (hopens : Opens .blockMappingStart column blocks blocks' begun) :
    ∃ st', Passes st st' ∧ Outside blocks' n st' true (.scalar value false ::
      .value :: .scalar (String.ofList key) true :: .key :: (begun ++ tokens)) rest := by
  have hle : blocks'.1 = column := hopens.fst_eq
  obtain ⟨st₁, hpass₁, h₁⟩ := h.key hkey hlength hopens rfl
  obtain ⟨st₂, hpass₂, h₂⟩ := spaces (n := 1) h₁
  obtain ⟨_, st₃, hpass₃, h₃⟩ := h₂.quoted hvalue (by omega)
  obtain ⟨st', hpass', h'⟩ := h₃.newline
  exact ⟨st', hpass₁.trans (hpass₂.trans (hpass₃.trans hpass')), h'⟩

/-- A key whose value begins on the next line. -/
theorem keyLine {key : List Char} {n : Nat} (h : Outside blocks column st true tokens
      (key ++ ':' :: '\n' :: (List.replicate n ' ' ++ rest)))
    (hkey : IsLineWord key) (hlength : key.length ≤ keyLimit)
    (hopens : Opens .blockMappingStart column blocks blocks' begun) :
    ∃ st', Passes st st' ∧ Outside blocks' n st' true
      (.value :: .scalar (String.ofList key) true :: .key :: (begun ++ tokens)) rest := by
  obtain ⟨st₁, hpass₁, h₁⟩ := h.key hkey hlength hopens rfl
  obtain ⟨st', hpass', h'⟩ := h₁.newline
  exact ⟨st', hpass₁.trans hpass', h'⟩

/-! ### Items -/

/-- The hyphen of an item and the space after it, which opens a block sequence or belongs to one. -/
theorem entry (h : Outside blocks column st true tokens ('-' :: ' ' :: rest))
    (hopens : Opens .blockSequenceStart column blocks blocks' begun) :
    ∃ st', Passes st st' ∧
      Outside blocks' (column + 2) st' true (.blockEntry :: (begun ++ tokens)) rest := by
  have hbegins : BeginsToken ('-' :: ' ' :: rest) := by
    intro c hc
    obtain rfl : '-' = c := by simpa using hc
    exact ⟨rfl, by decide⟩
  -- The sequence is opened before the hyphen is passed over.
  let st₁ := st.openBlock st.mark.column (·.emit .blockSequenceStart)
  have hopen : Outside blocks' column st₁ true (begun ++ tokens) ('-' :: ' ' :: rest) := by
    have heq : st₁ = _ := openBlock_eq h.flow h.blocks (h.column ▸ hopens) _
    rw [heq]
    cases hopens with
    | deeper =>
      exact ⟨h.flow, h.keys, h.column, rfl, h.keyAllowed, congrArg (_ :: ·) h.tokens, h.rest⟩
    | level => exact { h with blocks := rfl }
  have hpass : ({ st₁ with keyAllowed := true } : TokenReader).pass = { st₁ with
      mark := st₁.mark.after '-', rest := ' ' :: rest, keyAllowed := true } :=
    pass_eq hopen.rest
  have htake : st.takeAt? '-' (' ' :: rest) =
      some ({ st₁ with keyAllowed := true }.pass.emit .blockEntry) := by
    have hend : endsWord (' ' :: rest) = true := rfl
    have hdrop : st₁.dropKey? = some st₁ := by
      rw [dropKey?, hopen.keys]
    simp [takeAt?, atDocumentSign, hend, takeBlockEntry?, h.keyAllowed, st₁, hdrop]
  have hentry : Outside blocks' (column + 1)
      ({ st₁ with keyAllowed := true }.pass.emit .blockEntry) true
        (.blockEntry :: (begun ++ tokens)) (List.replicate 1 ' ' ++ rest) := by
    rw [hpass]
    refine ⟨hopen.flow, hopen.keys, ?_, hopen.blocks, rfl, congrArg (_ :: ·) hopen.tokens, rfl⟩
    rw [← hopen.column]
    exact congrArg Mark.column (Mark.after_of_not_break (by decide))
  obtain ⟨st', hspaces, h'⟩ := hentry.spaces
  refine ⟨st', .trans (h.passes hbegins hopens.le htake ?_) hspaces, h'⟩
  rw [hentry.rest]
  exact Nat.le_refl _

/-! ### The end of the text -/

/-- At the end of the text, all block collections are ended. -/
theorem run?_end (h : Outside (indent, indents) column st keyAllowed tokens []) (fuel : Nat) :
    ∃ r, run? (fuel + 1) st = some r ∧
      r.tokens = (closeBlocks (-1) tokens indent indents).2.2 := by
  obtain ⟨st', ⟨n, hn, hpass⟩, h'⟩ := h.unindent nofun
  obtain rfl : n = 0 := by
    rw [h.rest, h'.rest] at hn
    exact Nat.eq_zero_of_le_zero hn
  obtain ⟨hindent, hindents⟩ := Prod.mk.inj h'.blocks
  have hfree : ∀ k, some k ∈ st'.keys → k.required = false := by
    rw [h'.keys]
    simp
  have hle : st'.indent ≤ st'.mark.column := by
    rw [h'.column, hindent]
    exact closeBlocks_le _ _ _ _
  obtain ⟨r, hnext, htokens⟩ := next?_end h'.flow h'.rest hfree hle
  refine ⟨r, ?_, ?_⟩
  · rw [← Nat.add_zero (fuel + 1), hpass, run?, hnext]
  · rw [htokens, h'.tokens, hindent, hindents, closeBlocks_closeBlocks]

end Outside

end TokenReader

/-! ## Texts of several lines -/

/-- The characters of texts of several lines: printable ones, and line breaks. -/
def IsText (c : Char) : Prop := IsPrintable c ∨ c = '\n'

theorem isText_of_mem_spaces {n : Nat} {c : Char} (h : c ∈ List.replicate n ' ') : IsText c := by
  rw [List.eq_of_mem_replicate h]
  exact .inl ⟨by decide, by decide⟩

/-- The tokens of a text, once its reader has come to the end. -/
theorem Token.ofText?_of_passes {s : List Char} {st : TokenReader} {indent : Int}
    {indents : List Int} {column : Nat} {keyAllowed : Bool} {tokens : List Token}
    (hs : ∀ c ∈ s, IsText c) (hpass : TokenReader.Passes (.start s) st)
    (hend : TokenReader.Outside (indent, indents) column st keyAllowed tokens []) :
    Token.ofText? (String.ofList s) =
      some (TokenReader.closeBlocks (-1) tokens indent indents).2.2.reverse := by
  have hpermitted : ∀ c ∈ s, isPermitted c = true := by
    intro c hc
    rcases hs c hc with hprintable | rfl
    · exact isPermitted_of_printable hprintable
    · decide
  have hunified : unifyBreaks s = s := by
    refine unifyBreaks_eq_self fun c hc => ?_
    rcases hs c hc with hprintable | rfl
    · exact hprintable.inLine.2
    · decide
  obtain ⟨n, hn, hrun⟩ := hpass
  have hlength : n ≤ s.length := by
    rw [hend.rest] at hn
    exact hn
  -- Every pass of the reader uses up a character, so there is fuel left for the end of the text.
  obtain ⟨fuel, hfuel⟩ : ∃ fuel, s.length + 1 = fuel + 1 + n := ⟨s.length - n, by omega⟩
  obtain ⟨r, hr, htokens⟩ := hend.run?_end fuel
  simp only [Token.ofText?, String.toList_ofList, List.all_eq_true.2 hpermitted, if_true, hunified,
    hfuel, hrun, hr, Option.map_some, htokens]

end TokenAtlas.Yaml
