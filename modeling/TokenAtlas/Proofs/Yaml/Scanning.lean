import TokenAtlas.Proofs.Yaml.FlowReader
import TokenAtlas.Proofs.Yaml.Words

/-!
# Reading tokens of a text of one line

`At` says where a reader of tokens is on the first line of a text, inside flow collections: what
tokens it has found, what follows, and whether a key may begin.  Places where keys may have begun
are left out, so that the steps of the reader can be put together: each theorem here says that from
one such place the reader comes to another, which is `Passes`.

## Key results

- `At.openMapping`, `At.closeMapping`, `At.comma`: the signs of flow collections
- `At.quotedKey`, `At.plainKey`: a key with its colon
- `At.quoted`, `At.plain`: a scalar
- `run?_lastSign`: the sign that ends the outermost collection ends the text
- `Token.ofText?_eq_some_iff`: the tokens of a text of one line
-/

namespace TokenAtlas.Yaml

namespace TokenReader

/-! ## Runs -/

/-- A reader comes to another one by reading tokens, of which each takes one character at least. -/
def Passes (st st' : TokenReader) : Prop :=
  ∃ n, n + st'.rest.length ≤ st.rest.length ∧ ∀ fuel, run? (fuel + n) st = run? fuel st'

namespace Passes

variable {st st' st'' : TokenReader}

theorem refl (st : TokenReader) : Passes st st := ⟨0, by omega, fun _ => rfl⟩

theorem trans (h : Passes st st') (h' : Passes st' st'') : Passes st st'' := by
  obtain ⟨n, hn, hrun⟩ := h
  obtain ⟨n', hn', hrun'⟩ := h'
  refine ⟨n' + n, by omega, fun fuel => ?_⟩
  rw [← Nat.add_assoc, hrun, hrun']

theorem next (h : st.next? = some (st', false)) (hrest : st'.rest.length < st.rest.length) :
    Passes st st' := by
  refine ⟨1, by omega, fun fuel => ?_⟩
  rw [run?, h]

/-- Readers that see the same next token end alike. -/
theorem of_next?_eq (h : st.next? = st'.next?) (hrest : st'.rest.length ≤ st.rest.length) :
    Passes st st' := by
  refine ⟨0, by omega, fun fuel => ?_⟩
  cases fuel with
  | zero => rfl
  | succ fuel => rw [Nat.add_zero, run?, run?, h]

end Passes

/-- Where a reader is inside flow collections on the first line of a text.  `blocks` are the columns
    of the block collections around it. -/
structure At (blocks : Int × List Int) (st : TokenReader) (flow : Nat) (keyAllowed : Bool)
    (tokens : List Token) (rest : List Char) : Prop where
  inside : Inside st
  mark : st.mark.FirstLine
  blocks : (st.indent, st.indents) = blocks
  flow : st.flow = flow
  keyAllowed : st.keyAllowed = keyAllowed
  tokens : st.tokens = tokens
  rest : st.rest = rest

/-- Whether a token begins at a character, as far as blanks, comments and line breaks go. -/
def counts (c : Char) : Bool := !isBlank c && !isBreak c && c != '#'

variable {blocks : Int × List Int} {st : TokenReader} {flow : Nat} {keyAllowed : Bool}
  {tokens : List Token} {c : Char} {rest : List Char}

namespace At

theorem toToken_eq (h : At blocks st flow keyAllowed tokens (c :: rest)) (hc : counts c = true) :
    st.toToken = st := by
  have hcolumn : (st.mark.column == 0) = false := by simpa using Nat.ne_of_gt h.mark.column
  simp only [counts, isBlank, Bool.and_eq_true, Bool.not_eq_true', Bool.or_eq_false_iff,
    bne_iff_ne, ne_eq] at hc
  obtain ⟨⟨⟨hspace, htab⟩, hbreak⟩, hhash⟩ := hc
  have hskip : skipBlanks (st.flow == 0) st.keyAllowed false st.mark st.rest =
      (st.mark, st.rest, st.keyAllowed) := by
    rw [h.rest]
    simp [skipBlanks, hspace, htab, hbreak, hhash, hcolumn]
  rw [toToken, hskip]

theorem refreshed (h : At blocks st flow keyAllowed tokens rest) :
    At blocks st.refreshed flow keyAllowed tokens rest :=
  ⟨h.inside.refreshed, h.mark, h.blocks, h.flow, h.keyAllowed, h.tokens, h.rest⟩

/-- What the next token does to the reader. -/
theorem passes {st₁ : TokenReader} (h : At blocks st flow keyAllowed tokens (c :: rest))
    (hc : counts c = true) (htake : st.refreshed.takeFlow? c rest = some st₁)
    (hrest : st₁.rest.length ≤ rest.length) : Passes st st₁ := by
  have htoken := h.toToken_eq hc
  refine .next ?_ ?_
  · have hcolumn : 0 < st.toToken.mark.column := htoken.symm ▸ h.mark.column
    have hrest : st.toToken.rest = c :: rest := htoken.symm ▸ h.rest
    rw [h.inside.next?_eq hcolumn hrest, htoken, htake]
    rfl
  · rw [h.rest, List.length_cons]
    omega

/-! ### Signs -/

theorem pass_emit (h : At blocks st flow keyAllowed tokens (c :: rest)) (hc : isBreak c = false)
    (t : Token) : At blocks (st.pass.emit t) flow keyAllowed (t :: tokens) rest := by
  rw [pass_eq h.rest]
  exact ⟨⟨h.inside.flow, h.inside.levels, h.inside.free⟩, h.mark.after hc, h.blocks, h.flow,
    h.keyAllowed, congrArg (t :: ·) h.tokens, rfl⟩

theorem opened (h : At blocks st flow keyAllowed tokens (c :: rest)) (hc : isBreak c = false)
    (t : Token) : At blocks (st.opened t) (flow + 1) true (t :: tokens) rest := by
  have hlevel : At blocks
      { st.saved with keys := none :: st.saved.keys, flow := st.flow + 1, keyAllowed := true }
      (flow + 1) true tokens (c :: rest) :=
    ⟨h.inside.saved.deeper true, h.mark, h.blocks, congrArg (· + 1) h.flow, rfl, h.tokens, h.rest⟩
  exact hlevel.pass_emit hc t

theorem closed (h : At blocks st (flow + 2) keyAllowed tokens (c :: rest)) (hc : isBreak c = false)
    (t : Token) : At blocks (st.closed t) (flow + 1) false (t :: tokens) rest := by
  have hflow : 1 < st.flow := by rw [h.flow]; omega
  have hlevel : At blocks
      { st with keys := st.keys.drop 1, flow := st.flow - 1, keyAllowed := false }
      (flow + 1) false tokens (c :: rest) :=
    ⟨h.inside.shallower hflow false, h.mark, h.blocks, congrArg (· - 1) h.flow, rfl, h.tokens,
      h.rest⟩
  exact hlevel.pass_emit hc t

theorem passed (h : At blocks st flow keyAllowed tokens (c :: rest)) (hc : isBreak c = false)
    (allowed : Bool) (t : Token) :
    At blocks (st.passed allowed t) flow allowed (t :: tokens) rest := by
  have hlevel :
      At blocks { st.unkeyed with keyAllowed := allowed } flow allowed tokens (c :: rest) :=
    ⟨h.inside.unkeyed.setKeyAllowed allowed, h.mark, h.blocks, h.flow, rfl, h.tokens, h.rest⟩
  exact hlevel.pass_emit hc t

/-- The brace or bracket that begins a collection. -/
theorem openMapping (h : At blocks st flow keyAllowed tokens ('\x7b' :: rest)) :
    ∃ st', Passes st st' ∧ At blocks st' (flow + 1) true (.flowMappingStart :: tokens) rest := by
  have hopened := h.refreshed.opened (by decide) .flowMappingStart
  exact ⟨_, h.passes (by decide) rfl (by rw [hopened.rest]), hopened⟩

theorem openSequence (h : At blocks st flow keyAllowed tokens ('[' :: rest)) :
    ∃ st', Passes st st' ∧ At blocks st' (flow + 1) true (.flowSequenceStart :: tokens) rest := by
  have hopened := h.refreshed.opened (by decide) .flowSequenceStart
  exact ⟨_, h.passes (by decide) rfl (by rw [hopened.rest]), hopened⟩

/-- The brace or bracket that ends a collection in another one. -/
theorem closeMapping (h : At blocks st (flow + 2) keyAllowed tokens ('\x7d' :: rest)) :
    ∃ st', Passes st st' ∧ At blocks st' (flow + 1) false (.flowMappingEnd :: tokens) rest := by
  have hclosed := h.refreshed.closed (by decide) .flowMappingEnd
  exact ⟨_, h.passes (by decide) rfl (by rw [hclosed.rest]), hclosed⟩

theorem closeSequence (h : At blocks st (flow + 2) keyAllowed tokens (']' :: rest)) :
    ∃ st', Passes st st' ∧ At blocks st' (flow + 1) false (.flowSequenceEnd :: tokens) rest := by
  have hclosed := h.refreshed.closed (by decide) .flowSequenceEnd
  exact ⟨_, h.passes (by decide) rfl (by rw [hclosed.rest]), hclosed⟩

/-- A comma. -/
theorem comma (h : At blocks st flow keyAllowed tokens (',' :: rest)) :
    ∃ st', Passes st st' ∧ At blocks st' flow true (.flowEntry :: tokens) rest := by
  have hpassed := h.refreshed.passed (by decide) true .flowEntry
  exact ⟨_, h.passes (by decide) rfl (by rw [hpassed.rest]), hpassed⟩

/-- A space between tokens. -/
theorem blank (h : At blocks st flow keyAllowed tokens (' ' :: rest)) :
    ∃ st', Passes st st' ∧ At blocks st' flow keyAllowed tokens rest := by
  let st' : TokenReader := { st with mark := st.mark.after ' ', rest }
  have hmark : st'.mark.FirstLine := h.mark.after (c := ' ') (by decide)
  have hat : At blocks st' flow keyAllowed tokens rest :=
    ⟨⟨h.inside.flow, h.inside.levels, h.inside.free⟩, hmark, h.blocks, h.flow, h.keyAllowed,
      h.tokens, rfl⟩
  -- Both readers skip the blanks before the next token, so they see the same one.
  have htoken : st.toToken = st'.toToken := by
    simp [toToken, st', h.rest, skipBlanks, isBreak]
  refine ⟨st', .of_next?_eq ?_ ?_, hat⟩
  · rw [TokenReader.next?, TokenReader.next?, htoken]
  · rw [h.rest]
    exact Nat.le_succ _

/-! ### Scalars -/

theorem scanned {α : Type} {r : Reading α} (h : At blocks st flow keyAllowed tokens rest)
    (hr : r.mark.FirstLine) (allowed : Bool) (t : Token) :
    At blocks (st.scanned r allowed t) flow allowed (t :: tokens) r.rest :=
  ⟨h.inside.scanned r allowed t, hr, h.blocks, h.flow, rfl, congrArg (t :: ·) h.tokens, rfl⟩

/-- A token that is read by a reader of its own and turns out to be a key. -/
theorem key {α : Type} {r : Reading α} {t : Token} {after : List Char}
    (h : At blocks st flow true tokens (c :: rest)) (hc : counts c = true)
    (htake : st.refreshed.takeFlow? c rest = some (st.refreshed.scanned r false t))
    (hr : r.mark.FirstLine) (hshort : r.mark.index ≤ st.mark.index + keyLimit)
    (hafter : r.rest = ':' :: after) (hlength : r.rest.length ≤ rest.length) :
    ∃ st', Passes st st' ∧ At blocks st' flow false (.value :: t :: .key :: tokens) after := by
  have hscanned : At blocks (st.refreshed.scanned r false t) flow false (t :: tokens)
      (':' :: after) := hafter ▸ h.refreshed.scanned hr false t
  -- The place where the key began is kept, and the colon comes soon enough.
  have hstale : isStale r.mark st.refreshed.keyHere = false := by
    have hline : ¬ st.mark.line < r.mark.line := by rw [h.mark.line, hr.line]; omega
    have hindex : ¬ st.mark.index + keyLimit < r.mark.index := by omega
    show (decide (st.mark.line < r.mark.line) || decide (st.mark.index + keyLimit < r.mark.index)) =
      false
    rw [decide_eq_false hline, decide_eq_false hindex]
    rfl
  have hkeys : (st.refreshed.scanned r false t).refreshed.keys =
      some st.refreshed.keyHere :: ((st.refreshed.keys.drop 1).map
        (·.filter (!isStale r.mark ·))) := by
    have hsaved : (st.refreshed.scanned r false t).keys =
        some st.refreshed.keyHere :: st.refreshed.keys.drop 1 := if_pos h.keyAllowed
    show (st.refreshed.scanned r false t).keys.map (·.filter (!isStale r.mark ·)) = _
    rw [hsaved, List.map_cons, Option.filter_some, hstale]
    rfl
  -- So the token for a key goes before the one that was read, which is now a key.
  have hkeyed : At blocks (st.refreshed.scanned r false t).refreshed.keyed flow false
      (t :: .key :: tokens) (':' :: after) := by
    refine { hscanned.refreshed with inside := hscanned.refreshed.inside.keyed, tokens := ?_ }
    simp only [keyed, hkeys, hscanned.refreshed.tokens]
    have hposition : st.refreshed.keyHere.position = tokens.length := congrArg _ h.tokens
    rw [hposition, List.length_cons, Nat.add_sub_cancel_left]
    rfl
  have hpassed := hkeyed.passed (by decide) false .value
  refine ⟨_, (h.passes hc htake hlength).trans ?_, hpassed⟩
  exact hscanned.passes (by decide) rfl (by rw [hpassed.rest])

/-- Before a character that may begin a plain scalar, one is read. -/
theorem takeFlow?_of_beginsPlain (hc : beginsPlain true c rest = true) :
    st.takeFlow? c rest = (readPlain? true (st.indent + 1) st.mark st.rest).map fun r =>
      st.scanned r r.value.2 (.scalar (String.ofList r.value.1) true) := by
  by_cases hhyphen : c = '-'
  · -- A hyphen that goes on as a word is no sign of an item.
    subst hhyphen
    have hword : endsWord rest = false := by simpa [beginsPlain] using hc
    simp [takeFlow?, beginsPlain, hword]
  · have hcolon : c ≠ '?' ∧ c ≠ ':' := by
      constructor <;>
      · rintro rfl
        simp [beginsPlain] at hc
    have hother := hc
    simp [beginsPlain, hhyphen, hcolon] at hother
    simp [takeFlow?, hc, hhyphen, hcolon, hother]

end At

/-- A text that bounds a plain scalar before it in a flow collection. -/
structure Bounds (rest : List Char) : Prop where
  word : endsWord rest = false
  stray : isStrayColon true rest = false
  ends : endsPlain true rest = true

/-- A word that is a plain scalar before a text. -/
structure PlainWord (w rest : List Char) : Prop where
  plain : ∀ c ∈ w, isPlainChar c = true
  begins : ∃ c t, w = c :: t ∧ beginsPlain true c (t ++ rest) = true
  bounds : Bounds rest

theorem PlainWord.exists_eq {w : List Char} (hw : PlainWord w rest) :
    ∃ c t, w = c :: t ∧ counts c = true ∧ beginsPlain true c (t ++ rest) = true := by
  obtain ⟨c, t, rfl, hbegins⟩ := hw.begins
  have hplain := hw.plain c List.mem_cons_self
  have hhash : c ≠ '#' := by
    rintro rfl
    simp [beginsPlain] at hbegins
  simp only [isPlainChar, Bool.and_eq_true] at hplain
  refine ⟨c, t, rfl, ?_, hbegins⟩
  rw [counts, hplain.1.1.1, hplain.1.1.2, Bool.true_and, Bool.true_and]
  exact bne_iff_ne.2 hhash

theorem bounds_of_isFlowBound {x : Char} (hx : isFlowBound x = true) (rest : List Char) :
    Bounds (x :: rest) := by
  simp only [isFlowBound, decide_eq_true_eq] at hx
  refine ⟨?_, ?_, ?_⟩
  · fin_cases hx <;> rfl
  · cases rest <;> fin_cases hx <;> rfl
  · fin_cases hx <;> rfl

/-- A word of small letters. -/
theorem plainWord_of_letters {w rest : List Char} (hne : w ≠ []) (hw : ∀ c ∈ w, 'a' ≤ c ∧ c ≤ 'z')
    (hb : Bounds rest) : PlainWord w rest := by
  -- All characters that mean something to the reader lie outside of the small letters.
  have hother {c x : Char} (hc : c ∈ w) (hx : x.toNat < 97 ∨ 122 < x.toNat) : c ≠ x := by
    rintro rfl
    have hlow : 97 ≤ c.toNat := (hw c hc).1
    have hhigh : c.toNat ≤ 122 := (hw c hc).2
    omega
  have hbreak {c : Char} (hc : c ∈ w) : isBreak c = false := by
    have hhigh : c.toNat ≤ 122 := (hw c hc).2
    have hline : c.toNat ≠ 0x2028 ∧ c.toNat ≠ 0x2029 := by omega
    simp [isBreak, hline, hother hc (x := '\n')]
  have hplain : ∀ c ∈ w, isPlainChar c = true := by
    intro c hc
    simp [isPlainChar, isBlank, isFlowBound, hbreak hc, hother hc]
  obtain ⟨c, t, rfl⟩ := List.exists_cons_of_ne_nil hne
  refine ⟨hplain, ⟨c, t, rfl, ?_⟩, hb⟩
  have hc : c ∈ c :: t := List.mem_cons_self
  simp [beginsPlain, isBlank, hbreak hc, hother hc]

namespace At

/-- What a plain scalar does to the reader. -/
theorem takeFlow?_plain {w t : List Char} (h : At blocks st flow keyAllowed tokens (w ++ rest))
    (hw : PlainWord w rest) (hc : w = c :: t) :
    st.takeFlow? c (t ++ rest) = some (st.scanned
      (⟨(w, false), st.mark.afterAll w, rest⟩ : Reading (List Char × Bool)) false
      (.scalar (String.ofList w) true)) := by
  obtain ⟨c', t', heq, hcounts, hbegins⟩ := hw.exists_eq
  obtain ⟨rfl, rfl⟩ := List.cons.inj (hc.symm.trans heq)
  obtain ⟨x, r, rfl⟩ : ∃ x r, rest = x :: r := by
    cases rest with
    | nil => exact nomatch hw.bounds.word
    | cons x r => exact ⟨x, r, rfl⟩
  -- Neither a document nor a comment begins here, so the word is read up to its bound.
  have hsign : atDocumentSign st.mark (w ++ x :: r) = false := by
    have hcolumn : (st.mark.column == 0) = false := by simpa using Nat.ne_of_gt h.mark.column
    simp only [atDocumentSign, hcolumn, Bool.false_and]
  have hhash : startsWith '#' w = false := by
    rw [hc, startsWith, beq_eq_false_iff_ne]
    simp only [counts, Bool.and_eq_true, bne_iff_ne] at hcounts
    exact hcounts.2
  rw [takeFlow?_of_beginsPlain hbegins, h.rest,
    readPlain?_word (hc ▸ List.cons_ne_nil c t) hw.plain hsign hhash hw.bounds.word hw.bounds.stray
      hw.bounds.ends]
  rfl

theorem not_break_of_plain {w : List Char} (hw : ∀ c ∈ w, isPlainChar c = true) :
    ∀ c ∈ w, isBreak c = false := by
  intro c hc
  have hplain := hw c hc
  simp only [isPlainChar, Bool.and_eq_true, Bool.not_eq_true'] at hplain
  exact hplain.1.1.2

/-- A plain scalar. -/
theorem plain {w : List Char} (h : At blocks st flow keyAllowed tokens (w ++ rest))
    (hw : PlainWord w rest) :
    ∃ st', Passes st st' ∧
      At blocks st' flow false (.scalar (String.ofList w) true :: tokens) rest := by
  obtain ⟨c, t, hc, hcounts, -⟩ := hw.exists_eq
  have htake := h.refreshed.takeFlow?_plain hw hc
  have hmark := h.mark.afterAll (not_break_of_plain hw.plain)
  have hscanned := h.refreshed.scanned
    (r := (⟨(w, false), st.mark.afterAll w, rest⟩ : Reading (List Char × Bool))) hmark false
    (.scalar (String.ofList w) true)
  rw [hc, List.cons_append] at h
  refine ⟨_, h.passes hcounts htake ?_, hscanned⟩
  show rest.length ≤ (t ++ rest).length
  rw [List.length_append]
  omega

/-- A key that is written plain, with its colon. -/
theorem plainKey {w : List Char} (h : At blocks st flow true tokens (w ++ ':' :: rest))
    (hw : PlainWord w (':' :: rest)) (hlength : w.length ≤ keyLimit) :
    ∃ st', Passes st st' ∧ At blocks st' flow false
      (.value :: .scalar (String.ofList w) true :: .key :: tokens) rest := by
  obtain ⟨c, t, hc, hcounts, -⟩ := hw.exists_eq
  have htake := h.refreshed.takeFlow?_plain hw hc
  have hline := not_break_of_plain hw.plain
  have hmark := h.mark.afterAll hline
  -- The colon comes as soon after the start of the key as the word is long.
  have hindex : (st.mark.afterAll w).index = st.mark.index + w.length := by
    rw [hmark.index, Mark.column_afterAll hline, h.mark.index]
  rw [hc, List.cons_append] at h
  refine h.key hcounts htake hmark ?_ rfl ?_
  · show (st.mark.afterAll w).index ≤ _
    omega
  · show (':' :: rest).length ≤ (t ++ ':' :: rest).length
    rw [List.length_append]
    omega

theorem not_break_of_mem_renderString {s : String} (hs : ∀ c ∈ s.toList, IsPrintable c) :
    ∀ c ∈ Json.renderString s, isBreak c = false := fun c hc =>
  (isPrintable_of_mem_renderString hs c hc).not_break

/-- What a string as JSON writes it does to the reader. -/
theorem takeFlow?_quoted {s : String}
    (h : At blocks st flow keyAllowed tokens (Json.renderString s ++ rest))
    (hs : ∀ c ∈ s.toList, IsPrintable c) :
    st.takeFlow? '"' (s.toList.flatMap Json.escapeChar ++ '"' :: rest) =
      some (st.scanned
        (⟨s.toList, st.mark.afterAll (Json.renderString s), rest⟩ : Reading (List Char)) false
        (.scalar s false)) := by
  have hrest : st.rest = '"' :: (s.toList.flatMap Json.escapeChar ++ '"' :: rest) := by
    rw [h.rest, Json.renderString, List.cons_append, List.append_assoc]
    rfl
  have hmark : (st.mark.after '"').FirstLine := h.mark.after (by decide)
  -- The marks of the two quotes and of what is between them add up to that of the string.
  have hafter : (((st.mark.after '"').afterAll (s.toList.flatMap Json.escapeChar)).after '"') =
      st.mark.afterAll (Json.renderString s) := by
    simp only [Json.renderString, Mark.afterAll, List.foldl_cons, List.foldl_append,
      List.foldl_nil]
  have hread : readQuoted? true st.pass.mark st.pass.rest =
      some ⟨s.toList, st.mark.afterAll (Json.renderString s), rest⟩ := by
    rw [pass_eq hrest, readQuoted?_escaped hs hmark.column, hafter]
  have htake : st.takeFlow? '"' (s.toList.flatMap Json.escapeChar ++ '"' :: rest) =
      (readQuoted? true st.pass.mark st.pass.rest).map fun r =>
        st.scanned r false (.scalar (String.ofList r.value) false) := rfl
  rw [htake, hread, Option.map_some, String.ofList_toList]

/-- A string as JSON writes it. -/
theorem quoted {s : String} (h : At blocks st flow keyAllowed tokens (Json.renderString s ++ rest))
    (hs : ∀ c ∈ s.toList, IsPrintable c) :
    ∃ st', Passes st st' ∧ At blocks st' flow false (.scalar s false :: tokens) rest := by
  have htake := h.refreshed.takeFlow?_quoted hs
  have hmark := h.mark.afterAll (not_break_of_mem_renderString hs)
  have hscanned := h.refreshed.scanned
    (r := (⟨s.toList, st.mark.afterAll (Json.renderString s), rest⟩ : Reading (List Char))) hmark
    false (.scalar s false)
  rw [Json.renderString, List.cons_append, List.append_assoc, List.singleton_append] at h
  refine ⟨_, h.passes (by decide) htake ?_, hscanned⟩
  show rest.length ≤ (s.toList.flatMap Json.escapeChar ++ '"' :: rest).length
  rw [List.length_append, List.length_cons]
  omega

/-- A key that is written as JSON writes it, with its colon. -/
theorem quotedKey {s : String}
    (h : At blocks st flow true tokens (Json.renderString s ++ ':' :: rest))
    (hs : ∀ c ∈ s.toList, IsPrintable c) (hlength : (Json.renderString s).length ≤ keyLimit) :
    ∃ st', Passes st st' ∧
      At blocks st' flow false (.value :: .scalar s false :: .key :: tokens) rest := by
  have htake := h.refreshed.takeFlow?_quoted hs
  have hline := not_break_of_mem_renderString hs
  have hmark := h.mark.afterAll hline
  have hindex : (st.mark.afterAll (Json.renderString s)).index =
      st.mark.index + (Json.renderString s).length := by
    rw [hmark.index, Mark.column_afterAll hline, h.mark.index]
  rw [Json.renderString, List.cons_append, List.append_assoc, List.singleton_append] at h
  refine h.key (by decide) htake hmark ?_ rfl ?_
  · show (st.mark.afterAll (Json.renderString s)).index ≤ _
    omega
  · show (':' :: rest).length ≤ (s.toList.flatMap Json.escapeChar ++ '"' :: ':' :: rest).length
    simp only [List.length_append, List.length_cons]
    omega

end At

/-! ## The start and the end of a text -/

/-- The reader after a brace at the start of a text. -/
def afterBrace (rest : List Char) : TokenReader where
  mark := ⟨1, 0, 1⟩
  rest := rest
  indent := -1
  indents := []
  flow := 1
  keyAllowed := true
  keys := [none, some ⟨false, 0, .start⟩]
  tokens := [.flowMappingStart]

theorem next?_start (rest : List Char) :
    (start ('\x7b' :: rest)).next? = some (afterBrace rest, false) := rfl

theorem at_afterBrace (rest : List Char) :
    At (-1, []) (afterBrace rest) 1 true [.flowMappingStart] rest := by
  refine ⟨⟨Nat.one_pos, rfl, fun k hk => ?_⟩, ⟨rfl, rfl, Nat.one_pos⟩, rfl, rfl, rfl, rfl, rfl⟩
  simp only [afterBrace, List.mem_cons, reduceCtorEq, Option.some.injEq, List.not_mem_nil, or_false,
    false_or] at hk
  rw [hk]

theorem closeBlocks_of_le {column indent : Int} {tokens : List Token} (h : indent ≤ column)
    (indents : List Int) :
    closeBlocks column tokens indent indents = (indent, indents, tokens) := by
  cases indents with
  | nil => rw [closeBlocks, if_neg (Int.not_lt.2 h)]
  | cons => rw [closeBlocks, if_neg (Int.not_lt.2 h)]

/-- At the end of a text, the block collections are ended. -/
theorem next?_end (hflow : st.flow = 0) (hrest : st.rest = [])
    (hfree : ∀ k, some k ∈ st.keys → k.required = false) (hindent : st.indent ≤ st.mark.column) :
    ∃ r, st.next? = some (r, true) ∧
      r.tokens = (closeBlocks (-1) st.tokens st.indent st.indents).2.2 := by
  have htoken : st.toToken = st := by
    rw [toToken, hrest]
    simp only [skipBlanks]
    rw [← hrest]
  have hflow' : (st.flow == 0) = true := beq_iff_eq.2 hflow
  have hunindent : st.refreshed.unindent st.refreshed.mark.column = st.refreshed := by
    have hclose : closeBlocks st.mark.column st.tokens st.indent st.indents =
        (st.indent, st.indents, st.tokens) := closeBlocks_of_le hindent _
    simp only [unindent, refreshed, hflow', if_true, hclose]
  have hrest' : st.refreshed.rest = [] := hrest
  -- Giving up the last place for a key leaves the tokens as they are.
  have htokens (r : TokenReader) (hr : ∀ k, some k ∈ r.keys → k.required = false) :
      ∃ r', r.dropKey? = some r' ∧ r'.tokens = r.tokens := by
    rw [dropKey?]
    split
    · rename_i k outer hkeys
      have hk : k.required = false := hr k (by rw [hkeys]; exact List.mem_cons_self)
      rw [hk]
      exact ⟨_, rfl, rfl⟩
    · exact ⟨_, rfl, rfl⟩
  have hkeys : (st.refreshed.unindent (-1)).keys = st.refreshed.keys := by
    rw [unindent]
    split <;> rfl
  obtain ⟨r, hdrop, hr⟩ := htokens (st.refreshed.unindent (-1)) (hkeys ▸ free_refreshed hfree)
  refine ⟨r, ?_, ?_⟩
  · simp only [next?, htoken, dropStale?_of_free hfree, Option.bind_eq_bind, Option.bind_some,
      hunindent, hrest', takeEnd?, hdrop, Option.map_some]
  · have hflow'' : (st.refreshed.flow == 0) = true := hflow'
    rw [hr, unindent, hflow'']
    rfl

/-- The sign that ends the outermost flow collection is the last character of a text. -/
theorem run?_lastSign {t : Token} (h : Inside st) (hflow : st.flow = 1)
    (hcolumn : 0 < st.toToken.mark.column) (hrest : st.toToken.rest = [c])
    (hc : c = '\x7d' ∧ t = .flowMappingEnd ∨ c = ']' ∧ t = .flowSequenceEnd)
    (hindent : st.indent ≤ 0) (fuel : Nat) :
    ∃ r, run? (fuel + 2) st = some r ∧
      r.tokens = (closeBlocks (-1) (t :: st.tokens) st.indent st.indents).2.2 := by
  -- Two tokens remain: the sign itself, and then the end of the text.
  let last := st.toToken.refreshed
  have htake : last.takeFlow? c [] = some (last.closed t) := by
    rcases hc with ⟨rfl, rfl⟩ | ⟨rfl, rfl⟩ <;> rfl
  have hnext : st.next? = some (last.closed t, false) := by
    rw [h.next?_eq hcolumn hrest, htake]
    rfl
  have hlast : last.rest = [c] := hrest
  have hclosed : last.closed t = { last with
      keys := last.keys.drop 1, flow := last.flow - 1, keyAllowed := false, rest := [],
      mark := last.mark.after c, tokens := t :: st.tokens } := by
    simp only [closed, pass, hlast, emit]
    rfl
  have hend : ∃ r, (last.closed t).next? = some (r, true) ∧
      r.tokens = (closeBlocks (-1) (last.closed t).tokens (last.closed t).indent
        (last.closed t).indents).2.2 := by
    refine next?_end ?_ ?_ (fun k hk => ?_) ?_
    · rw [hclosed]
      exact congrArg (· - 1) hflow
    · rw [hclosed]
    · rw [hclosed] at hk
      exact h.toToken.refreshed.free k (List.mem_of_mem_drop hk)
    · rw [hclosed]
      exact Int.le_trans hindent (Int.natCast_nonneg _)
  obtain ⟨r, hr, htokens⟩ := hend
  refine ⟨r, ?_, ?_⟩
  · rw [run?, hnext]
    simp only
    rw [run?, hr]
  · rw [htokens, hclosed]
    rfl

end TokenReader

/-! ## Texts of one line -/

/-- Whether a character may stand in a line: it neither breaks it nor is made a line break. -/
def InLine (c : Char) : Prop := isBreak c = false ∧ c ≠ '\r' ∧ c.toNat ≠ 0x85

theorem IsPrintable.inLine {c : Char} (h : IsPrintable c) : InLine c := by
  have hreturn : c ≠ '\r' := by
    rintro rfl
    exact absurd h.1 (by decide)
  have hnext : c.toNat ≠ 0x85 := by have := h.2; omega
  exact ⟨h.not_break, hreturn, hnext⟩

theorem isPermitted_of_printable {c : Char} (h : IsPrintable c) : isPermitted c = true := by
  have hrange : (' ' ≤ c) ∧ c ≤ '~' := ⟨h.1, h.2⟩
  simp [isPermitted, hrange]

theorem unifyBreaks_eq_self {s : List Char} (h : ∀ c ∈ s, c ≠ '\r' ∧ c.toNat ≠ 0x85) :
    unifyBreaks s = s := by
  induction s with
  | nil => rfl
  | cons c s ih =>
    obtain ⟨⟨hreturn, hnext⟩, hs⟩ := List.forall_mem_cons.1 h
    rw [unifyBreaks]
    · rw [if_neg (not_or.2 ⟨hreturn, hnext⟩), ih hs]
    · rintro rest rfl
      exact absurd rfl hreturn

theorem unifyBreaks_of_line {s : List Char} (h : ∀ c ∈ s, InLine c) : unifyBreaks s = s :=
  unifyBreaks_eq_self fun c hc => (h c hc).2

/-- The tokens of a text of one line. -/
theorem Token.ofText?_eq_some_iff {s : List Char} {ts : List Token} (h : ∀ c ∈ s, InLine c) :
    Token.ofText? (String.ofList s) = some ts ↔
      (∀ c ∈ s, isPermitted c = true) ∧
        ∃ r, TokenReader.run? (s.length + 1) (.start s) = some r ∧ r.tokens.reverse = ts := by
  simp only [Token.ofText?, String.toList_ofList, unifyBreaks_of_line h]
  split
  · rename_i hpermitted
    rw [Option.map_eq_some_iff, and_iff_right (List.all_eq_true.1 hpermitted)]
  · rename_i hpermitted
    exact ⟨(nomatch ·), fun h => absurd (List.all_eq_true.2 h.1) hpermitted⟩

end TokenAtlas.Yaml
