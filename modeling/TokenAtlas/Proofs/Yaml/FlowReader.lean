import TokenAtlas.Proofs.Yaml.Lookahead

/-!
# Reading tokens inside flow collections

Inside flow collections, and behind the start of a line, indentation and the signs that bound
documents play no part, and no key is required.  `Inside` says that a reader of tokens is there.
Then all that may fail is the reading of the scalar, the anchor or the tag that a token consists of,
and `takeFlow?` says what every token does to the reader.

## Key results

- `Inside.takeAt?_eq`: a token does what `takeFlow?` says
- `Inside.next?_eq`: the next token is the one that begins at the next character that counts
-/

namespace TokenAtlas.Yaml.TokenReader

/-- The reader is inside flow collections: there is a place for a key on every level, and no key is
    required. -/
structure Inside (st : TokenReader) : Prop where
  flow : 0 < st.flow
  levels : st.keys.length = st.flow + 1
  free : ∀ k, some k ∈ st.keys → k.required = false

/-! ## What tokens do inside flow collections -/

/-- The place where the reader is, as one where a key may begin. -/
def keyHere (st : TokenReader) : KeyStart := ⟨false, st.tokens.length, st.mark⟩

/-- The reader with its place kept on the innermost level, if a key may begin there. -/
def saved (st : TokenReader) : TokenReader :=
  { st with keys := if st.keyAllowed then some st.keyHere :: st.keys.drop 1 else st.keys }

/-- The reader without a place on the innermost level. -/
def unkeyed (st : TokenReader) : TokenReader := { st with keys := none :: st.keys.drop 1 }

/-- The reader with the token for a key put in at the place on the innermost level. -/
def keyed (st : TokenReader) : TokenReader :=
  { st with tokens := match st.keys with
    | some k :: _ => st.tokens.insertIdx (st.tokens.length - k.position) .key
    | _ => st.tokens }

/-- The reader without the places where a key would be too long by now. -/
def refreshed (st : TokenReader) : TokenReader :=
  { st with keys := st.keys.map (·.filter (!isStale st.mark ·)) }

/-- The reader after the sign that begins a collection. -/
def opened (st : TokenReader) (t : Token) : TokenReader :=
  { st.saved with
    keys := none :: st.saved.keys, flow := st.flow + 1, keyAllowed := true }.pass.emit t

/-- The reader after the sign that ends a collection. -/
def closed (st : TokenReader) (t : Token) : TokenReader :=
  { st with keys := st.keys.drop 1, flow := st.flow - 1, keyAllowed := false }.pass.emit t

/-- The reader after a sign between the parts of a collection. -/
def passed (st : TokenReader) (keyAllowed : Bool) (t : Token) : TokenReader :=
  { st.unkeyed with keyAllowed }.pass.emit t

/-- The reader after a token that was read by a reader of its own. -/
def scanned {α : Type} (st : TokenReader) (r : Reading α) (keyAllowed : Bool) (t : Token) :
    TokenReader :=
  { st.saved.goto r with keyAllowed }.emit t

/-- The token that begins with a character inside flow collections. -/
def takeFlow? (st : TokenReader) (c : Char) (rest : List Char) : Option TokenReader :=
  if c == '[' then some (st.opened .flowSequenceStart)
  else if c == '\x7b' then some (st.opened .flowMappingStart)
  else if c == ']' then some (st.closed .flowSequenceEnd)
  else if c == '\x7d' then some (st.closed .flowMappingEnd)
  else if c == ',' then some (st.passed true .flowEntry)
  else if c == '-' && endsWord rest then some (st.passed true .blockEntry)
  else if c == '?' then some (st.passed false .key)
  else if c == ':' then some (st.keyed.passed false .value)
  else if c == '*' then
    (readAnchorName? st.pass.mark st.pass.rest).map fun r => st.scanned r false (.alias r.value)
  else if c == '&' then
    (readAnchorName? st.pass.mark st.pass.rest).map fun r => st.scanned r false (.anchor r.value)
  else if c == '!' then (readTag? true st.mark st.rest).map fun r => st.scanned r false r.value
  else if c == '\'' then
    (readQuoted? false st.pass.mark st.pass.rest).map fun r =>
      st.scanned r false (.scalar (String.ofList r.value) false)
  else if c == '"' then
    (readQuoted? true st.pass.mark st.pass.rest).map fun r =>
      st.scanned r false (.scalar (String.ofList r.value) false)
  else if beginsPlain true c rest then
    (readPlain? true (st.indent + 1) st.mark st.rest).map fun r =>
      st.scanned r r.value.2 (.scalar (String.ofList r.value.1) true)
  else none

variable {st : TokenReader} {c : Char} {rest : List Char}

/-! ### Passing over a character -/

theorem pass_eq (hrest : st.rest = c :: rest) :
    st.pass = { st with mark := st.mark.after c, rest } := by
  rw [pass, hrest]

@[simp] theorem flow_pass (st : TokenReader) : st.pass.flow = st.flow := by
  rw [pass]
  split <;> rfl

/-- Where a token follows, the text is not at its end. -/
theorem toToken_ne_nil {st₁ : TokenReader} (hnext : st.next? = some (st₁, false)) :
    st.toToken.rest ≠ [] := by
  intro hend
  obtain ⟨st₂, hstale, htake⟩ := Option.bind_eq_some_iff.1 hnext
  have hrest : (st₂.unindent st₂.mark.column).rest = [] := by
    rw [dropStale?] at hstale
    split at hstale
    · exact nomatch hstale
    · obtain rfl := Option.some.inj hstale
      rw [unindent]
      split <;> exact hend
  simp only [hrest] at htake
  obtain ⟨_, -, hpair⟩ := Option.map_eq_some_iff.1 htake
  exact nomatch (Prod.mk.inj hpair).2

/-- Places where keys are not required may be given up. -/
theorem dropStale?_of_free (h : ∀ k, some k ∈ st.keys → k.required = false) :
    st.dropStale? = some st.refreshed := by
  have hany : st.keys.any (·.any fun k => isStale st.mark k && k.required) = false := by
    simp only [List.any_eq_false, Option.any_eq_true, not_exists, not_and, Bool.and_eq_true]
    rintro _ hk k rfl -
    rw [h k hk]
    decide
  rw [dropStale?, hany]
  rfl

/-- The places that are left are not required either. -/
theorem free_refreshed (h : ∀ k, some k ∈ st.keys → k.required = false) :
    ∀ k, some k ∈ st.refreshed.keys → k.required = false := by
  intro k hk
  obtain ⟨k', hk', hfilter⟩ := List.mem_map.1 hk
  obtain rfl := (Option.filter_eq_some_iff.1 hfilter).1
  exact h k hk'

namespace Inside

theorem flow_beq_zero (h : Inside st) : (st.flow == 0) = false := by
  simpa using Nat.ne_of_gt h.flow

/-- There is a place on the innermost level, with a key or without. -/
theorem exists_keys (h : Inside st) : ∃ k outer, st.keys = k :: outer :=
  List.exists_cons_of_length_eq_add_one h.levels

theorem dropKey?_eq (h : Inside st) : st.dropKey? = some st.unkeyed := by
  obtain ⟨k, outer, hkeys⟩ := h.exists_keys
  have hfree := h.free
  obtain ⟨mark, rest, indent, indents, flow, keyAllowed, keys, tokens⟩ := st
  subst hkeys
  cases k with
  | none => rfl
  | some k => simp [dropKey?, unkeyed, hfree k (List.mem_cons_self)]

theorem saveKey?_eq (h : Inside st) : st.saveKey? = some st.saved := by
  simp only [saveKey?, saved, h.flow_beq_zero, Bool.false_and, h.dropKey?_eq]
  split <;> rfl

theorem openBlock_eq (h : Inside st) (column : Nat) (put : TokenReader → TokenReader) :
    st.openBlock column put = st := by
  simp only [openBlock, h.flow_beq_zero, Bool.false_and, Bool.false_eq_true, if_false]

theorem unindent_eq (h : Inside st) (column : Int) : st.unindent column = st := by
  simp only [unindent, h.flow_beq_zero, Bool.false_eq_true, if_false]

theorem dropStale?_eq (h : Inside st) : st.dropStale? = some st.refreshed :=
  dropStale?_of_free h.free

/-! ### The tokens -/

theorem takeFlowStart?_eq (h : Inside st) (t : Token) :
    st.takeFlowStart? t = some (st.opened t) := by
  rw [takeFlowStart?, h.saveKey?_eq]
  rfl

theorem takeFlowEnd?_eq (h : Inside st) (t : Token) : st.takeFlowEnd? t = some (st.closed t) := by
  have hflow : st.unkeyed.flow ≠ 0 := Nat.ne_of_gt h.flow
  simp only [takeFlowEnd?, h.dropKey?_eq, Option.map_some, if_neg hflow]
  rfl

theorem takeFlowEntry?_eq (h : Inside st) :
    takeFlowEntry? st = some (st.passed true .flowEntry) := by
  unfold takeFlowEntry?
  rw [h.dropKey?_eq]
  rfl

theorem takeBlockEntry?_eq (h : Inside st) :
    takeBlockEntry? st = some (st.passed true .blockEntry) := by
  unfold takeBlockEntry?
  rw [h.openBlock_eq, h.dropKey?_eq, h.flow_beq_zero]
  rfl

theorem takeKey?_eq (h : Inside st) : st.takeKey? = some (st.passed false .key) := by
  have hflow : (st.unkeyed.flow == 0) = false := h.flow_beq_zero
  rw [takeKey?, h.openBlock_eq, h.dropKey?_eq, h.flow_beq_zero]
  simp only [Bool.false_and, Bool.false_eq_true, if_false, Option.map_some, hflow]
  rfl

theorem takeValue?_eq (h : Inside st) : st.takeValue? = some (st.keyed.passed false .value) := by
  obtain ⟨k, outer, hkeys⟩ := h.exists_keys
  have hflow := h.flow_beq_zero
  obtain ⟨mark, rest, indent, indents, flow, keyAllowed, keys, tokens⟩ := st
  subst hkeys
  cases k with
  | none =>
    rw [takeValue?, h.openBlock_eq]
    simp only [hflow, Bool.false_and, Bool.false_eq_true, if_false]
    rfl
  | some k =>
    simp only [takeValue?, openBlock, emitAt, hflow, Bool.false_and, Bool.false_eq_true, if_false]
    rfl

theorem takeAnchor?_eq (h : Inside st) (token : String → Token) :
    st.takeAnchor? token =
      (readAnchorName? st.pass.mark st.pass.rest).map fun r =>
        st.scanned r false (token r.value) := by
  obtain ⟨mark, rest, indent, indents, flow, keyAllowed, keys, tokens⟩ := st
  rw [takeAnchor?, h.saveKey?_eq, Option.map_eq_bind]
  cases rest <;> rfl

theorem takeTag?_eq (h : Inside st) :
    st.takeTag? = (readTag? true st.mark st.rest).map fun r => st.scanned r false r.value := by
  have hflow : (st.saved.flow != 0) = true := bne_iff_ne.2 (Nat.ne_of_gt h.flow)
  rw [takeTag?, h.saveKey?_eq, Option.map_eq_bind]
  simp only [Option.bind_eq_bind, Option.bind_some, hflow]
  rfl

theorem takeQuoted?_eq (h : Inside st) (double : Bool) :
    st.takeQuoted? double =
      (readQuoted? double st.pass.mark st.pass.rest).map fun r =>
        st.scanned r false (.scalar (String.ofList r.value) false) := by
  obtain ⟨mark, rest, indent, indents, flow, keyAllowed, keys, tokens⟩ := st
  rw [takeQuoted?, h.saveKey?_eq, Option.map_eq_bind]
  cases rest <;> rfl

theorem takePlain?_eq (h : Inside st) :
    st.takePlain? =
      (readPlain? true (st.indent + 1) st.mark st.rest).map fun r =>
        st.scanned r r.value.2 (.scalar (String.ofList r.value.1) true) := by
  have hflow : (st.saved.flow != 0) = true := bne_iff_ne.2 (Nat.ne_of_gt h.flow)
  rw [takePlain?, h.saveKey?_eq, Option.map_eq_bind]
  simp only [Option.bind_eq_bind, Option.bind_some, hflow]
  rfl

/-- Behind the start of a line, a token does what `takeFlow?` says. -/
theorem takeAt?_eq (h : Inside st) (hcolumn : 0 < st.mark.column) (c : Char) (rest : List Char) :
    st.takeAt? c rest = st.takeFlow? c rest := by
  have hflow : (st.flow != 0) = true := by simpa using Nat.ne_of_gt h.flow
  have hstart : (st.mark.column == 0) = false := by simpa using Nat.ne_of_gt hcolumn
  have hsign : atDocumentSign st.mark (c :: rest) = false := by
    rw [atDocumentSign, hstart]
    rfl
  simp only [takeAt?, hstart, hsign, hflow, Bool.false_and, Bool.true_or, Bool.and_true,
    Bool.not_true, Bool.and_false, Bool.false_eq_true, if_false, h.takeFlowStart?_eq,
    h.takeFlowEnd?_eq, h.takeFlowEntry?_eq, h.takeBlockEntry?_eq, h.takeKey?_eq, h.takeValue?_eq,
    h.takeAnchor?_eq, h.takeTag?_eq, h.takeQuoted?_eq, h.takePlain?_eq]
  rfl

/-! ### What tokens keep -/

theorem toToken (h : Inside st) : Inside st.toToken := ⟨h.flow, h.levels, h.free⟩

theorem refreshed (h : Inside st) : Inside st.refreshed :=
  ⟨h.flow, (List.length_map _).trans h.levels, free_refreshed h.free⟩

/-- Keeping or giving up the place on the innermost level. -/
theorem replaceKey (h : Inside st) {k : Option KeyStart}
    (hk : ∀ k', k = some k' → k'.required = false) :
    Inside { st with keys := k :: st.keys.drop 1 } := by
  obtain ⟨k₀, outer, hkeys⟩ := h.exists_keys
  have hlevels := h.levels
  rw [hkeys, List.length_cons] at hlevels
  refine ⟨h.flow, ?_, fun k' hk' => ?_⟩
  · simpa [hkeys] using hlevels
  · rcases List.mem_cons.1 hk' with rfl | hmem
    · exact hk k' rfl
    · exact h.free k' (List.mem_of_mem_drop hmem)

theorem unkeyed (h : Inside st) : Inside st.unkeyed := h.replaceKey nofun

theorem saved (h : Inside st) : Inside st.saved := by
  rw [TokenReader.saved]
  split
  · refine h.replaceKey fun k' hk' => ?_
    rw [← Option.some.inj hk', keyHere]
  · exact h

theorem keyed (h : Inside st) : Inside st.keyed := ⟨h.flow, h.levels, h.free⟩

/-- One level more, on which there is no place yet. -/
theorem deeper (h : Inside st) (keyAllowed : Bool) :
    Inside { st with keys := none :: st.keys, flow := st.flow + 1, keyAllowed } := by
  refine ⟨Nat.succ_pos _, congrArg (· + 1) h.levels, fun k hk => h.free k ?_⟩
  exact (List.mem_cons.1 hk).resolve_left nofun

/-- One level less. -/
theorem shallower (h : Inside st) (hflow : 1 < st.flow) (keyAllowed : Bool) :
    Inside { st with keys := st.keys.drop 1, flow := st.flow - 1, keyAllowed } := by
  refine ⟨Nat.sub_pos_of_lt hflow, ?_, fun k hk => h.free k (List.mem_of_mem_drop hk)⟩
  show (st.keys.drop 1).length = st.flow - 1 + 1
  rw [List.length_drop, h.levels]
  omega

theorem setKeyAllowed (h : Inside st) (keyAllowed : Bool) : Inside { st with keyAllowed } :=
  ⟨h.flow, h.levels, h.free⟩

theorem scanned {α : Type} (h : Inside st) (r : Reading α) (keyAllowed : Bool) (t : Token) :
    Inside (st.scanned r keyAllowed t) :=
  ⟨h.flow, h.saved.levels, h.saved.free⟩

/-! ### The next token -/

/-- The next token is the one that begins at the next character that counts. -/
theorem next?_eq (h : Inside st) (hcolumn : 0 < st.toToken.mark.column)
    (hrest : st.toToken.rest = c :: rest) :
    st.next? = (st.toToken.refreshed.takeFlow? c rest).map (·, false) := by
  have hinside := h.toToken.refreshed
  have hrest' : st.toToken.refreshed.rest = c :: rest := hrest
  simp only [next?, h.toToken.dropStale?_eq, Option.bind_eq_bind, Option.bind_some,
    hinside.unindent_eq, hrest', hinside.takeAt?_eq hcolumn]

end Inside

end TokenAtlas.Yaml.TokenReader
