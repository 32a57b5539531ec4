import TokenAtlas.Proofs.Yaml.FlowReader

/-!
# Tokens of a text inside another

A flow collection on one line has the same tokens when it stands in another flow collection, up to
the brace that closes it.  `Embeds` relates a reader of the collection alone to a reader of the text
around it; one token keeps the relation (`Embeds.next?`), and so does a run up to the last brace
(`Embeds.exists_last`).

## Key results

- `Embeds.next?`: the next token is the same and keeps the relation
- `Embeds.exists_last`: both readers come to the last brace
-/

namespace TokenAtlas.Yaml

/-- The same place for a key, in a text with `d` more characters and `n` more tokens before it. -/
def KeyStart.embed (d n : Nat) (k : KeyStart) : KeyStart :=
  { k with position := k.position + n, mark := k.mark.shift d }

namespace TokenReader

/-- A reader inside flow collections reads a text that ends with a brace, and another one reads the
    same in a text that goes on with `more`, where it is two levels deeper, in a block collection
    at the start of the line, and after the tokens `before`.  The first token of the collection
    stays the first, since no key can begin before it. -/
structure Embeds (d : Nat) (more : List Char) (before : List Token) (st st' : TokenReader) :
    Prop where
  inside : Inside st
  inside' : Inside st'
  ahead : Ahead st.mark st.rest
  mark : st'.mark = st.mark.shift d
  rest : st'.rest = st.rest ++ more
  blocks : (st.indent, st.indents) = (-1, [])
  blocks' : (st'.indent, st'.indents) = (0, [-1])
  flow : st'.flow = st.flow + 2
  keyAllowed : st'.keyAllowed = st.keyAllowed
  tokens : st'.tokens = st.tokens ++ before
  keys : st'.keys.take st.flow =
    (st.keys.take st.flow).map (·.map (KeyStart.embed d before.length))
  first : st.tokens.getLast? = some .flowMappingStart
  positions : ∀ k, some k ∈ st.keys.take st.flow → 0 < k.position

variable {d : Nat} {more : List Char} {before : List Token} {st st' : TokenReader}

theorem insertIdx_append {α : Type} {xs ys : List α} {n : Nat} (a : α) (h : n ≤ xs.length) :
    (xs ++ ys).insertIdx n a = xs.insertIdx n a ++ ys := by
  induction xs generalizing n with
  | nil =>
    obtain rfl := Nat.le_zero.1 h
    rfl
  | cons x xs ih =>
    cases n with
    | zero => rfl
    | succ n =>
      rw [List.cons_append, List.insertIdx_succ_cons, ih (Nat.le_of_succ_le_succ h),
        List.insertIdx_succ_cons, List.cons_append]

theorem getLast?_cons_of_some {α : Type} {xs : List α} {a : α} (x : α) (h : xs.getLast? = some a) :
    (x :: xs).getLast? = some a := by
  rw [List.getLast?_cons, h]
  rfl

theorem getLast?_insertIdx {α : Type} {xs : List α} {n : Nat} (a : α) (h : n < xs.length) :
    (xs.insertIdx n a).getLast? = xs.getLast? := by
  induction xs generalizing n with
  | nil => exact absurd h (Nat.not_lt_zero n)
  | cons x xs ih =>
    cases n with
    | zero => simp [List.getLast?_cons]
    | succ n =>
      rw [List.insertIdx_succ_cons, List.getLast?_cons, List.getLast?_cons,
        ih (Nat.lt_of_succ_lt_succ h)]

/-! ## Blanks -/

/-- Blanks on one line are passed over in the same way, unless a comment swallows the last brace. -/
theorem skipBlanks_append (d : Nat) (more : List Char) {keyAllowed inComment : Bool} {m : Mark}
    {s : List Char} (h : Ahead m s) (hrest : (skipBlanks false keyAllowed inComment m s).2.1 ≠ []) :
    Ahead (skipBlanks false keyAllowed inComment m s).1
        (skipBlanks false keyAllowed inComment m s).2.1 ∧
      (skipBlanks false keyAllowed inComment m s).2.2 = keyAllowed ∧
      skipBlanks false keyAllowed inComment (m.shift d) (s ++ more) =
        ((skipBlanks false keyAllowed inComment m s).1.shift d,
          (skipBlanks false keyAllowed inComment m s).2.1 ++ more, keyAllowed) := by
  -- On the text: a character that is passed over leaves the reader on its line.
  induction s generalizing m inComment with
  | nil => exact absurd rfl h.ne_nil
  | cons c rest ih =>
    have hc : isBreak c = false := h.not_break
    have hcolumn : (m.column == 0) = false := by simpa using Nat.ne_of_gt h.column
    have hcolumn' : ((m.shift d).column == 0) = false := by
      simpa using Nat.ne_of_gt (h.shift d).column
    simp only [skipBlanks, List.cons_append, hc, hcolumn, hcolumn', Bool.false_eq_true, if_false,
      Bool.false_and, Bool.and_false, Bool.not_false, Bool.and_true, Bool.or_false,
      Mark.after_shift d hc] at hrest ⊢
    -- What follows a character that is passed over is not empty.
    have hnext {inComment : Bool}
        (hrest : (skipBlanks false keyAllowed inComment (m.after c) rest).2.1 ≠ []) :
        Ahead (m.after c) rest := by
      refine h.tail ?_
      rintro rfl
      exact hrest rfl
    split at hrest
    · -- in a comment
      rename_i hcomment
      rw [if_pos hcomment, if_pos hcomment]
      exact ih (hnext hrest) hrest
    · rename_i hcomment
      rw [if_neg hcomment, if_neg hcomment]
      split at hrest
      · -- a blank
        rename_i hblank
        rw [if_pos hblank, if_pos hblank]
        exact ih (hnext hrest) hrest
      · rename_i hblank
        rw [if_neg hblank, if_neg hblank]
        split at hrest
        · -- A comment begins.
          rename_i hhash
          rw [if_pos hhash, if_pos hhash]
          exact ih (hnext hrest) hrest
        · -- A token begins.
          rename_i hhash
          rw [if_neg hhash, if_neg hhash]
          exact ⟨h, rfl, rfl⟩

namespace Embeds

theorem toToken (h : Embeds d more before st st') (hrest : st.toToken.rest ≠ []) :
    Embeds d more before st.toToken st'.toToken := by
  -- Neither reader is outside of flow collections, so blanks do not let a key begin.
  have hflow := h.inside.flow_beq_zero
  have hflow' := h.inside'.flow_beq_zero
  simp only [TokenReader.toToken, hflow] at hrest
  obtain ⟨hahead, hkey, hsame⟩ := skipBlanks_append d more h.ahead hrest
  rw [← h.mark, ← h.rest] at hsame
  refine ⟨h.inside.toToken, h.inside'.toToken, ?_, ?_, ?_, h.blocks, h.blocks', h.flow, ?_,
    h.tokens, h.keys, h.first, h.positions⟩
  · simpa only [TokenReader.toToken, hflow] using hahead
  · simp only [TokenReader.toToken, hflow, hflow', h.keyAllowed, hsame]
  · simp only [TokenReader.toToken, hflow, hflow', h.keyAllowed, hsame]
  · simp only [TokenReader.toToken, hflow, hflow', h.keyAllowed, hsame, hkey]

theorem isStale_embed (d n : Nat) (m : Mark) (k : KeyStart) :
    isStale (m.shift d) (k.embed d n) = isStale m k := by
  have hindex : k.mark.index + d + keyLimit < m.index + d ↔
      k.mark.index + keyLimit < m.index := by omega
  show (decide (k.mark.line < m.line) || decide (k.mark.index + d + keyLimit < m.index + d)) = _
  rw [decide_eq_decide.2 hindex]
  rfl

/-- The same places become impossible for keys. -/
theorem refreshed (h : Embeds d more before st st') :
    Embeds d more before st.refreshed st'.refreshed := by
  -- How far away a place is does not depend on what stands before the line.
  have hfilter (k : Option KeyStart) :
      (k.map (KeyStart.embed d before.length)).filter (!isStale st'.mark ·) =
        (k.filter (!isStale st.mark ·)).map (KeyStart.embed d before.length) := by
    cases k with
    | none => rfl
    | some k =>
      simp only [Option.map_some, Option.filter_some, h.mark, isStale_embed]
      split <;> rfl
  refine ⟨h.inside.refreshed, h.inside'.refreshed, h.ahead, h.mark, h.rest, h.blocks, h.blocks',
    h.flow, h.keyAllowed, h.tokens, ?_, h.first, fun k hk => ?_⟩
  · simp only [TokenReader.refreshed, ← List.map_take, h.keys, List.map_map]
    exact List.map_congr_left fun k _ => hfilter k
  · simp only [TokenReader.refreshed, ← List.map_take] at hk
    obtain ⟨k', hk', hfilter⟩ := List.mem_map.1 hk
    obtain rfl := (Option.filter_eq_some_iff.1 hfilter).1
    exact h.positions k hk'

/-! ## One token -/

/-- Keeping or giving up the place on the innermost level. -/
theorem replaceKey (h : Embeds d more before st st') {k k' : Option KeyStart}
    (hk : k' = k.map (KeyStart.embed d before.length)) :
    (k' :: st'.keys.drop 1).take st.flow =
      ((k :: st.keys.drop 1).take st.flow).map (·.map (KeyStart.embed d before.length)) := by
  obtain ⟨n, hn⟩ := Nat.exists_eq_succ_of_ne_zero (Nat.ne_of_gt h.inside.flow)
  -- What is related on the levels outside stays as it is.
  have hkeys := congrArg (List.drop 1) h.keys
  rw [← List.map_drop, List.drop_take, List.drop_take, hn] at hkeys
  rw [hn, List.take_succ_cons, List.take_succ_cons, List.map_cons, hk]
  exact congrArg _ hkeys

theorem keyHere_eq (h : Embeds d more before st st') :
    st'.keyHere = st.keyHere.embed d before.length := by
  simp only [keyHere, KeyStart.embed, h.tokens, h.mark, List.length_append]

theorem length_tokens_pos (h : Embeds d more before st st') : 0 < st.tokens.length := by
  refine List.length_pos_iff.2 fun hnil => ?_
  exact nomatch (hnil ▸ h.first : ([] : List Token).getLast? = some .flowMappingStart)

/-- Places on the outer levels are left as they are. -/
theorem positions_replaceKey (h : Embeds d more before st st') {k' : Option KeyStart}
    (hk' : ∀ k, k' = some k → 0 < k.position) :
    ∀ k, some k ∈ (k' :: st.keys.drop 1).take st.flow → 0 < k.position := by
  intro k hk
  obtain ⟨n, hn⟩ := Nat.exists_eq_succ_of_ne_zero (Nat.ne_of_gt h.inside.flow)
  rw [hn, List.take_succ_cons] at hk
  rcases List.mem_cons.1 hk with heq | hmem
  · exact hk' k heq.symm
  · refine h.positions k (List.mem_of_mem_drop (i := 1) ?_)
    rwa [List.drop_take, hn]

theorem unkeyed (h : Embeds d more before st st') :
    Embeds d more before st.unkeyed st'.unkeyed :=
  { h with
    inside := h.inside.unkeyed
    inside' := h.inside'.unkeyed
    keys := h.replaceKey rfl
    positions := h.positions_replaceKey nofun }

theorem saved (h : Embeds d more before st st') : Embeds d more before st.saved st'.saved := by
  refine { h with
    inside := h.inside.saved
    inside' := h.inside'.saved
    keys := ?_
    positions := ?_ }
  -- Either both readers keep the place here or neither does.
  · simp only [TokenReader.saved, h.keyAllowed]
    split
    · exact h.replaceKey (congrArg some h.keyHere_eq)
    · exact h.keys
  · simp only [TokenReader.saved]
    split
    · refine h.positions_replaceKey fun k hk => ?_
      obtain rfl := Option.some.inj hk
      exact h.length_tokens_pos
    · exact h.positions

/-- The token for a key is put in at the same place. -/
theorem keyed (h : Embeds d more before st st') : Embeds d more before st.keyed st'.keyed := by
  obtain ⟨k, outer, hkeys⟩ := h.inside.exists_keys
  obtain ⟨k', outer', hkeys'⟩ := h.inside'.exists_keys
  obtain ⟨n, hn⟩ := Nat.exists_eq_succ_of_ne_zero (Nat.ne_of_gt h.inside.flow)
  have hk : k' = k.map (KeyStart.embed d before.length) := by
    have hhead := h.keys
    rw [hkeys, hkeys', hn, List.take_succ_cons, List.take_succ_cons, List.map_cons] at hhead
    exact (List.cons.inj hhead).1
  -- The token for a key never comes before the first token, since no key begins there.
  have hfirst : st.keyed.tokens.getLast? = some .flowMappingStart := by
    simp only [TokenReader.keyed, hkeys]
    cases k with
    | none => exact h.first
    | some k =>
      have hposition : 0 < k.position := h.positions k (by rw [hkeys, hn]; exact List.mem_cons_self)
      have hlength := h.length_tokens_pos
      rw [← h.first]
      exact getLast?_insertIdx _ (by omega)
  refine { h with inside := h.inside.keyed, inside' := h.inside'.keyed, tokens := ?_,
                  first := hfirst }
  simp only [TokenReader.keyed, hkeys, hkeys', hk]
  cases k with
  | none => exact h.tokens
  | some k =>
    simp only [Option.map_some, KeyStart.embed, h.tokens, List.length_append,
      Nat.add_sub_add_right]
    exact insertIdx_append _ (Nat.sub_le _ _)

/-- Passing over a character after which the line goes on, and adding a token. -/
theorem pass_emit {c : Char} {rest : List Char} (h : Embeds d more before st st')
    (hc : st.rest = c :: rest) (hrest : rest ≠ []) (t : Token) :
    Embeds d more before (st.pass.emit t) (st'.pass.emit t) := by
  have hc' : st'.rest = c :: (rest ++ more) := by rw [h.rest, hc, List.cons_append]
  have hahead : Ahead st.mark (c :: rest) := hc ▸ h.ahead
  rw [pass_eq hc, pass_eq hc']
  exact {
    inside := ⟨h.inside.flow, h.inside.levels, h.inside.free⟩
    inside' := ⟨h.inside'.flow, h.inside'.levels, h.inside'.free⟩
    ahead := hahead.tail hrest
    mark := by
      show st'.mark.after c = (st.mark.after c).shift d
      rw [h.mark, Mark.after_shift d hahead.not_break]
    rest := rfl
    blocks := h.blocks
    blocks' := h.blocks'
    flow := h.flow
    keyAllowed := h.keyAllowed
    tokens := congrArg (t :: ·) h.tokens
    keys := h.keys
    first := getLast?_cons_of_some t h.first
    positions := h.positions }

theorem setKeyAllowed (h : Embeds d more before st st') (keyAllowed : Bool) :
    Embeds d more before { st with keyAllowed } { st' with keyAllowed } :=
  { h with
    inside := h.inside.setKeyAllowed keyAllowed
    inside' := h.inside'.setKeyAllowed keyAllowed
    keyAllowed := rfl }

theorem passed {c : Char} {rest : List Char} (h : Embeds d more before st st')
    (hc : st.rest = c :: rest) (hrest : rest ≠ []) (keyAllowed : Bool) (t : Token) :
    Embeds d more before (st.passed keyAllowed t) (st'.passed keyAllowed t) :=
  (h.unkeyed.setKeyAllowed keyAllowed).pass_emit hc hrest t

theorem opened {c : Char} {rest : List Char} (h : Embeds d more before st st')
    (hc : st.rest = c :: rest) (hrest : rest ≠ []) (t : Token) :
    Embeds d more before (st.opened t) (st'.opened t) := by
  have hsaved := h.saved
  -- The new level is related before the sign is passed over.
  have hlevel : Embeds d more before
      { st.saved with keys := none :: st.saved.keys, flow := st.flow + 1, keyAllowed := true }
      { st'.saved with keys := none :: st'.saved.keys, flow := st'.flow + 1, keyAllowed := true } :=
    { hsaved with
      inside := hsaved.inside.deeper true
      inside' := hsaved.inside'.deeper true
      flow := congrArg (· + 1) h.flow
      keyAllowed := rfl
      keys := congrArg (none :: ·) hsaved.keys
      positions := fun k hk => hsaved.positions k ((List.mem_cons.1 hk).resolve_left nofun) }
  exact hlevel.pass_emit hc hrest t

theorem closed {c : Char} {rest : List Char} (h : Embeds d more before st st')
    (hc : st.rest = c :: rest) (hrest : rest ≠ []) (hflow : 1 < st.flow) (t : Token) :
    Embeds d more before (st.closed t) (st'.closed t) := by
  -- The innermost level goes away on both sides, and the ones around it stay related.
  have hflow' : 1 < st'.flow := by rw [h.flow]; omega
  have hkeys := congrArg (List.drop 1) h.keys
  rw [← List.map_drop, List.drop_take, List.drop_take] at hkeys
  have hlevel : Embeds d more before
      { st with keys := st.keys.drop 1, flow := st.flow - 1, keyAllowed := false }
      { st' with keys := st'.keys.drop 1, flow := st'.flow - 1, keyAllowed := false } :=
    { h with
      inside := h.inside.shallower hflow false
      inside' := h.inside'.shallower hflow' false
      flow := by
        show st'.flow - 1 = st.flow - 1 + 2
        rw [h.flow]
        omega
      keyAllowed := rfl
      keys := hkeys
      positions := fun k hk => by
        rw [← List.drop_take] at hk
        exact h.positions k (List.mem_of_mem_drop hk) }
  exact hlevel.pass_emit hc hrest t

theorem scanned {α : Type} {r : Reading α} (h : Embeds d more before st st')
    (hr : Ahead r.mark r.rest) (keyAllowed : Bool) (t : Token) :
    Embeds d more before (st.scanned r keyAllowed t) (st'.scanned (r.embed d more) keyAllowed t) :=
  let hsaved := h.saved
  { inside := h.inside.scanned r keyAllowed t
    inside' := h.inside'.scanned (r.embed d more) keyAllowed t
    ahead := hr
    mark := rfl
    rest := rfl
    blocks := hsaved.blocks
    blocks' := hsaved.blocks'
    flow := h.flow
    keyAllowed := rfl
    tokens := congrArg (t :: ·) h.tokens
    keys := hsaved.keys
    first := getLast?_cons_of_some t h.first
    positions := hsaved.positions }

end Embeds

/-- Where one reader goes on inside the collection, so does another, and the relation is kept. -/
def Follows (d : Nat) (more : List Char) (before : List Token) (x y : Option TokenReader) : Prop :=
  ∀ st, x = some st → 0 < st.flow → st.rest ≠ [] →
    ∃ st', y = some st' ∧ Embeds d more before st st'

namespace Follows

theorem none {y : Option TokenReader} : Follows d more before none y := fun _ h => nomatch h

theorem some (h : Embeds d more before st st') : Follows d more before (some st) (some st') := by
  intro st₁ hst _ _
  obtain rfl := Option.some.inj hst
  exact ⟨st', rfl, h⟩

theorem ite {p : Prop} [Decidable p] {x x' y y' : Option TokenReader}
    (h : Follows d more before x y) (h' : Follows d more before x' y') :
    Follows d more before (if p then x else x') (if p then y else y') := by
  split
  · exact h
  · exact h'

/-- A token that is read by a reader of its own. -/
theorem scanned {α : Type} {x y : Option (Reading α)} (h : Embeds d more before st st')
    (hread : Alike d more x y) (keyAllowed : α → Bool) (token : α → Token) :
    Follows d more before (x.map fun r => st.scanned r (keyAllowed r.value) (token r.value))
      (y.map fun r => st'.scanned r (keyAllowed r.value) (token r.value)) := by
  intro st₁ hst _ _
  obtain ⟨r, hr, rfl⟩ := Option.map_eq_some_iff.1 hst
  obtain ⟨hahead, hr'⟩ := hread r hr
  exact ⟨_, by rw [hr']; rfl, h.scanned hahead _ _⟩

/-- The sign that ends a collection. -/
theorem closed {c : Char} {rest : List Char} (h : Embeds d more before st st')
    (hc : st.rest = c :: rest) (hrest : rest ≠ []) (t : Token) :
    Follows d more before (Option.some (st.closed t)) (Option.some (st'.closed t)) := by
  intro st₁ hst hflow _
  obtain rfl := Option.some.inj hst
  refine ⟨_, rfl, h.closed hc hrest ?_ t⟩
  simp only [TokenReader.closed, emit, flow_pass] at hflow
  omega

end Follows

namespace Embeds

theorem takeFlow? {c : Char} {rest : List Char} (h : Embeds d more before st st')
    (hc : st.rest = c :: rest) :
    Follows d more before (st.takeFlow? c rest) (st'.takeFlow? c (rest ++ more)) := by
  have hahead : Ahead st.mark (c :: rest) := hc ▸ h.ahead
  have hc' : st'.rest = c :: (rest ++ more) := by rw [h.rest, hc, List.cons_append]
  by_cases hrest : rest = []
  · -- Nothing goes on after the last brace.
    subst hrest
    obtain rfl : c = '\x7d' := Option.some.inj hahead.closed
    intro st₁ hst _ hrest
    obtain rfl : st.closed .flowMappingEnd = st₁ := Option.some.inj hst
    refine absurd ?_ hrest
    simp only [TokenReader.closed, pass, hc, emit]
  · have hpass : Ahead st.pass.mark st.pass.rest := by
      rw [pass_eq hc]
      exact hahead.tail hrest
    have hmark : st'.pass.mark = st.pass.mark.shift d := by
      rw [pass_eq hc, pass_eq hc', h.mark]
      exact Mark.after_shift d hahead.not_break
    have hpassed : st'.pass.rest = st.pass.rest ++ more := by rw [pass_eq hc, pass_eq hc']
    have hplain : beginsPlain true c (rest ++ more) = beginsPlain true c rest := by
      simp only [beginsPlain, endsWord_append hrest]
    let quoted (cs : List Char) : Token := .scalar (String.ofList cs) false
    -- Both readers make the same tests, so `Follows.ite` goes through them one by one: the signs of
    -- collections, the other signs, anchors, tags, quoted scalars, plain scalars.
    simp only [TokenReader.takeFlow?, endsWord_append hrest, hplain, hmark, hpassed]
    refine .ite (.some (h.opened hc hrest _)) ?_
    refine .ite (.some (h.opened hc hrest _)) ?_
    refine .ite (.closed h hc hrest _) ?_
    refine .ite (.closed h hc hrest _) ?_
    refine .ite (.some (h.passed hc hrest _ _)) ?_
    refine .ite (.some (h.passed hc hrest _ _)) ?_
    refine .ite (.some (h.passed hc hrest _ _)) ?_
    refine .ite (.some (h.keyed.passed hc hrest _ _)) ?_
    refine .ite (.scanned h (readAnchorName?_append d more hpass) (fun _ => false) .alias) ?_
    refine .ite (.scanned h (readAnchorName?_append d more hpass) (fun _ => false) .anchor) ?_
    refine .ite ?_ ?_
    · rw [h.mark, h.rest]
      exact .scanned h (readTag?_append d more h.ahead) (fun _ => false) id
    refine .ite (.scanned h (readQuoted?_append d more hpass) (fun _ => false) quoted) ?_
    refine .ite (.scanned h (readQuoted?_append d more hpass) (fun _ => false) quoted) ?_
    refine .ite ?_ .none
    rw [h.mark, h.rest]
    exact .scanned h (readPlain?_append d more h.ahead) (fun r => r.2)
      (fun r => .scalar (String.ofList r.1) true)

/-- The next token is the same and keeps the relation. -/
theorem next? (h : Embeds d more before st st') {st₁ : TokenReader}
    (hnext : st.next? = some (st₁, false)) (hflow : 0 < st₁.flow) (hrest : st₁.rest ≠ []) :
    ∃ st₁', st'.next? = some (st₁', false) ∧ Embeds d more before st₁ st₁' := by
  -- Both readers pass over blanks, give up places for keys, and take a token.
  have htoken := toToken_ne_nil hnext
  have hready := (h.toToken htoken).refreshed
  obtain ⟨c, rest, hc⟩ := List.exists_cons_of_ne_nil htoken
  have hc' : st'.toToken.rest = c :: (rest ++ more) := by
    rw [(h.toToken htoken).rest, hc, List.cons_append]
  have hcolumn : 0 < st.toToken.mark.column := (h.toToken htoken).ahead.column
  have hcolumn' : 0 < st'.toToken.mark.column := by
    rw [(h.toToken htoken).mark]
    exact Nat.add_pos_left hcolumn d
  rw [h.inside.next?_eq hcolumn hc] at hnext
  obtain ⟨st₂, htake, hpair⟩ := Option.map_eq_some_iff.1 hnext
  obtain rfl : st₂ = st₁ := (Prod.mk.inj hpair).1
  obtain ⟨st₁', htake', hembeds⟩ := hready.takeFlow? hc st₂ htake hflow hrest
  refine ⟨st₁', ?_, hembeds⟩
  rw [h.inside'.next?_eq hcolumn' hc', htake']
  rfl

end Embeds

/-! ## Up to the last brace -/

/-- The last character of a text is the brace that closes the outermost of the collections that are
    open where a reader is, or that open where it is. -/
inductive ClosesLast : TokenReader → Prop
  | last {st : TokenReader} (hflow : st.flow = 1) (hrest : st.toToken.rest = ['\x7d']) :
      ClosesLast st
  | next {st st₁ : TokenReader} (hnext : st.next? = some (st₁, false)) (hflow : 0 < st₁.flow)
      (h : ClosesLast st₁) : ClosesLast st

theorem ClosesLast.ne_nil (h : ClosesLast st) : st.rest ≠ [] := by
  intro hnil
  have hend : st.toToken.rest = [] := by
    rw [TokenReader.toToken, hnil]
    rfl
  cases h with
  | last _ hrest => exact nomatch hend.symm.trans hrest
  | next hnext => exact toToken_ne_nil hnext hend

end TokenReader

end TokenAtlas.Yaml
