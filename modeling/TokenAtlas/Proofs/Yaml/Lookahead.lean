import Mathlib
import TokenAtlas.Yaml.TokenReader

/-!
# How far readers look ahead

On the last line of a text that ends with a brace, the readers of words, scalars, anchors and tags
in flow collections stop at that brace at the latest.  So it does not matter to them what follows
the brace, nor at which column the line began: `Ahead` says where a reader is, and every reader that
is `Ahead` reads the same when the text goes on and its marks are shifted.

## Key results

- `readPlain?_append`, `readQuoted?_append`: scalars before a brace
- `readAnchorName?_append`, `readTag?_append`: anchors and tags before a brace
-/

namespace TokenAtlas.Yaml

variable {s : List Char} {c : Char} {m : Mark}

/-! ## Marks on one line -/

namespace Mark

/-- The same place on a line that has `d` more characters before it. -/
def shift (d : Nat) (m : Mark) : Mark := ⟨m.index + d, m.line, m.column + d⟩

theorem after_of_not_break (h : isBreak c = false) :
    m.after c = ⟨m.index + 1, m.line, m.column + 1⟩ := by
  rw [after, h]
  rfl

theorem after_shift (d : Nat) (h : isBreak c = false) :
    (m.shift d).after c = (m.after c).shift d := by
  simp only [after_of_not_break h, shift, Mark.mk.injEq, true_and]
  omega

theorem afterAll_shift (d : Nat) (h : ∀ c ∈ s, isBreak c = false) :
    (m.shift d).afterAll s = (m.afterAll s).shift d := by
  induction s generalizing m with
  | nil => rfl
  | cons c s ih =>
    obtain ⟨hc, hs⟩ := List.forall_mem_cons.1 h
    rw [afterAll, List.foldl_cons, after_shift d hc]
    exact ih hs

theorem column_afterAll (h : ∀ c ∈ s, isBreak c = false) :
    (m.afterAll s).column = m.column + s.length := by
  induction s generalizing m with
  | nil => rfl
  | cons c s ih =>
    obtain ⟨hc, hs⟩ := List.forall_mem_cons.1 h
    rw [afterAll, List.foldl_cons, ← afterAll, ih hs, after_of_not_break hc, List.length_cons]
    show m.column + 1 + s.length = m.column + (s.length + 1)
    omega

/-- A mark on the first line, but not at its start. -/
structure FirstLine (m : Mark) : Prop where
  line : m.line = 0
  index : m.index = m.column
  column : 0 < m.column

namespace FirstLine

theorem after (h : m.FirstLine) (hc : isBreak c = false) : (m.after c).FirstLine := by
  rw [after_of_not_break hc]
  exact ⟨h.line, congrArg (· + 1) h.index, Nat.succ_pos _⟩

theorem afterAll (h : m.FirstLine) (hs : ∀ c ∈ s, isBreak c = false) :
    (m.afterAll s).FirstLine := by
  induction s generalizing m with
  | nil => exact h
  | cons c s ih =>
    obtain ⟨hc, hs⟩ := List.forall_mem_cons.1 hs
    exact ih (h.after hc) hs

theorem shift (d : Nat) (h : m.FirstLine) : (m.shift d).FirstLine :=
  ⟨h.line, congrArg (· + d) h.index, Nat.add_pos_left h.column d⟩

end FirstLine

end Mark

/-- A reader is on the first line, after its first character, and the text ends with this line and
    with a brace. -/
structure Ahead (m : Mark) (s : List Char) : Prop where
  closed : s.getLast? = some '\x7d'
  line : ∀ c ∈ s, isBreak c = false
  mark : m.FirstLine

namespace Ahead

theorem column (h : Ahead m s) : 0 < m.column := h.mark.column

theorem ne_nil (h : Ahead m s) : s ≠ [] := by
  rintro rfl
  exact nomatch h.closed

/-- After a character other than the last brace, the line still goes on. -/
theorem tail {rest : List Char} (h : Ahead m (c :: rest)) (hrest : rest ≠ []) :
    Ahead (m.after c) rest := by
  have hc : isBreak c = false := h.line c (List.mem_cons_self)
  refine ⟨?_, fun x hx => h.line x (List.mem_cons_of_mem c hx), h.mark.after hc⟩
  rw [← h.closed, List.getLast?_cons_of_ne_nil hrest]

theorem tail_of_ne {rest : List Char} (h : Ahead m (c :: rest)) (hc : c ≠ '\x7d') :
    Ahead (m.after c) rest := by
  refine h.tail ?_
  rintro rfl
  exact hc (Option.some.inj h.closed)

theorem not_break {rest : List Char} (h : Ahead m (c :: rest)) : isBreak c = false :=
  h.line c List.mem_cons_self

/-- Farther on the line, but not behind its last brace. -/
theorem of_suffix {rest : List Char} (h : Ahead m s) (hs : rest <:+ s) (hrest : rest ≠ []) :
    Ahead (m.afterAll (s.take (s.length - rest.length))) rest := by
  obtain ⟨t, rfl⟩ := hs
  have htake : (t ++ rest).take ((t ++ rest).length - rest.length) = t := by simp
  rw [htake]
  refine ⟨?_, fun c hc => h.line c (List.mem_append_right t hc),
    h.mark.afterAll fun c hc => h.line c (List.mem_append_left rest hc)⟩
  rw [← h.closed, List.getLast?_append_of_ne_nil t hrest]

/-- What bounds documents stands at the start of a line. -/
theorem not_documentSign (h : Ahead m s) (s' : List Char) : atDocumentSign m s' = false := by
  have hcolumn : (m.column == 0) = false := by simpa using Nat.ne_of_gt h.column
  simp only [atDocumentSign, hcolumn, Bool.false_and]

theorem shift (d : Nat) (h : Ahead m s) : Ahead (m.shift d) s :=
  ⟨h.closed, h.line, h.mark.shift d⟩

end Ahead

/-- The same reading before a text that goes on, on a line that has more characters before it. -/
def Reading.embed {α : Type} (d : Nat) (more : List Char) (r : Reading α) : Reading α :=
  { r with mark := r.mark.shift d, rest := r.rest ++ more }

/-- A reading that succeeds leaves the reader on its line, and another one is the same before a text
    that goes on. -/
def Alike {α : Type} (d : Nat) (more : List Char) (x y : Option (Reading α)) : Prop :=
  ∀ r, x = some r → Ahead r.mark r.rest ∧ y = some (r.embed d more)

namespace Alike

variable {α β : Type} {d : Nat} {more : List Char}

theorem none {y : Option (Reading α)} : Alike d more none y := fun _ h => nomatch h

theorem some {a : α} (h : Ahead m s) :
    Alike d more (some ⟨a, m, s⟩) (some ⟨a, m.shift d, s ++ more⟩) := by
  intro r hr
  obtain rfl := Option.some.inj hr
  exact ⟨h, rfl⟩

/-- Changing what was read changes nothing else. -/
theorem map {x y : Option (Reading α)} (f : α → β) (h : Alike d more x y) :
    Alike d more (x.map fun r => { r with value := f r.value })
      (y.map fun r => { r with value := f r.value }) := by
  intro r hr
  obtain ⟨r', hx, rfl⟩ := Option.map_eq_some_iff.1 hr
  obtain ⟨hahead, hy⟩ := h r' hx
  exact ⟨hahead, by rw [hy]; rfl⟩

end Alike

variable {d : Nat} {more : List Char}

/-! ## Plain scalars -/

theorem endsWord_append (h : s ≠ []) : endsWord (s ++ more) = endsWord s := by
  cases s with
  | nil => exact absurd rfl h
  | cons => rfl

theorem startsWith_append (h : s ≠ []) (c : Char) :
    startsWith c (s ++ more) = startsWith c s := by
  cases s with
  | nil => exact absurd rfl h
  | cons => rfl

variable (d) (more)

theorem readPlainWord?_append (h : Ahead m s) :
    Alike d more (readPlainWord? true m s) (readPlainWord? true (m.shift d) (s ++ more)) := by
  induction s generalizing m with
  | nil => exact absurd rfl h.ne_nil
  | cons c rest ih =>
    by_cases hrest : rest = []
    · -- The brace ends the word.
      subst hrest
      obtain rfl : c = '\x7d' := Option.some.inj h.closed
      exact .some h
    · -- Both conditions look one character ahead, and there is one before the text goes on.
      have hstray : isStrayColon true (c :: (rest ++ more)) = isStrayColon true (c :: rest) := by
        cases rest with
        | nil => exact absurd rfl hrest
        | cons x rest => by_cases hc : c = ':' <;> simp [isStrayColon, hc]
      have hends : endsPlain true (c :: (rest ++ more)) = endsPlain true (c :: rest) := by
        simp only [endsPlain, endsWord_append hrest]
      simp only [readPlainWord?, List.cons_append, hstray, hends]
      split
      · exact .some h
      split
      · exact .none
      split
      · exact .some h
      · rw [Mark.after_shift d h.not_break]
        exact (ih (h.tail hrest)).map _

/-- A gap on one line is read in the same way at any indentation. -/
theorem readGap?_append (indent indent' : Int) {g : Gap} (h : Ahead m s) (hg : g.broken = false) :
    Alike d more (readGap? indent g m s) (readGap? indent' g (m.shift d) (s ++ more)) := by
  -- On the text: blanks join the gap, and the brace is none, so a gap ends before it.
  induction s generalizing g m with
  | nil => exact absurd rfl h.ne_nil
  | cons c rest ih =>
    have hc : isBreak c = false := h.not_break
    simp only [readGap?, List.cons_append, hg, hc, Bool.false_and, Bool.false_eq_true, if_false]
    split
    · rename_i hblank
      have hbrace : c ≠ '\x7d' := by
        rintro rfl
        exact nomatch hblank
      rw [Mark.after_shift d hc]
      refine ih (h.tail_of_ne hbrace) ?_
      simp only [Gap.addBlank, hg, Bool.false_eq_true, if_false]
    · exact .some h

/-- A gap on one line has no line break. -/
theorem broken_of_readGap? {indent : Int} {g : Gap} {r : Reading Gap} (h : Ahead m s)
    (hg : g.broken = false) (hr : readGap? indent g m s = some r) : r.value.broken = false := by
  -- Blanks do not break a gap, and the line has nothing but blanks to add.
  induction s generalizing g m with
  | nil => exact absurd rfl h.ne_nil
  | cons c rest ih =>
    have hc : isBreak c = false := h.not_break
    simp only [readGap?, hg, hc, Bool.false_and, Bool.false_eq_true, if_false] at hr
    split at hr
    · rename_i hblank
      have hbrace : c ≠ '\x7d' := by
        rintro rfl
        exact nomatch hblank
      refine ih (h.tail_of_ne hbrace) ?_ hr
      simp only [Gap.addBlank, hg, Bool.false_eq_true, if_false]
    · obtain rfl := Option.some.inj hr
      exact hg

theorem readPlainWords?_append {indent indent' : Int} {fuel fuel' : Nat} {g : Gap} (h : Ahead m s)
    (hg : g.broken = false) (hfuel : fuel ≤ fuel') :
    Alike d more (readPlainWords? true indent fuel g m s)
      (readPlainWords? true indent' fuel' g (m.shift d) (s ++ more)) := by
  -- On the fuel, one word and one gap for each step: the reader is `Ahead` after each of the two.
  induction fuel generalizing fuel' g m s with
  | zero => exact .none
  | succ fuel ih =>
    obtain ⟨fuel', rfl⟩ : ∃ n, fuel' = n + 1 := ⟨fuel' - 1, by omega⟩
    have hword := readPlainWord?_append d more h
    simp only [readPlainWords?, h.not_documentSign, (h.shift d).not_documentSign, Bool.false_or,
      startsWith_append h.ne_nil]
    split
    · exact .some h
    · cases hread : readPlainWord? true m s with
      | none => exact .none
      | some word =>
        obtain ⟨hahead, hread'⟩ := hword word hread
        have hempty : word.rest.isEmpty = false := by simpa using hahead.ne_nil
        have hempty' : (word.rest ++ more).isEmpty = false := by simp [hahead.ne_nil]
        simp only [hread', Reading.embed, hempty, hempty', endsWord_append hahead.ne_nil,
          Bool.false_or]
        split
        · exact .some hahead
        · -- The gap before the next word is not broken either.
          have hbefore : (if word.value.isEmpty = true then g else {} : Gap).broken = false := by
            split
            · exact hg
            · rfl
          have hgap := readGap?_append d more indent indent' hahead hbefore
          cases hread : readGap? indent (if word.value.isEmpty = true then g else {}) word.mark
              word.rest with
          | none => exact .none
          | some gap =>
            obtain ⟨hahead', hread'⟩ := hgap gap hread
            simp only [hread', Reading.embed, Bool.not_true, Bool.false_and, Bool.false_eq_true,
              if_false]
            have hrest := ih hahead' (broken_of_readGap? hahead hbefore hread)
              (Nat.le_of_succ_le_succ hfuel)
            exact hrest.map fun words =>
              ((if word.value.isEmpty = true then [] else g.fold ++ word.value) ++ words.1, words.2)

theorem readPlain?_append {indent indent' : Int} (h : Ahead m s) :
    Alike d more (readPlain? true indent m s) (readPlain? true indent' (m.shift d) (s ++ more)) :=
  readPlainWords?_append d more h rfl (by simp)

/-! ## Quoted scalars -/

theorem readCode?_append {count : Nat} {x : Char} (h : readCode? count s = some x) :
    readCode? count (s ++ more) = some x := by
  rw [readCode?] at h ⊢
  split at h
  · exact nomatch h
  · rename_i hcount
    have hlength : ¬ (s ++ more).length < count := by
      rw [List.length_append]
      omega
    rw [if_neg hlength, List.take_append_of_le_length (by omega)]
    exact h

theorem readEscape?_append {p : Char × Nat} (h : readEscape? s = some p) :
    readEscape? (s ++ more) = some p := by
  cases s with
  | nil => exact nomatch h
  | cons c rest =>
    simp only [readEscape?, List.cons_append] at h ⊢
    split at h
    · obtain ⟨x, hx, rfl⟩ := Option.map_eq_some_iff.1 h
      simp only [readCode?_append more hx, Option.map_some]
    · exact h

/-- A word of a quoted scalar that does not go on to the end of the text. -/
theorem readQuotedWord?_append {double : Bool} {skipped : Nat} {r : Reading QuotedWord}
    (h : s = [] ∨ Ahead m s) (hr : readQuotedWord? double skipped m s = some r)
    (hrest : r.rest ≠ []) :
    r.value.escapedBreak = false ∧ Ahead r.mark r.rest ∧
      readQuotedWord? double skipped (m.shift d) (s ++ more) = some (r.embed d more) := by
  -- On the text.  It may run out only behind the brace, and then nothing of it remains.
  induction s generalizing skipped m r with
  | nil =>
    simp only [readQuotedWord?, Option.some.injEq] at hr
    subst hr
    exact absurd rfl hrest
  | cons c rest ih =>
    have hahead : Ahead m (c :: rest) := h.resolve_left (List.cons_ne_nil c rest)
    have hc : isBreak c = false := hahead.not_break
    have hnext : rest = [] ∨ Ahead (m.after c) rest := by
      by_cases hnil : rest = []
      · exact .inl hnil
      · exact .inr (hahead.tail hnil)
    -- After a character that was read, the rest of the word is read in the same way.
    have hcons {x : Char} {k : Nat}
        (hr : (readQuotedWord? double k (m.after c) rest).map (fun r =>
          { r with value := { r.value with text := x :: r.value.text } }) = some r) :
        r.value.escapedBreak = false ∧ Ahead r.mark r.rest ∧
          (readQuotedWord? double k ((m.shift d).after c) (rest ++ more)).map (fun r =>
            { r with value := { r.value with text := x :: r.value.text } }) =
            some (r.embed d more) := by
      obtain ⟨r', hr', rfl⟩ := Option.map_eq_some_iff.1 hr
      obtain ⟨hbreak, hahead', hread⟩ := ih hnext hr' hrest
      refine ⟨hbreak, hahead', ?_⟩
      rw [Mark.after_shift d hc, hread]
      rfl
    cases skipped with
    | succ k =>
      -- The character belongs to an escape that was read before.
      simp only [readQuotedWord?, List.cons_append, Mark.after_shift d hc] at hr ⊢
      exact ih hnext hr hrest
    | zero =>
      -- A doubled quote is seen one character ahead, and the brace is none.
      have hstarts : (!double && c == '\'' && startsWith '\'' (rest ++ more)) =
          (!double && c == '\'' && startsWith '\'' rest) := by
        by_cases hnil : rest = []
        · subst hnil
          obtain rfl : c = '\x7d' := Option.some.inj hahead.closed
          simp
        · rw [startsWith_append hnil]
      simp only [readQuotedWord?, List.cons_append, hstarts] at hr ⊢
      generalize (if double = true then '"' else '\'') = quote at hr ⊢
      split_ifs at hr ⊢ with hend hdoubled hquote hescape
      · -- a blank ends the word
        obtain rfl := Option.some.inj hr
        exact ⟨rfl, hahead, rfl⟩
      · -- a doubled quote stands for one
        exact hcons hr
      · -- the quote ends the word
        obtain rfl := Option.some.inj hr
        exact ⟨rfl, hahead, rfl⟩
      · -- an escape, which is not that of a line break
        cases rest with
        | nil => exact nomatch hr
        | cons b after =>
          have hb : isBreak b = false := hahead.line b (by simp)
          simp only [List.cons_append, hb, Bool.false_eq_true, if_false] at hr ⊢
          cases hread : readEscape? (b :: after) with
          | none =>
            rw [hread] at hr
            exact nomatch hr
          | some p =>
            rw [hread] at hr
            rw [← List.cons_append, readEscape?_append more hread]
            exact hcons hr
      · -- any other character
        exact hcons hr

theorem readQuotedWords?_append {double : Bool} {fuel fuel' : Nat} (h : Ahead m s)
    (hfuel : fuel ≤ fuel') :
    Alike d more (readQuotedWords? double fuel m s)
      (readQuotedWords? double fuel' (m.shift d) (s ++ more)) := by
  -- On the fuel, as for plain words.  A word up to the end of the text lacks its quote and is not
  -- read, so only one that ends before it matters.
  induction fuel generalizing fuel' m s with
  | zero => exact .none
  | succ fuel ih =>
    obtain ⟨fuel', rfl⟩ : ∃ n, fuel' = n + 1 := ⟨fuel' - 1, by omega⟩
    have hempty : s.isEmpty = false := by simpa using h.ne_nil
    have hempty' : (s ++ more).isEmpty = false := by simp [h.ne_nil]
    simp only [readQuotedWords?, h.not_documentSign, (h.shift d).not_documentSign, hempty, hempty',
      Bool.or_self, Bool.false_eq_true, if_false]
    cases hread : readQuotedWord? double 0 m s with
    | none => exact .none
    | some word =>
      by_cases hrest : word.rest = []
      · simp only [hrest]
        exact .none
      · obtain ⟨hbreak, hahead, hread'⟩ := readQuotedWord?_append d more (.inr h) hread hrest
        obtain ⟨c, rest, hword⟩ := List.exists_cons_of_ne_nil hrest
        simp only [hread', Reading.embed, hword, List.cons_append, hbreak]
        rw [hword] at hahead
        have hne : (if double = true then '"' else '\'') ≠ '\x7d' := by cases double <;> decide
        generalize (if double = true then '"' else '\'') = quote at hne ⊢
        split
        · -- The quote is not the last character of the text.
          rename_i hquote
          have hc : c ≠ '\x7d' := by
            rintro rfl
            simp only [Bool.and_eq_true, beq_iff_eq] at hquote
            exact hne hquote.1.symm
          rw [Mark.after_shift d hahead.not_break]
          exact .some (hahead.tail_of_ne hc)
        · -- A gap follows, and then the next word.
          have hgap := readGap?_append d more 0 0 (g := { broken := false }) hahead rfl
          cases hread : readGap? 0 { broken := false } word.mark (c :: rest) with
          | none => exact .none
          | some gap =>
            obtain ⟨hahead', hread'⟩ := hgap gap hread
            simp only [List.cons_append] at hread'
            simp only [hread', Reading.embed]
            have hrest := ih hahead' (Nat.le_of_succ_le_succ hfuel)
            exact hrest.map fun cs => word.value.text ++ gap.value.fold ++ cs

theorem readQuoted?_append {double : Bool} (h : Ahead m s) :
    Alike d more (readQuoted? double m s) (readQuoted? double (m.shift d) (s ++ more)) :=
  readQuotedWords?_append d more h (by simp)

/-! ## Anchors and tags -/

/-- A text ends with a brace, and another one is an end of it that is not empty. -/
structure Before (s rest : List Char) : Prop where
  suffix : rest <:+ s
  closed : rest.getLast? = some '\x7d'

namespace Before

theorem refl (h : s.getLast? = some '\x7d') : Before s s := ⟨List.suffix_refl s, h⟩

theorem trans {t u : List Char} (h : Before s t) (h' : Before t u) : Before s u :=
  ⟨h'.suffix.trans h.suffix, h'.closed⟩

theorem ne_nil {rest : List Char} (h : Before s rest) : rest ≠ [] := by
  rintro rfl
  exact nomatch h.closed

theorem cons {rest : List Char} (h : (c :: rest).getLast? = some '\x7d') (hc : c ≠ '\x7d') :
    Before (c :: rest) rest := by
  cases rest with
  | nil => exact absurd (Option.some.inj h) hc
  | cons x rest => exact ⟨List.suffix_cons c _, h⟩

end Before

/-- A row of characters that cannot be braces ends before the last brace. -/
theorem length_takeWhile_lt {p : Char → Bool} (hp : p '\x7d' = false)
    (h : s.getLast? = some '\x7d') : (s.takeWhile p).length < s.length := by
  refine Nat.lt_of_le_of_ne (List.takeWhile_prefix p).length_le fun hall => ?_
  have hsame : s.takeWhile p = s := (List.takeWhile_prefix p).eq_of_length hall
  have hmem : '\x7d' ∈ s.takeWhile p := by
    rw [hsame]
    exact List.mem_of_getLast? h
  exact absurd (List.mem_takeWhile_imp hmem) (by simp [hp])

theorem takeWhile_append_of_closed {p : Char → Bool} (hp : p '\x7d' = false)
    (h : s.getLast? = some '\x7d') : (s ++ more).takeWhile p = s.takeWhile p := by
  rw [List.takeWhile_append, if_neg (Nat.ne_of_lt (length_takeWhile_lt hp h))]

theorem before_drop_takeWhile {p : Char → Bool} (hp : p '\x7d' = false)
    (h : s.getLast? = some '\x7d') : Before s (s.drop (s.takeWhile p).length) := by
  refine ⟨List.drop_suffix _ s, ?_⟩
  rw [List.getLast?_drop, if_neg (Nat.not_le.2 (length_takeWhile_lt hp h))]
  exact h

theorem readAnchorName?_append (h : Ahead m s) :
    Alike d more (readAnchorName? m s) (readAnchorName? (m.shift d) (s ++ more)) := by
  have hword : isWordChar '\x7d' = false := by decide
  have hlength := (length_takeWhile_lt hword h.closed).le
  have hname : (s ++ more).takeWhile isWordChar = s.takeWhile isWordChar :=
    takeWhile_append_of_closed more hword h.closed
  have hdrop : (s ++ more).drop (s.takeWhile isWordChar).length =
      s.drop (s.takeWhile isWordChar).length ++ more := List.drop_append_of_le_length hlength
  have hrest := (before_drop_takeWhile hword h.closed).ne_nil
  -- The mark moves on by the name.
  have htake : s.take (s.length - (s.drop (s.takeWhile isWordChar).length).length) =
      s.takeWhile isWordChar := by
    rw [List.length_drop, Nat.sub_sub_self hlength]
    exact (List.prefix_iff_eq_take.1 (List.takeWhile_prefix isWordChar)).symm
  have hahead := h.of_suffix (List.drop_suffix _ s) hrest
  have hline : ∀ c ∈ s.takeWhile isWordChar, isBreak c = false := fun c hc =>
    h.line c ((List.takeWhile_prefix isWordChar).subset hc)
  rw [htake] at hahead
  simp only [readAnchorName?, hname, hdrop, Mark.afterAll_shift d hline]
  obtain ⟨c, rest, hcons⟩ := List.exists_cons_of_ne_nil hrest
  simp only [hcons, List.cons_append] at hahead ⊢
  split
  · exact .none
  · exact .some hahead

/-! ### Tags -/

/-- The same for the readers of parts of tags, which have no marks. -/
def AlikeText {α : Type} (more s : List Char) (x y : Option (α × List Char)) : Prop :=
  ∀ a rest, x = some (a, rest) → Before s rest ∧ y = some (a, rest ++ more)

namespace AlikeText

variable {α β : Type} {more s t : List Char}

theorem none {y : Option (α × List Char)} : AlikeText more s none y := fun _ _ h => nomatch h

theorem some {a : α} (h : Before s t) :
    AlikeText more s (some (a, t)) (some (a, t ++ more)) := by
  intro a' rest hrest
  obtain ⟨rfl, rfl⟩ := Prod.mk.inj (Option.some.inj hrest)
  exact ⟨h, rfl⟩

/-- One reading after another. -/
theorem bind {x y : Option (α × List Char)} {f g : α × List Char → Option (β × List Char)}
    (h : AlikeText more s x y)
    (hfg : ∀ a rest, x = .some (a, rest) → Before s rest →
      AlikeText more rest (f (a, rest)) (g (a, rest ++ more))) :
    AlikeText more s (x.bind f) (y.bind g) := by
  intro b rest hb
  obtain ⟨⟨a, t⟩, hx, hf⟩ := Option.bind_eq_some_iff.1 hb
  obtain ⟨ht, hy⟩ := h a t hx
  obtain ⟨hrest, hg⟩ := hfg a t hx ht b rest hf
  exact ⟨ht.trans hrest, by rw [hy]; exact hg⟩

end AlikeText

theorem readEscapedByte?_append (h : s.getLast? = some '\x7d') :
    AlikeText more s (readEscapedByte? s) (readEscapedByte? (s ++ more)) := by
  intro b rest hb
  rw [readEscapedByte?.eq_def] at hb
  split at hb
  · rename_i x y t
    obtain ⟨n, hn, hpair⟩ := Option.map_eq_some_iff.1 hb
    obtain ⟨rfl, rfl⟩ := Prod.mk.inj hpair
    -- The brace is no digit, so it comes later.
    have hy : y ≠ '\x7d' := by
      rintro rfl
      have hdigit : Text.hexDigit? '\x7d' = none := by decide
      simp only [Text.hexValue?, Text.hexValueFrom?, hdigit] at hn
      split at hn <;> exact nomatch hn
    have hsuffix : t <:+ '%' :: x :: y :: t := ⟨['%', x, y], rfl⟩
    refine ⟨⟨hsuffix, ?_⟩, ?_⟩
    · cases t with
      | nil => exact absurd (Option.some.inj h) hy
      | cons => exact h
    · simp only [List.cons_append, readEscapedByte?, hn, Option.map_some]
  · exact nomatch hb

theorem readTrailingBytes?_append {acc n : Nat} (h : s.getLast? = some '\x7d') :
    AlikeText more s (readTrailingBytes? acc n s) (readTrailingBytes? acc n (s ++ more)) := by
  -- On the number of bytes that are still to come; each leaves the brace ahead.
  induction n generalizing acc s with
  | zero => exact .some (.refl h)
  | succ n ih =>
    have hbyte := readEscapedByte?_append more h
    simp only [readTrailingBytes?]
    cases hread : readEscapedByte? s with
    | none => exact .none
    | some p =>
      obtain ⟨b, rest⟩ := p
      obtain ⟨hrest, hread'⟩ := hbyte b rest hread
      simp only [hread']
      split
      · intro a t ht
        obtain ⟨ht', hmore⟩ := ih hrest.closed a t ht
        exact ⟨hrest.trans ht', hmore⟩
      · exact .none

theorem readEscapedChar?_append (h : s.getLast? = some '\x7d') :
    AlikeText more s (readEscapedChar? s) (readEscapedChar? (s ++ more)) := by
  rw [readEscapedChar?, readEscapedChar?]
  refine (readEscapedByte?_append more h).bind fun b rest _ hrest => ?_
  dsimp only
  cases utf8Length? b with
  | none => exact .none
  | some n =>
    refine (readTrailingBytes?_append more hrest.closed).bind fun code rest' _ hrest' => ?_
    exact .some (.refl hrest'.closed)

theorem length_lt_of_readEscapedByte? {b : Nat} {rest : List Char}
    (h : readEscapedByte? s = some (b, rest)) : rest.length < s.length := by
  rw [readEscapedByte?.eq_def] at h
  split at h
  · obtain ⟨n, -, hpair⟩ := Option.map_eq_some_iff.1 h
    obtain ⟨rfl, rfl⟩ := Prod.mk.inj hpair
    simp only [List.length_cons]
    omega
  · exact nomatch h

/-- An escaped character takes its first byte at least. -/
theorem length_lt_of_readEscapedChar? {x : Char} {rest : List Char}
    (hs : s.getLast? = some '\x7d') (h : readEscapedChar? s = some (x, rest)) :
    rest.length < s.length := by
  obtain ⟨⟨b, t⟩, hbyte, h⟩ := Option.bind_eq_some_iff.1 h
  obtain ⟨n, -, h⟩ := Option.bind_eq_some_iff.1 h
  obtain ⟨⟨code, t'⟩, htrailing, h⟩ := Option.bind_eq_some_iff.1 h
  obtain ⟨-, rfl⟩ := Prod.mk.inj (Option.some.inj h)
  have hclosed : Before s t := (readEscapedByte?_append [] hs b t hbyte).1
  have hsuffix : t' <:+ t :=
    (readTrailingBytes?_append [] hclosed.closed _ _ htrailing).1.suffix
  exact Nat.lt_of_le_of_lt hsuffix.length_le (length_lt_of_readEscapedByte? hbyte)

theorem not_isTagChar_brace (verbatim : Bool) : isTagChar verbatim '\x7d' = false := by
  cases verbatim <;> decide

theorem readTagChars?_append (verbatim : Bool) {fuel fuel' : Nat} (h : s.getLast? = some '\x7d')
    (hfuel : s.length ≤ fuel) (hfuel' : (s ++ more).length ≤ fuel') :
    AlikeText more s (readTagChars? verbatim fuel s)
      (readTagChars? verbatim fuel' (s ++ more)) := by
  -- On the fuel, which lasts as long as the text does: every step takes a character at least.
  induction fuel generalizing fuel' s with
  | zero =>
    obtain rfl := List.length_eq_zero_iff.1 (Nat.le_zero.1 hfuel)
    exact nomatch h
  | succ fuel ih =>
    obtain ⟨c, t, rfl⟩ := List.exists_cons_of_ne_nil (Before.refl h).ne_nil
    obtain ⟨fuel', rfl⟩ : ∃ n, fuel' = n + 1 := ⟨fuel' - 1, by simp at hfuel'; omega⟩
    -- Whatever was read, the characters after it are read in the same way.
    have hrest {x : Char} {rest : List Char} (hrest : Before (c :: t) rest)
        (hlength : rest.length < (c :: t).length) :
        AlikeText more (c :: t)
          ((readTagChars? verbatim fuel rest).map fun p => (x :: p.1, p.2))
          ((readTagChars? verbatim fuel' (rest ++ more)).map fun p => (x :: p.1, p.2)) := by
      intro xs r hr
      obtain ⟨⟨ys, r'⟩, hread, hpair⟩ := Option.map_eq_some_iff.1 hr
      obtain ⟨rfl, rfl⟩ := Prod.mk.inj hpair
      have hshort : rest.length ≤ fuel := by omega
      have hshort' : (rest ++ more).length ≤ fuel' := by
        rw [List.length_append] at hfuel' ⊢
        omega
      obtain ⟨hr', hmore⟩ := ih hrest.closed hshort hshort' ys r' hread
      exact ⟨hrest.trans hr', by rw [hmore]; rfl⟩
    simp only [readTagChars?, List.cons_append]
    split
    · exact .some (.refl h)
    · rename_i htag
      have hc : c ≠ '\x7d' := by
        rintro rfl
        simp [not_isTagChar_brace] at htag
      split
      · -- an escaped character
        have hchar := readEscapedChar?_append more h
        cases hread : readEscapedChar? (c :: t) with
        | none => exact .none
        | some p =>
          obtain ⟨x, rest⟩ := p
          obtain ⟨hrest', hread'⟩ := hchar x rest hread
          rw [List.cons_append] at hread'
          simp only [hread']
          exact hrest hrest' (length_lt_of_readEscapedChar? h hread)
      · -- a character that stands for itself
        exact hrest (.cons h hc) (Nat.lt_succ_self _)

theorem readHandle?_append (h : s.getLast? = some '\x7d') :
    AlikeText more s (readHandle? s) (readHandle? (s ++ more)) := by
  rw [readHandle?.eq_def]
  split
  · rename_i rest
    have hrest : Before ('!' :: rest) rest := .cons h (by decide)
    have hword : isWordChar '\x7d' = false := by decide
    have hdrop := before_drop_takeWhile hword hrest.closed
    have hlength := (length_takeWhile_lt hword hrest.closed).le
    simp only [List.cons_append, readHandle?, takeWhile_append_of_closed more hword hrest.closed,
      List.drop_append_of_le_length hlength]
    generalize rest.drop (rest.takeWhile isWordChar).length = after at hdrop ⊢
    obtain ⟨c, after, rfl⟩ := List.exists_cons_of_ne_nil hdrop.ne_nil
    by_cases hc : c = '!'
    · -- The handle ends with a sign of its own.
      subst hc
      exact .some (hrest.trans (hdrop.trans (.cons hdrop.closed (by decide))))
    · simp only [List.cons_append]
      split
      · rename_i heq
        exact absurd (List.cons.inj heq).1 hc
      · split
        · rename_i heq
          exact absurd (List.cons.inj heq).1 hc
        · exact .some (hrest.trans hdrop)
  · exact .none

theorem readTagParts?_append_verbatim {rest : List Char}
    (h : ('!' :: '<' :: rest).getLast? = some '\x7d') :
    AlikeText more ('!' :: '<' :: rest) (readTagParts? ('!' :: '<' :: rest))
      (readTagParts? ('!' :: '<' :: rest ++ more)) := by
  have hrest : Before ('!' :: '<' :: rest) rest :=
    .trans (.cons h (by decide)) (.cons (Before.cons h (by decide)).closed (by decide))
  have hchars := readTagChars?_append more true hrest.closed le_rfl
    (le_refl (rest ++ more).length)
  simp only [List.cons_append, readTagParts?]
  cases hread : readTagChars? true rest.length rest with
  | none => exact .none
  | some p =>
    obtain ⟨body, after⟩ := p
    obtain ⟨hafter, hread'⟩ := hchars body after hread
    obtain ⟨c, after, rfl⟩ := List.exists_cons_of_ne_nil hafter.ne_nil
    simp only [hread', List.cons_append]
    by_cases hc : c = '>'
    · -- The tag ends here, before the brace.
      subst hc
      show AlikeText more _ (if body.isEmpty = true then none else some (([], body), after))
        (if body.isEmpty = true then none else some (([], body), after ++ more))
      split
      · exact .none
      · exact .some (hrest.trans (hafter.trans (.cons hafter.closed (by decide))))
    · split
      · rename_i heq
        exact absurd (List.cons.inj (Prod.mk.inj (Option.some.inj heq)).2).1 hc
      · exact .none

/-- The sign of a verbatim tag is not put together of a text and what follows its last brace. -/
theorem not_verbatim_append (h : s.getLast? = some '\x7d')
    (hverbatim : ∀ rest, s = '!' :: '<' :: rest → False) :
    ∀ rest, s ++ more = '!' :: '<' :: rest → False := by
  intro rest heq
  obtain ⟨x, t, rfl⟩ := List.exists_cons_of_ne_nil (Before.refl h).ne_nil
  obtain ⟨rfl, htail⟩ := List.cons.inj heq
  obtain ⟨y, t', rfl⟩ := List.exists_cons_of_ne_nil (Before.cons h (by decide)).ne_nil
  obtain ⟨rfl, -⟩ := List.cons.inj htail
  exact hverbatim t' rfl

theorem readTagParts?_append (h : s.getLast? = some '\x7d') :
    AlikeText more s (readTagParts? s) (readTagParts? (s ++ more)) := by
  by_cases hstart : ∃ rest, s = '!' :: '<' :: rest
  · obtain ⟨rest, rfl⟩ := hstart
    exact readTagParts?_append_verbatim more h
  · -- A handle, then the characters of the tag.
    have hverbatim : ∀ rest, s = '!' :: '<' :: rest → False := fun rest heq => hstart ⟨rest, heq⟩
    rw [readTagParts?.eq_2 _ hverbatim, readTagParts?.eq_2 _ (not_verbatim_append more h hverbatim)]
    have hhandle := readHandle?_append more h
    cases hread : readHandle? s with
    | none => exact .none
    | some p =>
      obtain ⟨handle, rest⟩ := p
      obtain ⟨hrest, hread'⟩ := hhandle handle rest hread
      have hchars := readTagChars?_append more false hrest.closed le_rfl
        (le_refl (rest ++ more).length)
      simp only [hread']
      cases hread : readTagChars? false rest.length rest with
      | none => exact .none
      | some p =>
        obtain ⟨body, after⟩ := p
        obtain ⟨hafter, hread'⟩ := hchars body after hread
        simp only [hread']
        split
        · split
          · exact .none
          · exact .some (hrest.trans hafter)
        · exact .some (hrest.trans hafter)

/-- A tag in a flow collection. -/
theorem readTag?_append (h : Ahead m s) :
    Alike d more (readTag? true m s) (readTag? true (m.shift d) (s ++ more)) := by
  intro r hr
  obtain ⟨⟨⟨handle, body⟩, rest⟩, hread, hr⟩ := Option.bind_eq_some_iff.1 hr
  obtain ⟨hrest, hread'⟩ := readTagParts?_append more h.closed _ rest hread
  have hahead := h.of_suffix hrest.suffix hrest.ne_nil
  have hline : ∀ c ∈ s.take (s.length - rest.length), isBreak c = false := fun c hc =>
    h.line c (List.mem_of_mem_take hc)
  have htake : (s ++ more).take ((s ++ more).length - (rest ++ more).length) =
      s.take (s.length - rest.length) := by
    rw [List.length_append, List.length_append, Nat.add_sub_add_right,
      List.take_append_of_le_length (Nat.sub_le _ _)]
  -- What must follow a tag is looked up one character ahead.
  simp only at hr
  split at hr
  · rename_i hend
    obtain rfl := Option.some.inj hr
    refine ⟨hahead, ?_⟩
    simp only [readTag?, hread', Option.bind_eq_bind, Option.bind_some,
      endsWord_append hrest.ne_nil, startsWith_append hrest.ne_nil, hend, if_true, htake,
      Mark.afterAll_shift d hline]
    rfl
  · exact nomatch hr

end TokenAtlas.Yaml
