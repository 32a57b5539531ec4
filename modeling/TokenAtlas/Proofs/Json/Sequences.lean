import TokenAtlas.Json.Reader
import TokenAtlas.Proofs.Json.Numerals

/-!
# Reading what stands between commas

`Json.readSequence` is the same for arrays and objects, so what it reads is said once, for any
reader of items that agrees with any grammar of items.

## Key results

- `readSequence_separated`: items between commas are read one by one
- `separated_of_readSequence`: what is read is nothing but blanks, or items between commas
-/

namespace TokenAtlas.Json

/-! ## Blanks -/

theorem isBlank_iff {c : Char} :
    isBlank c = true ↔ c = ' ' ∨ c = '\t' ∨ c = '\n' ∨ c = '\r' := by
  simp only [isBlank, Bool.or_eq_true, decide_eq_true_eq]
  grind

theorem skipBlanks_cons {c : Char} {s : List Char} (h : isBlank c = false) :
    skipBlanks (c :: s) = c :: s := by
  simp [skipBlanks, h]

theorem skipBlanks_append {b : List Char} (hb : Blank b) (s : List Char) :
    skipBlanks (b ++ s) = skipBlanks s := by
  induction b with
  | nil => rfl
  | cons c b ih =>
    have hc : isBlank c = true := isBlank_iff.2 (hb c (by simp))
    have ih' := ih fun x hx => hb x (by simp [hx])
    simpa [skipBlanks, hc] using ih'

/-- The first character that is no blank is what remains after the blanks. -/
theorem skipBlanks_append_cons {b : List Char} (hb : Blank b) {c : Char} (hc : isBlank c = false)
    (s : List Char) : skipBlanks (b ++ c :: s) = c :: s := by
  rw [skipBlanks_append hb, skipBlanks_cons hc]

/-- What is skipped is blank. -/
theorem exists_blank_append_skipBlanks (s : List Char) :
    ∃ b, Blank b ∧ s = b ++ skipBlanks s := by
  refine ⟨s.takeWhile isBlank, fun c hc => ?_, List.takeWhile_append_dropWhile.symm⟩
  exact isBlank_iff.1 (List.all_eq_true.1 List.all_takeWhile c hc)

theorem isBlank_head_skipBlanks {s : List Char} {c : Char} {r : List Char}
    (h : skipBlanks s = c :: r) : isBlank c = false := by
  have hne : s.dropWhile isBlank ≠ [] := by
    rw [show s.dropWhile isBlank = c :: r from h]
    simp
  have := List.head_dropWhile_not isBlank hne
  simpa [show s.dropWhile isBlank = c :: r from h] using this

theorem blank_nil : Blank [] := fun _ h => absurd h (by simp)

theorem Blank.append {b b' : List Char} (hb : Blank b) (hb' : Blank b') : Blank (b ++ b') :=
  fun c hc => (List.mem_append.1 hc).elim (hb c) (hb' c)

/-- Blanks end a numeral, and so does what ends one itself. -/
theorem Blank.delimited_append {b t : List Char} (hb : Blank b) (ht : Delimited t) :
    Delimited (b ++ t) := by
  cases b with
  | nil => exact ht
  | cons c b =>
    rcases hb c (by simp) with rfl | rfl | rfl | rfl <;>
      exact delimited_cons rfl (by decide) (by decide) (by decide)

theorem delimited_comma {r : List Char} : Delimited (',' :: r) :=
  delimited_cons rfl (by decide) (by decide) (by decide)

theorem skipBlanks_skipBlanks (s : List Char) : skipBlanks (skipBlanks s) = skipBlanks s := by
  cases h : skipBlanks s with
  | nil => rfl
  | cons c r => exact skipBlanks_cons (isBlank_head_skipBlanks h)

/-- A character that closes a sequence: neither blank nor a comma, and no part of a numeral. -/
structure Closes (close : Char) : Prop where
  not_blank : isBlank close = false
  ne_comma : close ≠ ','
  delimited : ∀ r, Delimited (close :: r)

/-- A text that begins with a character that is neither blank nor the closing one. -/
def Starts (close : Char) (t : List Char) : Prop :=
  ∃ c r, t = c :: r ∧ isBlank c = false ∧ c ≠ close

section

variable {α β : Type} {R : α → List Char → Prop} {f : α → Option β}
  {item : List Char → Option (β × List Char)} {close : Char}

/-! ## From the grammar to the reader -/

/-- A sequence has no more items than characters. -/
theorem Separated.length_le {xs : List α} {t : List Char} (h : Separated R xs t)
    (hstart : ∀ x t, R x t → Starts close t) : xs.length ≤ t.length := by
  induction h with
  | one _ hx _ =>
    obtain ⟨c, r, rfl, -⟩ := hstart _ _ hx
    simp only [List.length_cons, List.length_append, List.length_nil]
    omega
  | cons _ hx _ _ ih =>
    obtain ⟨c, r, rfl, -⟩ := hstart _ _ hx
    simp only [List.length_cons, List.length_append]
    omega

/-- The first character of a sequence that is no blank is the first one of its first item. -/
theorem Separated.starts {xs : List α} {t : List Char} (h : Separated R xs t)
    (hstart : ∀ x t, R x t → Starts close t) (rest : List Char) :
    ∃ c r, skipBlanks (t ++ rest) = c :: r ∧ c ≠ close := by
  -- For the first item it does not matter whether others follow.
  have first {x : α} {b t r : List Char} (hb : Blank b) (hx : R x t) :
      ∃ c r', skipBlanks (b ++ (t ++ r)) = c :: r' ∧ c ≠ close := by
    obtain ⟨c, r', rfl, hc, hne⟩ := hstart x t hx
    exact ⟨c, r' ++ r, skipBlanks_append_cons hb hc (r' ++ r), hne⟩
  cases h with
  | one hb hx _ =>
    simp only [List.append_assoc]
    exact first hb hx
  | cons hb hx _ _ =>
    simp only [List.append_assoc]
    exact first hb hx

/-- One item with blanks around it is read up to the character after it. -/
private theorem item_skipBlanks {x : α} {b t b' r : List Char} {c : Char} (hb : Blank b)
    (hb' : Blank b') (hx : R x t) (hstart : ∀ x t, R x t → Starts close t)
    (hc : Delimited (c :: r))
    (hitem : ∀ t rest, R x t → Delimited rest → item (t ++ rest) = (f x).map (·, rest)) :
    item (skipBlanks (b ++ (t ++ (b' ++ c :: r)))) = (f x).map (·, b' ++ c :: r) := by
  have hread := hitem t (b' ++ c :: r) hx (hb'.delimited_append hc)
  obtain ⟨c', r', rfl, hc', -⟩ := hstart x t hx
  rw [List.cons_append, skipBlanks_append_cons hb hc', ← List.cons_append, hread]

/-- Items between commas are read one by one, up to the closing character.  If one of them stands
    for nothing, then so do all together. -/
theorem readItems_separated {xs : List α} {t : List Char} (h : Separated R xs t)
    (hstart : ∀ x t, R x t → Starts close t) (hclose : Closes close)
    (hitem : ∀ x ∈ xs, ∀ t rest, R x t → Delimited rest → item (t ++ rest) = (f x).map (·, rest))
    {fuel : Nat} (hfuel : xs.length ≤ fuel) (rest : List Char) :
    readItems item close fuel (t ++ close :: rest) = (xs.mapM f).map (·, rest) := by
  -- Every item takes one round of the reader, so the fuel is never zero.
  induction h generalizing fuel with
  | @one x b t b' hb hx hb' =>
    obtain ⟨fuel, rfl⟩ : ∃ n, fuel = n + 1 := ⟨fuel - 1, by simp at hfuel; omega⟩
    have hread := item_skipBlanks (c := close) (r := rest) hb hb' hx hstart (hclose.delimited rest)
      (hitem x (by simp))
    simp only [readItems, List.append_assoc, hread]
    cases hf : f x with
    | none => simp [hf]
    | some y => simp [hf, skipBlanks_append_cons hb' hclose.not_blank]
  | @cons x xs b t b' r hb hx hb' _ ih =>
    obtain ⟨fuel, rfl⟩ : ∃ n, fuel = n + 1 := ⟨fuel - 1, by simp at hfuel; omega⟩
    have hread := item_skipBlanks (c := ',') (r := r ++ close :: rest) hb hb' hx hstart
      delimited_comma (hitem x (by simp))
    have ih' : readItems item close fuel (r ++ close :: rest) = (xs.mapM f).map (·, rest) :=
      ih (fun x hx => hitem x (by simp [hx])) (by simpa using hfuel)
    simp only [readItems, List.append_assoc, List.cons_append, hread]
    cases hf : f x with
    | none => simp [hf]
    | some y =>
      have hcomma : ',' ≠ close := Ne.symm hclose.ne_comma
      simp only [Option.map_some, skipBlanks_append_cons hb' (show isBlank ',' = false from rfl),
        if_neg hcomma, if_true, ih']
      cases hfs : xs.mapM f with
      | none => simp [hf, hfs]
      | some ys => simp [hf, hfs]

theorem readItems_skipBlanks (fuel : Nat) (s : List Char) :
    readItems item close fuel (skipBlanks s) = readItems item close fuel s := by
  cases fuel with
  | zero => rfl
  | succ fuel => simp only [readItems, skipBlanks_skipBlanks]

/-- A sequence of items is read one by one. -/
theorem readSequence_separated {xs : List α} {t : List Char} (h : Separated R xs t)
    (hstart : ∀ x t, R x t → Starts close t) (hclose : Closes close)
    (hitem : ∀ x ∈ xs, ∀ t rest, R x t → Delimited rest → item (t ++ rest) = (f x).map (·, rest))
    (rest : List Char) :
    readSequence item close (t ++ close :: rest) = (xs.mapM f).map (·, rest) := by
  obtain ⟨c, r, hskip, hne⟩ := h.starts hstart (close :: rest)
  -- An item takes a character at least, so the length of the text is fuel enough.
  have hfuel : xs.length ≤ (t ++ close :: rest).length := by
    have := h.length_le hstart
    rw [List.length_append]
    omega
  rw [readSequence, hskip]
  simp only [if_neg hne]
  rw [← hskip, readItems_skipBlanks, readItems_separated h hstart hclose hitem hfuel]

/-- A sequence without items is blank up to its closing character. -/
theorem readSequence_blank {b : List Char} (hb : Blank b) (hclose : Closes close)
    (rest : List Char) : readSequence item close (b ++ close :: rest) = some ([], rest) := by
  simp [readSequence, skipBlanks_append_cons hb hclose.not_blank]

/-! ## From the reader to the grammar -/

/-- Blanks before a sequence belong to its first item. -/
theorem Separated.blank_append {xs : List α} {b t : List Char} (hb : Blank b)
    (h : Separated R xs t) : Separated R xs (b ++ t) := by
  cases h with
  | one hb₁ hx hb' =>
    rw [← List.append_assoc]
    exact .one (hb.append hb₁) hx hb'
  | cons hb₁ hx hb' hr =>
    rw [← List.append_assoc]
    exact .cons (hb.append hb₁) hx hb' hr

/-- What is read item by item is a sequence of the grammar, and its items have any property that
    every item has which is read. -/
theorem separated_of_readItems {P : α → Prop}
    (hitem : ∀ s y rest, item s = some (y, rest) →
      ∃ x t, s = t ++ rest ∧ R x t ∧ f x = some y ∧ P x)
    {fuel : Nat} {s : List Char} {ys : List β} {rest : List Char}
    (h : readItems item close fuel s = some (ys, rest)) :
    ∃ xs t, s = t ++ close :: rest ∧ Separated R xs t ∧ xs.mapM f = some ys ∧
      ∀ x ∈ xs, P x := by
  induction fuel generalizing s ys with
  | zero => exact nomatch h
  | succ fuel ih =>
    -- The blanks that the reader passes over are named, to be put back in the text: `b` before the
    -- item and `b'` after it.
    obtain ⟨b, hb, hs⟩ := exists_blank_append_skipBlanks s
    rw [readItems] at h
    cases hread : item (skipBlanks s) with
    | none => simp [hread] at h
    | some p =>
      obtain ⟨y, s₁⟩ := p
      obtain ⟨x, t, ht, hx, hf, hP⟩ := hitem _ _ _ hread
      obtain ⟨b', hb', hs₁⟩ := exists_blank_append_skipBlanks s₁
      simp only [hread] at h
      cases hskip : skipBlanks s₁ with
      | nil => simp [hskip] at h
      | cons c r =>
        rw [hskip] at hs₁
        simp only [hskip] at h
        by_cases hc : c = close
        · -- The item was the last one.
          simp only [hc, if_true, Option.some.injEq, Prod.mk.injEq] at h
          obtain ⟨rfl, rfl⟩ := h
          refine ⟨[x], b ++ (t ++ b'), ?_, .one hb hx hb', by simp [hf], by simpa using hP⟩
          rw [hs, ht, hs₁, hc]
          simp
        · by_cases hcomma : c = ','
          · -- Another item follows.
            rw [if_neg hc, if_pos hcomma] at h
            obtain ⟨⟨ys', rest'⟩, hrest, heq⟩ := Option.map_eq_some_iff.1 h
            obtain ⟨rfl, rfl⟩ := Prod.mk.inj heq
            obtain ⟨xs, r', rfl, hxs, hfs, hPs⟩ := ih hrest
            refine ⟨x :: xs, b ++ (t ++ (b' ++ ',' :: r')), ?_, .cons hb hx hb' hxs,
              by simp [hf, hfs], ?_⟩
            · rw [hs, ht, hs₁, hcomma]
              simp
            · simpa using ⟨hP, hPs⟩
          · simp [hc, hcomma] at h

/-- What is read as a sequence is nothing but blanks, or a sequence of the grammar. -/
theorem separated_of_readSequence {P : α → Prop}
    (hitem : ∀ s y rest, item s = some (y, rest) →
      ∃ x t, s = t ++ rest ∧ R x t ∧ f x = some y ∧ P x)
    {s : List Char} {ys : List β} {rest : List Char}
    (h : readSequence item close s = some (ys, rest)) :
    ∃ xs t, s = t ++ close :: rest ∧ (xs = [] ∧ Blank t ∨ Separated R xs t) ∧
      xs.mapM f = some ys ∧ ∀ x ∈ xs, P x := by
  obtain ⟨b, hb, hs⟩ := exists_blank_append_skipBlanks s
  rw [readSequence] at h
  cases hskip : skipBlanks s with
  | nil => simp [hskip] at h
  | cons c r =>
    rw [hskip] at hs
    simp only [hskip] at h
    by_cases hc : c = close
    · -- There are no items.
      simp only [hc, if_true, Option.some.injEq, Prod.mk.injEq] at h
      obtain ⟨rfl, rfl⟩ := h
      exact ⟨[], b, by rw [hs, hc], .inl ⟨rfl, hb⟩, rfl, by simp⟩
    · simp only [hc, if_false] at h
      obtain ⟨xs, t, ht, hxs, hfs, hPs⟩ := separated_of_readItems hitem h
      refine ⟨xs, b ++ t, ?_, .inr (hxs.blank_append hb), hfs, hPs⟩
      rw [hs, ht, List.append_assoc]

end

end TokenAtlas.Json
