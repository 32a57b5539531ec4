import TokenAtlas.Json.Printer
import TokenAtlas.Proofs.Yaml.Lookahead

/-!
# Words on one line

What the readers of scalars give for the two simplest ways to write a scalar on one line: as a plain
word that what follows it bounds, and as a string of printable ASCII characters as JSON writes it.

## Key results

- `readPlain?_word`: a plain word is read as it stands
- `readQuoted?_escaped`: a string is read as JSON writes it
-/

namespace TokenAtlas.Yaml

variable {m : Mark} {c : Char}

/-! ## Plain words -/

/-- Whether a character may stand anywhere in a plain word. -/
def isPlainChar (c : Char) : Bool := !isBlank c && !isBreak c && c != ':' && !isFlowBound c

theorem readPlainWord?_append_of_plain {flow : Bool} {w rest : List Char}
    (hw : ∀ c ∈ w, isPlainChar c = true) :
    readPlainWord? flow m (w ++ rest) =
      (readPlainWord? flow (m.afterAll w) rest).map fun r => { r with value := w ++ r.value } := by
  induction w generalizing m with
  | nil =>
    simp only [List.nil_append, Mark.afterAll, List.foldl_nil]
    cases readPlainWord? flow m rest <;> rfl
  | cons c w ih =>
    obtain ⟨hc, hw⟩ := List.forall_mem_cons.1 hw
    simp only [isPlainChar, Bool.and_eq_true, Bool.not_eq_true', bne_iff_ne, ne_eq] at hc
    obtain ⟨⟨⟨hblank, hbreak⟩, hcolon⟩, hbound⟩ := hc
    have hstray : isStrayColon flow (c :: (w ++ rest)) = false := by
      cases h : w ++ rest <;> simp [isStrayColon, hcolon]
    have hends : endsPlain flow (c :: (w ++ rest)) = false := by simp [endsPlain, hcolon, hbound]
    simp only [List.cons_append, readPlainWord?, hblank, hbreak, hstray, hends, Bool.or_self,
      Bool.false_eq_true, if_false, ih hw, Option.map_map]
    rfl

/-- A word that what follows it bounds. -/
theorem readPlain?_word {flow : Bool} {indent : Int} {w rest : List Char} (hne : w ≠ [])
    (hw : ∀ c ∈ w, isPlainChar c = true) (hsign : atDocumentSign m (w ++ c :: rest) = false)
    (hhash : startsWith '#' w = false) (hword : endsWord (c :: rest) = false)
    (hstray : isStrayColon flow (c :: rest) = false) (hend : endsPlain flow (c :: rest) = true) :
    readPlain? flow indent m (w ++ c :: rest) = some ⟨(w, false), m.afterAll w, c :: rest⟩ := by
  have hhash' : startsWith '#' (w ++ c :: rest) = false := by rw [startsWith_append hne, hhash]
  have hstop : readPlainWord? flow (m.afterAll w) (c :: rest) =
      some ⟨[], m.afterAll w, c :: rest⟩ := by
    rw [endsWord] at hword
    simp only [readPlainWord?, hword, hstray, hend, Bool.false_eq_true, if_false, if_true]
  have hempty : w.isEmpty = false := by simpa using hne
  simp only [readPlain?, readPlainWords?, hsign, hhash', readPlainWord?_append_of_plain hw, hstop,
    Option.map_some, List.append_nil, hempty, List.isEmpty_cons, hword, Bool.or_self,
    Bool.false_eq_true, if_false, Bool.not_false, Bool.false_or, if_true, Bool.false_and]
  rfl

/-! ## Strings as JSON writes them -/

/-- The printable characters of ASCII. -/
def IsPrintable (c : Char) : Prop := 0x20 ≤ c.toNat ∧ c.toNat ≤ 0x7E

theorem IsPrintable.not_break (h : IsPrintable c) : isBreak c = false := by
  have hne : c ≠ '\n' := by
    rintro rfl
    exact absurd h.1 (by decide)
  have h85 : c.toNat ≠ 0x2028 := by have := h.2; omega
  have h29 : c.toNat ≠ 0x2029 := by have := h.2; omega
  simp [isBreak, hne, h85, h29]

theorem IsPrintable.not_blank (h : IsPrintable c) (hc : c ≠ ' ') : isBlank c = false := by
  have htab : c ≠ '\t' := by
    rintro rfl
    exact absurd h.1 (by decide)
  simp [isBlank, hc, htab]

/-- Only the quote and the backslash are escaped. -/
theorem escapeChar_of_printable (h : IsPrintable c) :
    (c = '"' ∨ c = '\\') ∧ Json.escapeChar c = ['\\', c] ∨
      (c ≠ '"' ∧ c ≠ '\\') ∧ Json.escapeChar c = [c] := by
  unfold Json.escapeChar
  split
  · exact .inl ⟨.inl rfl, rfl⟩
  · exact .inl ⟨.inr rfl, rfl⟩
  · exact absurd h.1 (by decide)
  · exact absurd h.1 (by decide)
  · exact absurd h.1 (by decide)
  · exact absurd h.1 (by decide)
  · exact absurd h.1 (by decide)
  · rename_i hquote hbackslash _ _ _ _ _
    have hcontrol : ¬ c < ' ' := Nat.not_lt.2 h.1
    exact .inr ⟨⟨hquote, hbackslash⟩, if_neg hcontrol⟩

/-- What JSON writes for printable characters is printable. -/
theorem isPrintable_of_mem_escapeChar {x : Char} (h : IsPrintable c)
    (hx : x ∈ Json.escapeChar c) : IsPrintable x := by
  rcases escapeChar_of_printable h with ⟨-, heq⟩ | ⟨-, heq⟩
  · rw [heq] at hx
    rcases List.mem_pair.1 hx with rfl | rfl
    · exact ⟨by decide, by decide⟩
    · exact h
  · rw [heq, List.mem_singleton] at hx
    exact hx ▸ h

/-- A word between quotes, up to a space or the last quote. -/
theorem readQuotedWord?_escaped {w rest : List Char} (hw : ∀ c ∈ w, IsPrintable c ∧ c ≠ ' ')
    (hc : c = ' ' ∨ c = '"') :
    readQuotedWord? true 0 m (w.flatMap Json.escapeChar ++ c :: rest) =
      some ⟨⟨w, false⟩, m.afterAll (w.flatMap Json.escapeChar), c :: rest⟩ := by
  induction w generalizing m with
  | nil => rcases hc with rfl | rfl <;> rfl
  | cons x w ih =>
    obtain ⟨⟨hx, hspace⟩, hw⟩ := List.forall_mem_cons.1 hw
    have hblank := hx.not_blank hspace
    have hbreak := hx.not_break
    rw [List.flatMap_cons, List.append_assoc]
    rcases escapeChar_of_printable hx with ⟨hescaped, heq⟩ | ⟨⟨hquote, hbackslash⟩, heq⟩
    · -- The escape is read, and then its letter is passed over.
      have hread : readEscape? (x :: (w.flatMap Json.escapeChar ++ c :: rest)) = some (x, 1) := by
        rcases hescaped with rfl | rfl <;> rfl
      have hslash : isBlank '\\' = false ∧ isBreak '\\' = false := by decide
      simp only [heq, List.cons_append, List.nil_append, readQuotedWord?, hslash, hbreak, hread,
        ih hw, Bool.or_self, Bool.false_eq_true, if_false, Bool.not_true, Bool.false_and,
        Option.map_some]
      rfl
    · simp only [heq, List.cons_append, List.nil_append, readQuotedWord?, hblank, hbreak,
        ih hw, Bool.or_self, Bool.false_eq_true, if_false, Bool.not_true, Bool.false_and,
        Option.map_some, if_true, beq_eq_false_iff_ne.2 hquote, beq_eq_false_iff_ne.2 hbackslash,
        Bool.and_false]
      rfl

/-- Spaces between two words stand as they are. -/
theorem readGap?_spaces {indent : Int} {n : Nat} {blanks rest : List Char}
    (hc : isBlank c = false) (hbreak : isBreak c = false) :
    readGap? indent { blanks } m (List.replicate n ' ' ++ c :: rest) =
      some ⟨{ blanks := List.replicate n ' ' ++ blanks }, m.afterAll (List.replicate n ' '),
        c :: rest⟩ := by
  induction n generalizing m blanks with
  | zero => simp [readGap?, hc, hbreak, Mark.afterAll]
  | succ n ih =>
    have hspace : isBlank ' ' = true := by decide
    simp only [List.replicate_succ, List.cons_append, readGap?, hspace, if_true, Bool.false_and,
      Bool.false_eq_true, if_false, Gap.addBlank, ih]
    have hblanks : List.replicate n ' ' ++ ' ' :: blanks =
        ' ' :: (List.replicate n ' ' ++ blanks) := by
      rw [← List.cons_append, ← List.replicate_succ, List.replicate_succ', List.append_assoc]
      rfl
    rw [hblanks]
    rfl

/-- A text is a word, spaces, and the rest after them; without spaces there is no rest. -/
theorem exists_word (s : List Char) :
    ∃ w n t, s = w ++ (List.replicate n ' ' ++ t) ∧ (∀ c ∈ w, c ≠ ' ') ∧ (n = 0 → t = []) ∧
      ∀ c r, t = c :: r → c ≠ ' ' := by
  induction s with
  | nil => exact ⟨[], 0, [], rfl, by simp, fun _ => rfl, nofun⟩
  | cons c s ih =>
    obtain ⟨w, n, t, rfl, hw, hn, ht⟩ := ih
    by_cases hc : c = ' '
    · subst hc
      cases w with
      | nil => exact ⟨[], n + 1, t, rfl, by simp, nofun, ht⟩
      | cons x w =>
        refine ⟨[], 1, x :: (w ++ (List.replicate n ' ' ++ t)), rfl, by simp, nofun, ?_⟩
        intro c r hcons
        rw [← (List.cons.inj hcons).1]
        exact hw x (List.mem_cons_self)
    · refine ⟨c :: w, n, t, rfl, ?_, hn, ht⟩
      intro x hx
      rcases List.mem_cons.1 hx with rfl | hmem
      · exact hc
      · exact hw x hmem

/-- What JSON writes for a string of printable characters has no line break. -/
theorem not_break_of_mem_escaped {s : List Char} (hs : ∀ c ∈ s, IsPrintable c) {x : Char}
    (hx : x ∈ s.flatMap Json.escapeChar) : isBreak x = false := by
  obtain ⟨c, hc, hx⟩ := List.mem_flatMap.1 hx
  exact (isPrintable_of_mem_escapeChar (hs c hc) hx).not_break

theorem isPrintable_of_mem_renderString {s : String} (h : ∀ c ∈ s.toList, IsPrintable c) :
    ∀ c ∈ Json.renderString s, IsPrintable c := by
  have hquote : IsPrintable '"' := ⟨by decide, by decide⟩
  simp only [Json.renderString, List.forall_mem_cons, List.forall_mem_append,
    List.forall_mem_flatMap]
  exact ⟨hquote, fun c hc x hx => isPrintable_of_mem_escapeChar (h c hc) hx, hquote, nofun⟩

/-- Every character is written as one or two. -/
theorem length_escaped {s : List Char} (hs : ∀ c ∈ s, IsPrintable c) :
    s.length ≤ (s.flatMap Json.escapeChar).length ∧
      (s.flatMap Json.escapeChar).length ≤ 2 * s.length := by
  induction s with
  | nil => exact ⟨Nat.le_refl 0, Nat.le_refl 0⟩
  | cons c s ih =>
    obtain ⟨hc, hs⟩ := List.forall_mem_cons.1 hs
    obtain ⟨hlow, hhigh⟩ := ih hs
    rw [List.flatMap_cons, List.length_append, List.length_cons]
    rcases escapeChar_of_printable hc with ⟨-, heq⟩ | ⟨-, heq⟩ <;>
    · rw [heq]
      simp only [List.length_cons, List.length_nil]
      omega

/-- What JSON writes begins with a space only where the string does. -/
theorem exists_head_escaped {s : List Char} (hs : ∀ c ∈ s, IsPrintable c)
    (hspace : ∀ c r, s = c :: r → c ≠ ' ') (rest : List Char) :
    ∃ x r, s.flatMap Json.escapeChar ++ '"' :: rest = x :: r ∧ isBlank x = false ∧
      isBreak x = false := by
  cases s with
  | nil => exact ⟨'"', rest, rfl, by decide, by decide⟩
  | cons c s =>
    have hc : IsPrintable c := hs c List.mem_cons_self
    rw [List.flatMap_cons]
    rcases escapeChar_of_printable hc with ⟨-, heq⟩ | ⟨-, heq⟩
    · rw [heq]
      exact ⟨'\\', _, rfl, by decide, by decide⟩
    · rw [heq]
      exact ⟨c, _, rfl, hc.not_blank (hspace c s rfl), hc.not_break⟩

theorem flatMap_escapeChar_spaces (n : Nat) :
    (List.replicate n ' ').flatMap Json.escapeChar = List.replicate n ' ' := by
  induction n with
  | zero => rfl
  | succ n ih =>
    have hspace : Json.escapeChar ' ' = [' '] := by decide
    rw [List.replicate_succ, List.flatMap_cons, ih, hspace]
    rfl

section Words

variable {fuel : Nat} {w rest : List Char}

/-- A word of a string, up to the last quote or the first space after it. -/
theorem readQuotedWords?_word (hcolumn : 0 < m.column) (hw : ∀ c ∈ w, IsPrintable c ∧ c ≠ ' ')
    (hc : c = ' ' ∨ c = '"') :
    readQuotedWords? true (fuel + 1) m (w.flatMap Json.escapeChar ++ c :: rest) =
      if c = '"' then some ⟨w, (m.afterAll (w.flatMap Json.escapeChar)).after c, rest⟩
      else (readGap? 0 {} (m.afterAll (w.flatMap Json.escapeChar)) (c :: rest)).bind fun gap =>
        (readQuotedWords? true fuel gap.mark gap.rest).map fun r =>
          { r with value := w ++ gap.value.fold ++ r.value } := by
  have hsign (s : List Char) : atDocumentSign m s = false := by
    have hne : (m.column == 0) = false := by simpa using Nat.ne_of_gt hcolumn
    simp only [atDocumentSign, hne, Bool.false_and]
  have hempty : (w.flatMap Json.escapeChar ++ c :: rest).isEmpty = false := by simp
  simp only [readQuotedWords?, hsign, hempty, Bool.or_self, Bool.false_eq_true, if_false,
    readQuotedWord?_escaped hw hc]
  rcases hc with rfl | rfl
  · have hquote : (' ' == '"') = false := by decide
    simp only [if_true, hquote, Bool.false_and, Bool.false_eq_true, if_false]
    cases readGap? 0 {} (m.afterAll (w.flatMap Json.escapeChar)) (' ' :: rest) <;> rfl
  · rfl

/-- A word before others, and the spaces after it. -/
theorem readQuotedWords?_spaces {n : Nat} (hcolumn : 0 < m.column)
    (hw : ∀ c ∈ w, IsPrintable c ∧ c ≠ ' ') (hblank : isBlank c = false)
    (hbreak : isBreak c = false) :
    readQuotedWords? true (fuel + 1) m
        (w.flatMap Json.escapeChar ++ (List.replicate (n + 1) ' ' ++ c :: rest)) =
      (readQuotedWords? true fuel ((m.afterAll (w.flatMap Json.escapeChar)).afterAll
        (List.replicate (n + 1) ' ')) (c :: rest)).map fun r =>
          { r with value := w ++ List.replicate (n + 1) ' ' ++ r.value } := by
  have hgap : readGap? 0 {} (m.afterAll (w.flatMap Json.escapeChar))
      (' ' :: (List.replicate n ' ' ++ c :: rest)) =
      some ⟨{ blanks := List.replicate (n + 1) ' ' ++ [] },
        (m.afterAll (w.flatMap Json.escapeChar)).afterAll (List.replicate (n + 1) ' '),
        c :: rest⟩ :=
    readGap?_spaces (n := n + 1) hblank hbreak
  have hfold : Gap.fold { blanks := List.replicate (n + 1) ' ' ++ [] } =
      List.replicate (n + 1) ' ' := by simp [Gap.fold]
  have hspace : ¬ ' ' = '"' := by decide
  show readQuotedWords? true (fuel + 1) m
    (w.flatMap Json.escapeChar ++ ' ' :: (List.replicate n ' ' ++ c :: rest)) = _
  rw [readQuotedWords?_word hcolumn hw (.inl rfl), if_neg hspace, hgap, Option.bind_some, hfold]

end Words

/-- The words of a string and the spaces between them, up to the last quote. -/
theorem readQuotedWords?_escaped {fuel : Nat} {s rest : List Char} (hs : ∀ c ∈ s, IsPrintable c)
    (hcolumn : 0 < m.column) (hfuel : s.length < fuel) :
    readQuotedWords? true fuel m (s.flatMap Json.escapeChar ++ '"' :: rest) =
      some ⟨s, (m.afterAll (s.flatMap Json.escapeChar)).after '"', rest⟩ := by
  induction fuel generalizing m s with
  | zero => exact absurd hfuel (Nat.not_lt_zero _)
  | succ fuel ih =>
    obtain ⟨w, n, t, rfl, hw, hn, ht⟩ := exists_word s
    simp only [List.forall_mem_append] at hs
    obtain ⟨hword, -, htail⟩ := hs
    have hprintable : ∀ c ∈ w, IsPrintable c ∧ c ≠ ' ' := fun c hc => ⟨hword c hc, hw c hc⟩
    cases n with
    | zero =>
      obtain rfl := hn rfl
      simpa using readQuotedWords?_word hcolumn hprintable (.inr rfl)
    | succ n =>
      -- The words after the spaces are read in the same way.
      obtain ⟨c, r, hcons, hblank, hbreak⟩ := exists_head_escaped htail ht rest
      have hspaces : ∀ c ∈ List.replicate (n + 1) ' ', isBreak c = false := fun c hc => by
        rw [List.eq_of_mem_replicate hc]
        decide
      have hcolumn' : 0 < ((m.afterAll (w.flatMap Json.escapeChar)).afterAll
          (List.replicate (n + 1) ' ')).column := by
        rw [Mark.column_afterAll hspaces, Mark.column_afterAll fun c hc =>
          not_break_of_mem_escaped hword hc]
        omega
      have hshort : t.length < fuel := by
        simp only [List.length_append, List.length_replicate] at hfuel
        omega
      have htext : (w ++ (List.replicate (n + 1) ' ' ++ t)).flatMap Json.escapeChar =
          w.flatMap Json.escapeChar ++
            (List.replicate (n + 1) ' ' ++ t.flatMap Json.escapeChar) := by
        rw [List.flatMap_append, List.flatMap_append, flatMap_escapeChar_spaces]
      rw [htext, List.append_assoc, List.append_assoc, hcons,
        readQuotedWords?_spaces hcolumn hprintable hblank hbreak, ← hcons, ih htail hcolumn' hshort]
      simp only [Option.map_some, Mark.afterAll, List.foldl_append, List.append_assoc]

/-- A string is read as JSON writes it. -/
theorem readQuoted?_escaped {s rest : List Char} (hs : ∀ c ∈ s, IsPrintable c)
    (hcolumn : 0 < m.column) :
    readQuoted? true m (s.flatMap Json.escapeChar ++ '"' :: rest) =
      some ⟨s, (m.afterAll (s.flatMap Json.escapeChar)).after '"', rest⟩ := by
  refine readQuotedWords?_escaped hs hcolumn ?_
  have hlength := (length_escaped hs).1
  rw [List.length_append, List.length_cons]
  omega

end TokenAtlas.Yaml
