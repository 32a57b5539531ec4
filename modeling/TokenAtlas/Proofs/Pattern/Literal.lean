import Mathlib.Data.List.Infix
import TokenAtlas.Proofs.Recognition

/-!
# Literal patterns

A text is made a pattern for itself by a backslash before each of its characters that would stand
for something else.  Such a pattern is read as the sequence of the characters, so it occurs in the
tokens that contain the text.  Between the anchors for the start and the end of a token it occurs in
no other token than the text itself.

The reader takes one item for each character and collects them as leaves, in `Progress.leaves`.
That both patterns are accepted too rests on what the compiler counts for single characters and
anchors in a row, `SizeCheck.RowsAreSmall`.

## Key results

- `readParts?_escaped`: the items that an escaped text is read as
- `isReadAs_leaves`: the pattern of a text that is read as leaves
- `isReadAs_literalSource`, `isReadAs_wholeSource`: the patterns of the two kinds of texts
- `occurs_characters_iff`, `occurs_anchored_iff`: where they occur
- `Recognizer.exists_ofSource`: rows of single characters and anchors are accepted
- `Recognizer.escaped_knows`: the tokens that they know
-/

namespace TokenAtlas

namespace Pattern

/-- The characters that stand for something else when they stand alone in a pattern. -/
def signs : List Char :=
  ['\\', '.', '+', '*', '?', '(', ')', '|', '[', ']', '\x7b', '\x7d', '^', '$']

/-- A character with a backslash before it, if it needs one to stand for itself. -/
def escapedChar (c : Char) : List Char := if c ∈ signs then ['\\', c] else [c]

/-- A text in which every character stands for itself. -/
def escaped (s : List Char) : List Char := s.flatMap escapedChar

/-- The pattern for a text that occurs somewhere. -/
def literalSource (s : String) : String := .ofList (escaped s.toList)

/-- The pattern for a text that is the whole token. -/
def wholeSource (s : String) : String := .ofList ('^' :: (escaped s.toList ++ ['$']))

/-! ## Reading -/

/-- What the reader knows after some leaves, while no flag is set. -/
def Progress.leaves (ps : List Pattern) : Progress where
  flags := {}
  names := []
  items := ps.reverse.map fun p => .piece ⟨p, 0⟩

theorem Progress.pushLeaf_leaves (ps : List Pattern) (p : Pattern) :
    (leaves ps).pushLeaf p = leaves (ps ++ [p]) := by
  simp [leaves, pushLeaf, push]

variable {fuel : Nat} {ps : List Pattern} {rest : List Char}

/-- Parts that are no groups and end no branch are read one by one. -/
theorem readParts?_leaf {c : Char} {rest' : List Char} {p : Pattern}
    (hc : c ∉ [')', '|', '('])
    (hpart : readPart? (.leaves ps) (c :: rest) = some ((Progress.leaves ps).pushLeaf p, rest')) :
    readParts? (fuel + 1) (.leaves ps) (c :: rest) =
      readParts? fuel (.leaves (ps ++ [p])) rest' := by
  simp only [List.mem_cons, List.not_mem_nil, or_false, not_or] at hc
  have hskip : skip (Progress.leaves ps).flags (c :: rest) = c :: rest := rfl
  rw [readParts?, hskip]
  -- Only the last row of the match applies.
  split
  · rename_i heq
    cases heq
  · rename_i heq
    exact absurd (List.cons.inj heq).1 hc.1
  · rename_i heq
    exact absurd (List.cons.inj heq).1 hc.2.1
  · rename_i heq
    exact absurd (List.cons.inj heq).1 hc.2.2
  · rw [hpart, Progress.pushLeaf_leaves]

/-- A character that is no sign stands for itself. -/
theorem readPart?_of_not_sign {st : Progress} {c : Char} (hc : c ∉ signs)
    (hflags : st.flags = {}) : readPart? st (c :: rest) = some (st.pushLeaf (.char c), rest) := by
  simp only [signs, List.mem_cons, List.not_mem_nil, or_false, not_or] at hc
  have hliteral : literalPattern st.flags c = .char c := by
    rw [hflags]
    rfl
  simp [readPart?, hc, hliteral]

/-- A backslash makes every sign stand for itself. -/
theorem readPart?_escape {st : Progress} {c : Char} (hc : c ∈ signs) (hflags : st.flags = {}) :
    readPart? st ('\\' :: c :: rest) = some (st.pushLeaf (.char c), rest) := by
  have hescape : Atom.readEscape? {} (c :: rest) = some (.literal c false, rest) := by
    simp only [signs] at hc
    fin_cases hc <;> rfl
  simp only [readPart?, hflags, hescape]
  rfl

theorem readParts?_escapedChar (c : Char) :
    readParts? (fuel + 1) (.leaves ps) (escapedChar c ++ rest) =
      readParts? fuel (.leaves (ps ++ [.char c])) rest := by
  unfold escapedChar
  split
  · rename_i hc
    exact readParts?_leaf (by decide) (readPart?_escape hc rfl)
  · rename_i hc
    refine readParts?_leaf ?_ (readPart?_of_not_sign hc rfl)
    simp only [signs, List.mem_cons, List.not_mem_nil, or_false, not_or] at hc ⊢
    simp [hc]

/-- An escaped text is read as its characters. -/
theorem readParts?_escaped (s : List Char) :
    readParts? (s.length + fuel) (.leaves ps) (escaped s ++ rest) =
      readParts? fuel (.leaves (ps ++ s.map .char)) rest := by
  induction s generalizing ps with
  | nil => simp [escaped]
  | cons c s ih =>
    have htext : escaped (c :: s) ++ rest = escapedChar c ++ (escaped s ++ rest) := by
      simp [escaped]
    rw [htext, List.length_cons, Nat.add_right_comm, readParts?_escapedChar, ih, List.map_cons,
      List.append_assoc, List.singleton_append]

/-- Leaves make one sequence, which nests no deeper than one level. -/
theorem sequencePiece_leaves (ps : List Pattern) :
    (sequencePiece (Progress.leaves ps).items).pattern = concat ps ∧
      (sequencePiece (Progress.leaves ps).items).nest ≤ 1 := by
  have hpieces : (Progress.leaves ps).items.reverse.map Item.toPiece = ps.map (⟨·, 0⟩) := by
    simp [Progress.leaves, Item.toPiece, Function.comp_def]
  have hnest : maxNestOf (ps.map (⟨·, 0⟩)) = 0 := by
    rw [maxNestOf, List.foldl_map]
    exact List.foldl_fixed' (fun _ => rfl) ps
  have hpatterns : (ps.map fun p => (⟨p, 0⟩ : Piece)).map (·.pattern) = ps := by
    simp [Function.comp_def]
  -- A single leaf is not put into a sequence.
  unfold sequencePiece
  rw [hpieces]
  split
  · rename_i p heq
    obtain ⟨q, rfl, rfl⟩ := List.map_eq_singleton_iff.1 heq
    exact ⟨rfl, Nat.zero_le 1⟩
  · rw [hpatterns, hnest]
    refine ⟨rfl, ?_⟩
    dsimp only
    split <;> omega

/-- Whether a text is read as parts in a row, which add one level at most. -/
def IsReadAs (text : String) (ps : List Pattern) : Prop :=
  ∃ piece, read? text = some piece ∧ piece.pattern = concat ps ∧ piece.nest ≤ 1

/-- A text that is read as leaves up to its end is a row of them. -/
theorem isReadAs_leaves {text : List Char} (hlength : ps.length ≤ text.length)
    (hread : ∀ fuel, readParts? (ps.length + fuel) (.leaves []) text =
      readParts? fuel (.leaves ps) []) : IsReadAs (String.ofList text) ps := by
  obtain ⟨hpattern, hnest⟩ := sequencePiece_leaves ps
  obtain ⟨fuel, hfuel⟩ := Nat.exists_eq_add_of_le hlength
  -- The text is no shorter than its leaves, so the calls that the reader has are enough.
  have hparts : readParts? (text.length + 1) { flags := {}, names := [] } text =
      some (.leaves ps, []) := by
    rw [hfuel, Nat.add_assoc]
    exact hread (fuel + 1)
  refine ⟨sequencePiece (Progress.leaves ps).items, ?_, hpattern, hnest⟩
  simp only [read?, String.toList_ofList, hparts]
  rfl

/-! ## Spans -/

variable {t : List Char}

theorem spans_concat_cons {p : Pattern} {i k : Nat} :
    Spans t (concat (p :: ps)) i k ↔ ∃ j, Spans t p i j ∧ Spans t (concat ps) j k := by
  cases ps with
  | nil =>
    constructor
    · exact fun h => ⟨k, h, .empty h.le.2⟩
    · rintro ⟨j, hp, ⟨⟩⟩
      exact hp
  | cons q ps =>
    constructor
    · intro h
      cases h with
      | seq hp hq => exact ⟨_, hp, hq⟩
    · rintro ⟨j, hp, hq⟩
      exact .seq hp hq

theorem spans_concat_append {qs : List Pattern} {i k : Nat} :
    Spans t (concat (ps ++ qs)) i k ↔ ∃ j, Spans t (concat ps) i j ∧ Spans t (concat qs) j k := by
  induction ps generalizing i with
  | nil =>
    constructor
    · exact fun h => ⟨i, .empty (Nat.le_trans h.le.1 h.le.2), h⟩
    · rintro ⟨j, ⟨⟩, h⟩
      exact h
  | cons p ps ih =>
    simp only [List.cons_append, spans_concat_cons, ih]
    constructor
    · rintro ⟨j, hp, j', hps, hqs⟩
      exact ⟨j', ⟨j, hp, hps⟩, hqs⟩
    · rintro ⟨j', ⟨j, hp, hps⟩, hqs⟩
      exact ⟨j, hp, j', hps, hqs⟩

/-- Characters one after the other match where the text goes on with them. -/
theorem spans_characters_iff {s : List Char} {i j : Nat} :
    Spans t (concat (s.map .char)) i j ↔ i ≤ t.length ∧ s <+: t.drop i ∧ j = i + s.length := by
  induction s generalizing i with
  | nil =>
    constructor
    · intro h
      cases h with
      | empty h => exact ⟨h, List.nil_prefix, rfl⟩
    · rintro ⟨hi, -, rfl⟩
      exact .empty hi
  | cons c s ih =>
    rw [List.map_cons, spans_concat_cons]
    simp only [ih]
    constructor
    · -- The first character stands where the span begins, and the others right behind it.
      rintro ⟨j', h, hi, hbegins, rfl⟩
      cases h with
      | char hc =>
        obtain ⟨hlt, rfl⟩ := List.getElem?_eq_some_iff.1 hc
        refine ⟨Nat.le_of_lt hlt, ?_, by rw [List.length_cons]; omega⟩
        rw [List.drop_eq_getElem_cons hlt]
        exact List.cons_prefix_cons.2 ⟨rfl, hbegins⟩
    · -- The text goes on with a character, so the span does not begin at its end.
      rintro ⟨-, hbegins, rfl⟩
      have hlt : i < t.length := by
        by_contra hge
        rw [List.drop_of_length_le (Nat.not_lt.1 hge)] at hbegins
        exact nomatch List.eq_nil_of_prefix_nil hbegins
      rw [List.drop_eq_getElem_cons hlt] at hbegins
      obtain ⟨rfl, hrest⟩ := List.cons_prefix_cons.1 hbegins
      exact ⟨i + 1, .char (List.getElem?_eq_getElem hlt), hlt, hrest,
        by rw [List.length_cons]; omega⟩

/-- The text stands somewhere in a token just when the token contains it. -/
theorem occurs_characters_iff {s : List Char} :
    (concat (s.map .char)).Occurs t ↔ s <:+: t := by
  rw [List.infix_iff_prefix_suffix]
  constructor
  · rintro ⟨i, j, -, -, h⟩
    exact ⟨t.drop i, (spans_characters_iff.1 h).2.1, List.drop_suffix i t⟩
  · rintro ⟨r, hbegins, before, rfl⟩
    have hspans : Spans (before ++ r) (concat (s.map .char)) before.length
        (before.length + s.length) :=
      spans_characters_iff.2 ⟨by simp, by simpa using hbegins, rfl⟩
    exact ⟨_, _, hspans.le.1, hspans.le.2, hspans⟩

theorem spans_textStart_iff {i j : Nat} :
    Spans t (.anchor .textStart) i j ↔ i = 0 ∧ j = 0 := by
  constructor
  · intro h
    cases h with
    | anchor hi ha =>
      cases i with
      | zero => exact ⟨rfl, rfl⟩
      | succ i => simp [Anchor.holds, charBefore, List.getElem?_eq_getElem hi] at ha
  · rintro ⟨rfl, rfl⟩
    exact .anchor (Nat.zero_le _) rfl

theorem spans_textEnd_iff {i j : Nat} :
    Spans t (.anchor .textEnd) i j ↔ i = t.length ∧ j = t.length := by
  constructor
  · intro h
    cases h with
    | anchor hi ha =>
      simp only [Anchor.holds, Option.isNone_iff_eq_none, List.getElem?_eq_none_iff] at ha
      exact ⟨Nat.le_antisymm hi ha, Nat.le_antisymm hi ha⟩
  · rintro ⟨rfl, rfl⟩
    exact .anchor (Nat.le_refl _) (by simp [Anchor.holds])

/-- Between the anchors, the text is the whole token. -/
theorem occurs_anchored_iff {s : List Char} :
    (concat (.anchor .textStart :: (s.map .char ++ [.anchor .textEnd]))).Occurs t ↔ t = s := by
  -- The anchors leave no choice of where the characters begin and end.
  have hspans {i k : Nat} : Spans t (concat (.anchor .textStart ::
      (s.map .char ++ [.anchor .textEnd]))) i k ↔ ∃ j j', (i = 0 ∧ j = 0) ∧
        (j ≤ t.length ∧ s <+: t.drop j ∧ j' = j + s.length) ∧ j' = t.length ∧ k = t.length := by
    simp only [spans_concat_cons, spans_concat_append, spans_textStart_iff, spans_characters_iff,
      concat, spans_textEnd_iff, exists_and_left]
  constructor
  · rintro ⟨i, k, -, -, h⟩
    obtain ⟨_, _, ⟨-, rfl⟩, ⟨-, hbegins, rfl⟩, hlength, -⟩ := hspans.1 h
    rw [Nat.zero_add] at hlength
    exact (hbegins.eq_of_length hlength).symm
  · rintro rfl
    have h := hspans.2 ⟨0, t.length, ⟨rfl, rfl⟩,
      ⟨Nat.zero_le _, List.prefix_refl t, (Nat.zero_add _).symm⟩, rfl, rfl⟩
    exact ⟨_, _, h.le.1, h.le.2, h⟩

/-! ## Patterns for texts -/

theorem length_le_length_escaped (s : List Char) : s.length ≤ (escaped s).length := by
  induction s with
  | nil => exact Nat.le_refl 0
  | cons c s ih =>
    have hchar : 1 ≤ (escapedChar c).length := by
      unfold escapedChar
      split <;> simp
    simp only [escaped, List.flatMap_cons, List.length_append, List.length_cons] at ih ⊢
    omega

/-- An escaped text is a row of its characters. -/
theorem isReadAs_literalSource (s : String) :
    IsReadAs (literalSource s) (s.toList.map .char) := by
  have hlength : (s.toList.map Pattern.char).length = s.toList.length := List.length_map _
  refine isReadAs_leaves ?_ fun fuel => ?_
  · rw [hlength]
    exact length_le_length_escaped s.toList
  · have hread : readParts? (s.toList.length + fuel) (.leaves []) (escaped s.toList ++ []) =
        readParts? fuel (.leaves ([] ++ s.toList.map .char)) [] := readParts?_escaped s.toList
    rwa [List.append_nil, List.nil_append, ← hlength] at hread

/-- Between the anchors, an escaped text is a row of its characters and the anchors. -/
theorem isReadAs_wholeSource (s : String) :
    IsReadAs (wholeSource s)
      (.anchor .textStart :: (s.toList.map .char ++ [.anchor .textEnd])) := by
  have hlength : (Pattern.anchor .textStart :: (s.toList.map .char ++ [.anchor .textEnd])).length =
      s.toList.length + 2 := by simp
  refine isReadAs_leaves ?_ fun fuel => ?_
  · have hescaped := length_le_length_escaped s.toList
    rw [hlength, List.length_cons, List.length_append, List.length_singleton]
    omega
  · -- The first anchor, the characters one by one, and the second anchor.
    have hstart : readParts? (s.toList.length + (fuel + 1) + 1) (.leaves [])
        ('^' :: (escaped s.toList ++ ['$'])) =
        readParts? (s.toList.length + (fuel + 1)) (.leaves ([] ++ [.anchor .textStart]))
          (escaped s.toList ++ ['$']) := readParts?_leaf (by decide) rfl
    have hend (ps : List Pattern) : readParts? (fuel + 1) (.leaves ps) ['$'] =
        readParts? fuel (.leaves (ps ++ [.anchor .textEnd])) [] := readParts?_leaf (by decide) rfl
    have hfuel : s.toList.length + 2 + fuel = s.toList.length + (fuel + 1) + 1 := by omega
    rw [hlength, hfuel, hstart, readParts?_escaped, hend]
    rfl

/-! ## Sizes -/

/-- A pattern for one given character, or for a condition on a position. -/
inductive IsSingle : Pattern → Prop
  | char (c : Char) : IsSingle (.char c)
  | anchor (a : Anchor) : IsSingle (.anchor a)

/-- What is relied on of a compiler: single characters and anchors in a row take a kibibyte at most
    for each of them, and one more for what all patterns have in common.  It is classes and
    repetitions with counts that make the compiled form much larger than the text. -/
def SizeCheck.RowsAreSmall (check : SizeCheck) : Prop :=
  ∀ text ps, IsReadAs text ps → (∀ p ∈ ps, p.IsSingle) →
    check.compiledSize text ≤ 1024 * (ps.length + 1)

theorem writtenLength_concat_le (h : ∀ p ∈ ps, p.IsSingle) :
    (concat ps).writtenLength ≤ ps.length := by
  have hsingle {p : Pattern} (hp : p.IsSingle) : p.writtenLength ≤ 1 := by
    cases hp with
    | char c => exact Nat.le_refl 1
    | anchor a => exact Nat.zero_le 1
  induction ps with
  | nil => exact Nat.le_refl 0
  | cons p ps ih =>
    obtain ⟨hp, hps⟩ := List.forall_mem_cons.1 h
    cases ps with
    | nil => exact hsingle hp
    | cons q ps =>
      have hfirst := hsingle hp
      have hrest := ih hps
      simp only [concat, writtenLength, List.length_cons] at hrest ⊢
      omega

/-- The count of the program is small for them as well. -/
theorem SizeCheck.standIn_rowsAreSmall : standIn.RowsAreSmall := by
  rintro text ps ⟨piece, hread, hpattern, -⟩ hsingle
  have hlength := writtenLength_concat_le hsingle
  have hsize : standIn.compiledSize text = 72 * (concat ps).writtenLength := by
    simp only [compiledSize, hread, hpattern]
  omega

end Pattern

namespace Recognizer

open Pattern

/-- A text that is read as a row of not too many single characters and anchors is accepted, and
    known are the tokens where the row occurs. -/
theorem exists_ofSource [check : SizeCheck] (hsmall : check.RowsAreSmall) (name : String)
    {source : String} {ps : List Pattern} (h : IsReadAs source ps) (hsingle : ∀ p ∈ ps, p.IsSingle)
    (hlength : ps.length ≤ 1002) :
    ∃ m, ofSource name source = .ok m ∧
      ∀ token, (TokenMap.patterns m).contains token = true ↔ (concat ps).Occurs token.toList := by
  obtain ⟨piece, hread, hpattern, hnest⟩ := h
  have hsize : check.compiledSize source ≤ sizeLimit := by
    -- A thousand characters and two anchors stay far below the limit.
    have hrow := hsmall source ps ⟨piece, hread, hpattern, hnest⟩ hsingle
    rw [sizeLimit]
    omega
  have hdepth : piece.nest ≤ maxNest := Nat.le_trans hnest (by decide)
  refine ⟨_, ofSource_eq_ok_iff.2 ⟨piece, hread, hdepth, hsize, rfl⟩, fun token => ?_⟩
  rw [← hpattern]
  exact contains_ofPiece_iff hread

/-- A text with its signs escaped is accepted as a pattern that knows just the tokens that contain
    the text, and between anchors as one that knows just the text itself.  What is relied on of the
    compiler only concerns the acceptance. -/
theorem escaped_knows [check : SizeCheck] (hsmall : check.RowsAreSmall) (name : String) {s : String}
    (h : s.length ≤ 1000) :
    (∃ m, ofSource name (literalSource s) = .ok m ∧
      ∀ token, (TokenMap.patterns m).contains token = true ↔ s.toList <:+: token.toList) ∧
    ∃ m, ofSource name (wholeSource s) = .ok m ∧
      ∀ token, (TokenMap.patterns m).contains token = true ↔ token = s := by
  have hchars : ∀ p ∈ s.toList.map Pattern.char, p.IsSingle :=
    List.forall_mem_map.2 fun c _ => .char c
  have hwhole : ∀ p ∈ .anchor .textStart :: (s.toList.map Pattern.char ++ [.anchor .textEnd]),
      p.IsSingle :=
    List.forall_mem_cons.2 ⟨.anchor _,
      List.forall_mem_append.2 ⟨hchars, List.forall_mem_singleton.2 (.anchor _)⟩⟩
  obtain ⟨m, hm, hknows⟩ := exists_ofSource hsmall name (isReadAs_literalSource s) hchars (by
    rw [List.length_map, String.length_toList]
    omega)
  obtain ⟨m', hm', hknows'⟩ := exists_ofSource hsmall name (isReadAs_wholeSource s) hwhole (by
    simp only [List.length_cons, List.length_append, List.length_map, List.length_nil,
      String.length_toList]
    omega)
  refine ⟨⟨m, hm, fun token => ?_⟩, m', hm', fun token => ?_⟩
  · rw [hknows, occurs_characters_iff]
  · rw [hknows', occurs_anchored_iff, String.toList_inj]

/-- A sign, a letter beyond ASCII and a line break stand for themselves, and a line break at the end
    of a token counts. -/
theorem escaped_knows_signs :
    ∃ m m', ofSource "p" "\\(é\\.\n" = .ok m ∧ ofSource "p" "^\\(é\\.\n$" = .ok m' ∧
      (TokenMap.patterns m).contains "x(é.\n\n" = true ∧
      (TokenMap.patterns m').contains "(é.\n" = true ∧
      ¬ (TokenMap.patterns m').contains "(é.\n\n" = true := by
  obtain ⟨⟨m, hm, hknows⟩, m', hm', hknows'⟩ :=
    escaped_knows SizeCheck.standIn_rowsAreSmall "p" (s := "(é.\n") (by decide)
  have hliteral : literalSource "(é.\n" = "\\(é\\.\n" := by decide
  have hwhole : wholeSource "(é.\n" = "^\\(é\\.\n$" := by decide
  refine ⟨m, m', hliteral ▸ hm, hwhole ▸ hm', (hknows _).2 ?_, (hknows' _).2 rfl, ?_⟩
  · exact ⟨['x'], ['\n'], by decide⟩
  · rw [hknows']
    decide

end Recognizer

end TokenAtlas
