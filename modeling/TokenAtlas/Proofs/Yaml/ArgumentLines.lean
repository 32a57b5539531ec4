import TokenAtlas.Proofs.Settings
import TokenAtlas.Proofs.Yaml.BareWords
import TokenAtlas.Proofs.Yaml.DefinitionNodes
import TokenAtlas.Proofs.Yaml.KeyReadings

/-!
# Arguments as plain words

A block may give a macro on one line: its token, and in brackets its handler and the words for its
arguments.  Every word becomes the argument that it stands for, whatever the others are, and there
is no table when one of them stands for none.  JSON has no infinities and no NaN, and a block is
made of JSON values, so the words for these become null although they are not words for null.

## Key results

- `wordArgument?_cases`, `exists_wordArgument?_iff`: what a word stands for, if for anything
- `Token.ofText?_argumentLine`, `readDocument?_lineTokens`, `block?_lineNode`: the three steps from
  the text to the block
- `Table.ofText_argumentLine`: the entry of the macro
-/

namespace TokenAtlas

open Yaml

namespace Yaml

/-! ## The argument of a word -/

/-- The JSON value that a plain word stands for. -/
def wordJson? (w : String) : Option Json := (plainContent? w).bind Content.toJson?

/-- The argument that a plain word stands for. -/
def wordArgument? (w : String) : Option Argument := (wordJson? w).bind Argument.read?

/-- A word for a whole number that fits into 128 bits but not into 64 bits with a sign. -/
def IsTooWide (w : String) : Prop :=
  ∃ n, readInt? w.toList = some n ∧ (-2 ^ 127 ≤ n ∧ n < -2 ^ 63 ∨ 2 ^ 63 ≤ n ∧ n < 2 ^ 128)

/-- A word for no whole number of at most 128 bits. -/
def IsNotWhole (w : String) : Prop :=
  ∀ n, readInt? w.toList = some n → n < -2 ^ 127 ∨ 2 ^ 128 ≤ n

/-- What a plain word stands for as an argument. -/
inductive StandsFor (w : String) : Argument → Prop
  | null (h : w ∈ ["null", "Null", "NULL"]) : StandsFor w .null
  /-- JSON has nothing else for what is not finite. -/
  | nonFinite (h : w ∈ nonFiniteWords) : StandsFor w .null
  | bool {b : Bool} (h : readBool? w = some b) : StandsFor w (.bool b)
  | int {n : Int64} (h : readInt? w.toList = some n.toInt) : StandsFor w (.int n)
  | float {x : Binary64} (hwhole : IsNotWhole w) (hzero : hasLeadingZero w.toList = false)
    (h : readFloat? w = some x) (hfinite : x.isFinite = true) : StandsFor w (.float x)
  | text (hnull : w ∉ ["null", "Null", "NULL"]) (hbool : readBool? w = none)
    (hwhole : IsNotWhole w) (h : hasLeadingZero w.toList = true ∨ readFloat? w = none) :
    StandsFor w (.text w)

/-- Only the words for infinities and NaN stand for numbers that are not finite. -/
theorem not_finite_iff_of_readFloat? {w : String} {x : Binary64} (h : readFloat? w = some x) :
    x.isFinite = false ↔ w ∈ nonFiniteWords := by
  by_cases hw : w ∈ nonFiniteWords
  · refine iff_of_true ?_ hw
    have hall : ∀ w ∈ nonFiniteWords, (readFloat? w).any (!·.isFinite) = true := by decide
    simpa [h] using hall w hw
  · refine iff_of_false ?_ hw
    have hread : readFloat? w = (Decimal.read? w.toList).filter (·.isFinite) := by
      simp only [nonFiniteWords, List.mem_cons, List.not_mem_nil, or_false, not_or] at hw
      unfold readFloat?
      split <;> simp_all
    rw [hread, Option.filter_eq_some_iff] at h
    simp [h.2]

/-- A word for an infinity or NaN is nothing else. -/
theorem plainContent?_of_nonFinite {w : String} (h : w ∈ nonFiniteWords) :
    ∃ x, plainContent? w = some (.number (.float x)) ∧ x.isFinite = false := by
  have hall : ∀ w ∈ nonFiniteWords, ∃ x, readFloat? w = some x ∧
      plainContent? w = some (.number (.float x)) := by
    intro w hw
    simp only [nonFiniteWords] at hw
    fin_cases hw <;> exact ⟨_, rfl, rfl⟩
  obtain ⟨x, hx, hcontent⟩ := hall w h
  exact ⟨x, hcontent, (not_finite_iff_of_readFloat? hx).2 h⟩

/-- A word for null, a truth value, an infinity or NaN is no whole number. -/
theorem readInt?_eq_none_of_mem {w : String}
    (h : w ∈ ["null", "Null", "NULL", "true", "True", "TRUE", "false", "False", "FALSE"] ∨
      w ∈ nonFiniteWords) : readInt? w.toList = none := by
  have hall : ∀ w ∈ ["null", "Null", "NULL", "true", "True", "TRUE", "false", "False", "FALSE"] ++
      nonFiniteWords, readInt? w.toList = none := by decide
  exact hall w (List.mem_append.2 h)

theorem mem_of_readBool? {w : String} {b : Bool} (h : readBool? w = some b) :
    w ∈ ["true", "True", "TRUE", "false", "False", "FALSE"] := by
  rw [readBool?] at h
  split at h
  · rename_i hw
    fin_cases hw <;> simp
  · split at h
    · rename_i hw
      fin_cases hw <;> simp
    · cases h

/-- A word that stands for an argument is no number that is too wide. -/
theorem StandsFor.not_tooWide {w : String} {a : Argument} (h : StandsFor w a) : ¬ IsTooWide w := by
  rintro ⟨n, hn, hwide⟩
  cases h with
  | null h =>
    rw [readInt?_eq_none_of_mem (.inl (by fin_cases h <;> simp))] at hn
    exact nomatch hn
  | nonFinite h =>
    rw [readInt?_eq_none_of_mem (.inr h)] at hn
    exact nomatch hn
  | bool h =>
    have hmem := mem_of_readBool? h
    rw [readInt?_eq_none_of_mem (.inl (by fin_cases hmem <;> simp))] at hn
    exact nomatch hn
  | @int m h =>
    obtain rfl : m.toInt = n := Option.some.inj (h.symm.trans hn)
    have hlow := m.le_toInt
    have hhigh := m.toInt_lt
    omega
  | float hwhole =>
    have hbeyond := hwhole n hn
    omega
  | text _ _ hwhole =>
    have hbeyond := hwhole n hn
    omega

/-- Whole numbers are of 64 bits, with a sign or without, or of 128 bits, or greater still. -/
theorem wholeNumber_cases (w : String) :
    (∃ n, wholeNumber w.toList = .fits n ∧ readInt? w.toList = some n ∧
      -2 ^ 63 ≤ n ∧ n < 2 ^ 64) ∨
    (∃ n, wholeNumber w.toList = .wide ∧ readInt? w.toList = some n ∧
      (-2 ^ 127 ≤ n ∧ n < -2 ^ 63 ∨ 2 ^ 64 ≤ n ∧ n < 2 ^ 128)) ∨
    wholeNumber w.toList = .other ∧ IsNotWhole w := by
  have hmin : Int64.minValue.toInt = -2 ^ 63 := by decide
  have hsize : (UInt64.size : Int) = 2 ^ 64 := by decide
  have hlow : (Nat.pow 2 127 : Int) = 2 ^ 127 := by decide
  have hhigh : (Nat.pow 2 128 : Int) = 2 ^ 128 := by decide
  unfold IsNotWhole wholeNumber
  cases readInt? w.toList with
  | none => exact .inr (.inr ⟨rfl, nofun⟩)
  | some n =>
    simp only [hmin, hsize, hlow, hhigh, Option.some.injEq]
    split
    · rename_i hfits
      exact .inl ⟨n, rfl, rfl, hfits⟩
    · rename_i hfits
      split
      · rename_i hwide
        exact .inr (.inl ⟨n, rfl, rfl, by omega⟩)
      · rename_i hwide
        refine .inr (.inr ⟨rfl, ?_⟩)
        rintro _ rfl
        omega

/-- An integer of 64 bits without a sign is an argument if it needs no more with a sign. -/
theorem read?_int_cases {n : Int} (hlow : -2 ^ 63 ≤ n) :
    (∃ m : Int64, m.toInt = n ∧ Argument.read? (.number (.int n)) = some (.int m)) ∨
      Argument.read? (.number (.int n)) = none ∧ 2 ^ 63 ≤ n := by
  have hmin : Int64.minValue.toInt = -2 ^ 63 := by decide
  have hmax : Int64.maxValue.toInt = 2 ^ 63 - 1 := by decide
  by_cases hfits : n ≤ 2 ^ 63 - 1
  · exact .inl ⟨.ofInt n, Int64.toInt_ofInt_of_le hlow (by omega),
      Argument.read?_int (by rw [hmin, hmax]; exact ⟨hlow, hfits⟩)⟩
  · exact .inr ⟨Argument.read?_int_eq_none (by rw [hmin, hmax]; omega), by omega⟩

/-- The words for null and for numbers that are not finite all become null. -/
theorem wordArgument?_eq_null {w : String}
    (h : w ∈ ["null", "Null", "NULL"] ∨ w ∈ nonFiniteWords) : wordArgument? w = some .null := by
  unfold wordArgument? wordJson?
  rcases h with hnull | hspecial
  · have hcontent : plainContent? w = some .null := by fin_cases hnull <;> rfl
    rw [hcontent]
    rfl
  · obtain ⟨x, hcontent, hx⟩ := plainContent?_of_nonFinite hspecial
    rw [hcontent]
    simp [Content.toJson?, Content.numberToJson, hx, Argument.read?, Argument.ofJson?,
      Except.toOption]

/-- What a bare word stands for, if not for null: a truth value, a whole number of 64 bits, nothing
    because it is a number that is too wide, another number, or itself. -/
theorem plainContent?_cases {w : String} (hw : IsBare w.toList)
    (hnull : w ∉ ["null", "Null", "NULL"]) :
    (∃ b, plainContent? w = some (.bool b) ∧ readBool? w = some b) ∨
    (∃ n, plainContent? w = some (.number (.int n)) ∧ readInt? w.toList = some n ∧
      -2 ^ 63 ≤ n ∧ n < 2 ^ 64) ∨
    (plainContent? w = none ∧ IsTooWide w) ∨
    (∃ x, plainContent? w = some (.number (.float x)) ∧ IsNotWhole w ∧
      hasLeadingZero w.toList = false ∧ readFloat? w = some x) ∨
    plainContent? w = some (.text w) ∧ readBool? w = none ∧ IsNotWhole w ∧
      (hasLeadingZero w.toList = true ∨ readFloat? w = none) := by
  -- A bare word is neither empty nor a tilde.
  have hnothing : (w.isEmpty || isNull w) = false := by
    have hempty : w ≠ "" := fun h => hw.ne_nil (by rw [h]; rfl)
    have htilde : w ≠ "~" := fun h => absurd (hw.chars '~' (by rw [h]; simp)) (by decide)
    simpa [isNull, hempty, htilde] using hnull
  simp only [plainContent?, hnothing, Bool.false_eq_true, if_false]
  cases readBool? w with
  | some b => exact .inl ⟨b, rfl, rfl⟩
  | none =>
    refine .inr ?_
    rcases wholeNumber_cases w with ⟨n, hwhole, hn, hlow, hhigh⟩ | ⟨n, hwhole, hn, hrange⟩ |
      ⟨hwhole, hnot⟩
    · exact .inl ⟨n, by rw [hwhole], hn, hlow, hhigh⟩
    · exact .inr (.inl ⟨by rw [hwhole], n, hn, by omega⟩)
    · refine .inr (.inr ?_)
      simp only [hwhole]
      cases hzero : hasLeadingZero w.toList with
      | true => exact .inr ⟨rfl, trivial, hnot, .inl rfl⟩
      | false =>
        cases readFloat? w with
        | none => exact .inr ⟨rfl, trivial, hnot, .inr rfl⟩
        | some x => exact .inl ⟨x, rfl, hnot, rfl, rfl⟩

/-- A bare word stands for an argument unless it is a number that is too wide. -/
theorem wordArgument?_cases {w : String} (hw : IsBare w.toList) :
    (∃ a, wordArgument? w = some a ∧ StandsFor w a) ∨ wordArgument? w = none ∧ IsTooWide w := by
  -- What becomes null is set apart first, since it does so for two reasons.
  by_cases hnull : w ∈ ["null", "Null", "NULL"]
  · exact .inl ⟨.null, wordArgument?_eq_null (.inl hnull), .null hnull⟩
  by_cases hspecial : w ∈ nonFiniteWords
  · exact .inl ⟨.null, wordArgument?_eq_null (.inr hspecial), .nonFinite hspecial⟩
  unfold wordArgument? wordJson?
  rcases plainContent?_cases hw hnull with ⟨b, hcontent, hbool⟩ | ⟨n, hcontent, hn, hlow, hhigh⟩ |
    ⟨hcontent, hwide⟩ | ⟨x, hcontent, hnot, hzero, hfloat⟩ | ⟨hcontent, hbool, hnot, htext⟩
  · exact .inl ⟨.bool b, by rw [hcontent]; rfl, .bool hbool⟩
  · rw [hcontent]
    rcases read?_int_cases hlow with ⟨m, rfl, hread⟩ | ⟨hread, hwide⟩
    · exact .inl ⟨.int m, hread, .int hn⟩
    · exact .inr ⟨hread, n, hn, .inr ⟨hwide, by omega⟩⟩
  · exact .inr ⟨by rw [hcontent]; rfl, hwide⟩
  · have hfinite : x.isFinite = true := by
      rw [← Bool.not_eq_false, not_finite_iff_of_readFloat? hfloat]
      exact hspecial
    refine .inl ⟨.float x, ?_, .float hnot hzero hfloat hfinite⟩
    rw [hcontent]
    simp [Content.toJson?, Content.numberToJson, hfinite, Argument.read?, Argument.ofJson?,
      Except.toOption]
  · exact .inl ⟨.text w, by rw [hcontent]; rfl, .text hnull hbool hnot htext⟩

/-! ## The tokens of the line -/

/-- The words after the first in a list of words. -/
def furtherWords (words : List String) : List Char :=
  words.flatMap fun w => ',' :: ' ' :: w.toList

/-- The tokens of the words after the first. -/
def furtherTokens (words : List String) : List Token :=
  words.flatMap fun w => [.flowEntry, .scalar w true]

/-- A block with one macro on a line: its token, and in brackets its handler and the words for its
    arguments. -/
def argumentLine (words : List String) : String := "k: [" ++ ", ".intercalate ("H" :: words) ++ "]"

theorem toList_argumentLine (words : List String) :
    (argumentLine words).toList =
      'k' :: ':' :: ' ' :: '[' :: 'H' :: (furtherWords words ++ [']']) := by
  have hwords (w : String) : (", ".intercalate (w :: words)).toList =
      w.toList ++ furtherWords words := by
    induction words generalizing w with
    | nil => simp [furtherWords]
    | cons w' words ih =>
      rw [furtherWords] at ih ⊢
      simp [ih]
  simp [argumentLine, hwords]

namespace TokenReader

/-- Before a comma or a bracket a plain scalar ends. -/
theorem bounds_furtherWords (words : List String) (rest : List Char) :
    Bounds (furtherWords words ++ ']' :: rest) := by
  cases words with
  | nil => exact bounds_of_isFlowBound (by decide) rest
  | cons w words => exact bounds_of_isFlowBound (by decide) _

/-- The words after the first, up to the bracket that ends the list. -/
theorem At.furtherWords {blocks : Int × List Int} {st : TokenReader} {flow : Nat} {ts : List Token}
    {words : List String} {rest : List Char}
    (h : At blocks st flow false ts (furtherWords words ++ ']' :: rest))
    (hw : ∀ w ∈ words, IsBare w.toList) :
    ∃ st', Passes st st' ∧
      At blocks st' flow false ((furtherTokens words).reverse ++ ts) (']' :: rest) := by
  induction words generalizing st ts with
  | nil => exact ⟨st, .refl st, h⟩
  | cons w words ih =>
    obtain ⟨hword, hwords⟩ := List.forall_mem_cons.1 hw
    rw [Yaml.furtherWords, List.flatMap_cons, List.append_assoc, List.cons_append, List.cons_append]
      at h
    obtain ⟨st₁, hpass₁, h₁⟩ := h.comma
    obtain ⟨st₂, hpass₂, h₂⟩ := h₁.blank
    obtain ⟨st₃, hpass₃, h₃⟩ := h₂.plain (hword.plainWord (bounds_furtherWords words rest))
    rw [String.ofList_toList] at h₃
    obtain ⟨st', hpass', h'⟩ := ih h₃ hwords
    refine ⟨st', hpass₁.trans <| hpass₂.trans <| hpass₃.trans hpass', ?_⟩
    simpa [furtherTokens] using h'

/-- The key comes to a bracket, and its colon opens a block collection. -/
theorem exists_at_list (rest : List Char) :
    ∃ st, Passes (start ('k' :: ':' :: ' ' :: '[' :: rest)) st ∧
      At (0, [-1]) st 1 true [.flowSequenceStart, .value, .scalar "k" true, .key,
        .blockMappingStart] rest := by
  -- Up to the bracket the text is fixed, so three tokens are found by computation.
  let afterKey : TokenReader :=
    ⟨⟨1, 0, 1⟩, ':' :: ' ' :: '[' :: rest, -1, [], 0, false, [some ⟨false, 0, .start⟩],
      [.scalar "k" true]⟩
  let afterColon : TokenReader :=
    ⟨⟨2, 0, 2⟩, ' ' :: '[' :: rest, 0, [-1], 0, false, [none],
      [.value, .scalar "k" true, .key, .blockMappingStart]⟩
  let afterBracket : TokenReader :=
    ⟨⟨4, 0, 4⟩, rest, 0, [-1], 1, true, [none, none],
      [.flowSequenceStart, .value, .scalar "k" true, .key, .blockMappingStart]⟩
  have hkey : (start ('k' :: ':' :: ' ' :: '[' :: rest)).next? = some (afterKey, false) := rfl
  have hcolon : afterKey.next? = some (afterColon, false) := rfl
  have hbracket : afterColon.next? = some (afterBracket, false) := rfl
  have hpass : Passes (start ('k' :: ':' :: ' ' :: '[' :: rest)) afterBracket :=
    (Passes.next hkey (Nat.lt_succ_self _)).trans <|
      (Passes.next hcolon (Nat.lt_succ_self _)).trans <|
        Passes.next hbracket (by simp [afterColon, afterBracket])
  refine ⟨afterBracket, hpass, ⟨⟨Nat.one_pos, rfl, ?_⟩, ⟨rfl, rfl, Nat.succ_pos 3⟩, rfl, rfl, rfl,
    rfl, rfl⟩⟩
  simp [afterBracket]

end TokenReader

open TokenReader

/-- The tokens of the line. -/
def lineTokens (words : List String) : List Token :=
  .blockMappingStart :: .key :: .scalar "k" true :: .value :: .flowSequenceStart ::
    .scalar "H" true :: (furtherTokens words ++ [.flowSequenceEnd, .blockEnd])

/-- The line is read as its tokens. -/
theorem Token.ofText?_argumentLine {words : List String} (hw : ∀ w ∈ words, IsBare w.toList) :
    Token.ofText? (argumentLine words) = some (lineTokens words) := by
  have hprintable : ∀ c ∈ (argumentLine words).toList, IsPrintable c := by
    have hwords : ∀ c ∈ furtherWords words, IsPrintable c := by
      simp only [furtherWords, List.forall_mem_flatMap, List.forall_mem_cons]
      exact fun w h => ⟨⟨by decide, by decide⟩, ⟨by decide, by decide⟩, (hw w h).printable⟩
    rw [toList_argumentLine]
    simp only [List.forall_mem_cons, List.forall_mem_append, List.not_mem_nil, false_implies,
      implies_true, and_true]
    refine ⟨?_, ?_, ?_, ?_, ?_, hwords, ?_⟩ <;> exact ⟨by decide, by decide⟩
  obtain ⟨st₁, hpass₁, h₁⟩ := exists_at_list ('H' :: (furtherWords words ++ [']']))
  have hhandler : PlainWord ['H'] (furtherWords words ++ [']']) :=
    IsBare.plainWord ⟨List.cons_ne_nil _ _, List.forall_mem_singleton.2 rfl⟩
      (bounds_furtherWords words [])
  obtain ⟨st₂, hpass₂, h₂⟩ := h₁.plain (w := ['H']) hhandler
  obtain ⟨st₃, hpass₃, h₃⟩ := h₂.furtherWords hw
  have htoken : st₃.toToken = st₃ := h₃.toToken_eq (by decide)
  obtain ⟨n, hn, hrun⟩ := hpass₁.trans (hpass₂.trans hpass₃)
  rw [h₃.rest] at hn
  obtain ⟨fuel, hfuel⟩ : ∃ fuel, (argumentLine words).toList.length + 1 = fuel + 2 + n := by
    have hlength : n + 1 ≤ (argumentLine words).toList.length := by
      rw [toList_argumentLine]
      exact hn
    exact ⟨(argumentLine words).toList.length - 1 - n, by omega⟩
  -- The closing bracket is the last sign of the text.
  obtain ⟨r, hr, htokens⟩ := run?_lastSign (t := .flowSequenceEnd) h₃.inside h₃.flow
    (by rw [htoken]; exact h₃.mark.column) (by rw [htoken]; exact h₃.rest) (.inr ⟨rfl, rfl⟩)
    (by rw [(Prod.mk.inj h₃.blocks).1]) fuel
  rw [← String.ofList_toList (s := argumentLine words),
    Token.ofText?_eq_some_iff fun c hc => (hprintable c hc).inLine]
  refine ⟨fun c hc => isPermitted_of_printable (hprintable c hc), r, ?_, ?_⟩
  · rw [hfuel, toList_argumentLine, hrun, hr]
  · rw [htokens, (Prod.mk.inj h₃.blocks).1, (Prod.mk.inj h₃.blocks).2, h₃.tokens]
    simp [closeBlocks, lineTokens]

/-! ## The node of the line -/

/-- The root of the line. -/
def lineNode (words : List String) : Node :=
  .mapping none none [(wordNode "k", .sequence none none (("H" :: words).map wordNode))]

/-- The words after the first are the items after the first. -/
theorem readFlowSequence?_furtherTokens {words : List String} {fuel : Nat} (ns : Names)
    (rest : List Token) (hfuel : words.length + 1 < fuel) :
    Node.readFlowSequence? fuel false ns (furtherTokens words ++ .flowSequenceEnd :: rest) =
      some (words.map wordNode, ns, rest) := by
  induction words generalizing fuel with
  | nil =>
    obtain ⟨fuel, rfl⟩ := Nat.exists_eq_add_of_le' (Nat.le_of_lt hfuel)
    rfl
  | cons w words ih =>
    obtain ⟨fuel, rfl⟩ : ∃ f, fuel = f + 2 := ⟨fuel - 2, by omega⟩
    have hrest : words.length + 1 < fuel + 1 := by
      rw [List.length_cons] at hfuel
      omega
    have htokens : furtherTokens (w :: words) ++ .flowSequenceEnd :: rest = .flowEntry ::
        .scalar w true :: (furtherTokens words ++ .flowSequenceEnd :: rest) := rfl
    rw [htokens, Node.readFlowSequence?_comma, Node.readFlowSequence?_item (by simp) (by simp)]
    simp only [NodeReader.bind, NodeReader.map, Node.read?_scalar, Option.bind_some, ih hrest]
    rfl

theorem length_furtherTokens (words : List String) :
    (furtherTokens words).length = 2 * words.length := by
  induction words with
  | nil => rfl
  | cons w words ih =>
    rw [furtherTokens] at ih ⊢
    simp [ih]
    omega

/-- The tokens of the line are read as its root. -/
theorem readDocument?_lineTokens (words : List String) :
    readDocument? (lineTokens words) = some (some (lineNode words)) := by
  let ns : Names := { handles := [] ++ Names.defaultHandles }
  have hitems (fuel : Nat) (hfuel : words.length < fuel) :
      Node.readFlowSequence? (fuel + 2) true ns (.scalar "H" true ::
        (furtherTokens words ++ [.flowSequenceEnd, .blockEnd])) =
      some (("H" :: words).map wordNode, ns, [.blockEnd]) := by
    rw [Node.readFlowSequence?_item (by simp) (by simp)]
    simp only [NodeReader.bind, NodeReader.map, Node.read?_scalar, Option.bind_some,
      readFlowSequence?_furtherTokens ns [.blockEnd] (Nat.succ_lt_succ hfuel)]
    rfl
  obtain ⟨fuel, hfuel, hlimit⟩ : ∃ fuel, words.length < fuel ∧
      callLimit (lineTokens words) = fuel + 2 + 3 := by
    refine ⟨6 * words.length + 22, by omega, ?_⟩
    simp only [callLimit, lineTokens, List.length_cons, List.length_append, List.length_nil,
      length_furtherTokens]
    omega
  have hlist := hitems fuel hfuel
  -- The items are known now, and how many calls were left for them is not needed any more.
  generalize fuel + 2 = bound at hlimit hlist
  refine @readDocument?_blockMapping ns _ _ ?_
  show Node.read? (callLimit (lineTokens words)) true false ns (lineTokens words) = _
  rw [hlimit]
  show (Node.readBlockMapping? (bound + 2) ns (.key :: .scalar "k" true :: .value ::
    .flowSequenceStart :: .scalar "H" true ::
      (furtherTokens words ++ [.flowSequenceEnd, .blockEnd]))).map
    (fun p => (Node.mapping none none p.1, p.2)) = _
  simp only [Node.readBlockMapping?, Node.endsBlockPart, Bool.false_eq_true, if_false,
    Node.read?_scalar, Node.read?_flowSequence, hlist, Option.map_some]
  rfl

/-! ## The block of the line -/

theorem mapM_liftM {α β : Type} (f : α → Option β) (xs : List α) :
    (xs.mapM fun x => (liftM (f x) : Following β)) = (liftM (xs.mapM f) : Following (List β)) := by
  induction xs with
  | nil => rfl
  | cons x xs ih =>
    rw [List.mapM_cons, List.mapM_cons, ih]
    cases f x with
    | none => rfl
    | some y => cases xs.mapM f <;> rfl

/-- The block of the line, given the JSON values of the words for arguments. -/
def lineBlock (items : List Json) : Block :=
  .ofList [("k", .array (.string "H" :: Json.canonicalItems items))]

/-- A list of contents has JSON values if all of them do. -/
theorem toItems?_eq_mapM (cs : List Content) : Content.toItems? cs = cs.mapM Content.toJson? := by
  induction cs with
  | nil => rfl
  | cons c rest ih =>
    rw [Content.toItems?, ih, List.mapM_cons]
    rfl

/-- The root of the line is read as a block if every word has a JSON value. -/
theorem block?_lineNode (words : List String) :
    block? (some (lineNode words)) = (words.mapM wordJson?).map lineBlock := by
  have hword (ts : Targets) (depth : Nat) :
      (fun w => expand ts .asText depth (wordNode w)) = fun w => liftM (plainContent? w) := by
    funext w
    exact expand_scalar ..
  have hitems (ts : Targets) (depth : Nat) :
      (("H" :: words).map wordNode).mapM (expand ts .asText depth) =
        (liftM (("H" :: words).mapM plainContent?) : Following (List Content)) := by
    rw [← mapM_liftM, List.mapM_map, ← hword ts depth]
    rfl
  -- The only member of the line has the key for its name and the list of all words for its value.
  have hmember (ts : Targets) : expandMember ts .asText (maxDepth - 1)
      (wordNode "k", .sequence none none (("H" :: words).map wordNode)) = do
        return (.text "k", .list (← (liftM (("H" :: words).mapM plainContent?) :
          Following (List Content)))) := by
    have hdepth : maxDepth - 1 = 126 + 1 := rfl
    rw [expandMember, hdepth, expand_sequence none _ rfl, hitems]
    cases ("H" :: words).mapM plainContent? <;> rfl
  have hhandler : ("H" :: words).mapM plainContent? =
      (words.mapM plainContent?).map (.text "H" :: ·) := by
    rw [List.mapM_cons]
    cases words.mapM plainContent? <;> rfl
  have hjson : words.mapM wordJson? = (words.mapM plainContent?).bind Content.toItems? := by
    rw [funext toItems?_eq_mapM]
    exact mapM_bind words
  -- Both sides are nothing where some word has no content, and else go by the same contents.
  simp only [lineNode, block?, expandMembers_eq, List.mapM_cons, List.mapM_nil, hmember, hhandler,
    hjson]
  cases words.mapM plainContent? with
  | none => rfl
  | some cs =>
    show (Content.mapping [(.text "k", .list (.text "H" :: cs))]).toBlock? = _
    simp only [Content.toBlock?, Content.toJson?, Content.toMembers?, Content.toItems?,
      Content.toName?, Option.bind_eq_bind, Option.bind_some]
    cases Content.toItems? cs <;> rfl

/-- The arguments of words are those of their JSON values. -/
theorem mapM_wordArgument? (words : List String) :
    words.mapM wordArgument? = (words.mapM wordJson?).bind (·.mapM Argument.read?) :=
  mapM_bind words

/-- The text of the line is read as a block if every word has a JSON value. -/
theorem ofText?_argumentLine {words : List String} (hw : ∀ w ∈ words, IsBare w.toList) :
    Block.ofText? .yaml (argumentLine words) = (words.mapM wordJson?).map lineBlock := by
  rw [Block.ofText?, Block.ofYaml?]
  simp only [Token.ofText?_argumentLine hw, readDocument?_lineTokens, Option.bind_eq_bind,
    Option.bind_some, block?_lineNode]

end Yaml

/-! ## The entry of the line -/

/-- Arguments are read alike from values with repeated names and without. -/
theorem Argument.read?_canonical (j : Json) : Argument.read? j.canonical = Argument.read? j := by
  cases j <;> rfl

namespace Table

variable {words : List String}

/-- The values of a list give an entry if each of them stands for an argument. -/
theorem ofJson?_list_eq_ok_iff {items : List Json} {e : MacroEntry} :
    TableEntry.ofJson? "k" (.array (.string "H" :: Json.canonicalItems items)) = .ok e ↔
      ∃ args, items.mapM Argument.read? = some args ∧ e = { symbol := "k", handler := "H", args } := by
  have hitems : (Json.canonicalItems items).mapM Argument.read? = items.mapM Argument.read? := by
    rw [Json.canonicalItems_eq_map, List.mapM_map]
    exact congrArg (items.mapM ·) (funext Argument.read?_canonical)
  rw [MacroEntry.ofJson?_eq_ok_iff, ← hitems]
  constructor
  · rintro ⟨handler, args, -, rfl, ⟨hj, -⟩ | ⟨items', hj, hargs⟩⟩
    · exact nomatch hj
    · obtain ⟨hhandler, rfl⟩ := List.cons.inj (Json.array.inj hj)
      obtain rfl := Json.string.inj hhandler
      exact ⟨args, hargs, rfl⟩
  · rintro ⟨args, hargs, rfl⟩
    exact ⟨"H", args, by decide, rfl, .inr ⟨_, rfl, hargs⟩⟩

theorem get?_lineBlock (items : List Json) (key : String) :
    (lineBlock items).get? key =
      if "k" = key then some (.array (.string "H" :: Json.canonicalItems items)) else none := by
  rw [lineBlock, Fields.get?_ofList, lastValue?_cons]
  rfl

/-- The line gives the macro an entry with the arguments of the words. -/
theorem exists_args_of_ofText {name : String} {t : Table MacroEntry}
    (hw : ∀ w ∈ words, IsBare w.toList) (h : ofText .yaml name (argumentLine words) = .ok t) :
    ∃ args, words.mapM wordArgument? = some args ∧
      t.lookup? "k" = some { symbol := "k", handler := "H", args } := by
  obtain ⟨b, hb, hmade⟩ := ofText_eq_ok_iff.1 h
  rw [ofText?_argumentLine hw] at hb
  obtain ⟨items, hitems, rfl⟩ := Option.map_eq_some_iff.1 hb
  have hget := get?_lineBlock items "k"
  rw [if_pos rfl] at hget
  rcases lookup?_of_ofBlock hmade "k" with ⟨hnone, -⟩ | ⟨j, e, hj, he, hlookup⟩
  · exact nomatch hnone.symm.trans hget
  · obtain rfl := Option.some.inj (hget.symm.trans hj)
    obtain ⟨args, hargs, rfl⟩ := ofJson?_list_eq_ok_iff.1 he
    refine ⟨args, ?_, hlookup⟩
    rw [mapM_wordArgument?, hitems, Option.bind_some, hargs]

/-- The line gives a table if every word stands for an argument. -/
theorem exists_ofText_of_args (name : String) {args : List Argument}
    (hw : ∀ w ∈ words, IsBare w.toList) (h : words.mapM wordArgument? = some args) :
    ∃ t : Table MacroEntry, ofText .yaml name (argumentLine words) = .ok t := by
  rw [mapM_wordArgument?] at h
  obtain ⟨items, hitems, hargs⟩ := Option.bind_eq_some_iff.1 h
  have hentry : ∀ key j, (lineBlock items).get? key = some j →
      ∃ e : MacroEntry, TableEntry.ofJson? key j = .ok e := by
    intro key j hj
    rw [get?_lineBlock] at hj
    split at hj
    · rename_i hkey
      obtain rfl := Option.some.inj hj
      exact hkey ▸ ⟨_, ofJson?_list_eq_ok_iff.2 ⟨args, hargs, rfl⟩⟩
    · exact nomatch hj
  obtain ⟨t, ht⟩ : ∃ t : Table MacroEntry, ofBlock name (lineBlock items) = .ok t :=
    exists_ofBlock hentry
  refine ⟨t, ofText_eq_ok_iff.2 ⟨lineBlock items, ?_, ht⟩⟩
  rw [ofText?_argumentLine hw, hitems, Option.map_some]

/-- A bare word stands for no argument just when it is a number that is too wide. -/
theorem exists_wordArgument?_iff {w : String} (hw : IsBare w.toList) :
    (∃ a, wordArgument? w = some a) ↔ ¬ IsTooWide w := by
  rcases wordArgument?_cases hw with ⟨a, ha, hstands⟩ | ⟨hnone, hwide⟩
  · exact iff_of_true ⟨a, ha⟩ hstands.not_tooWide
  · exact iff_of_false (by simp [hnone]) (not_not_intro hwide)

/-- On a line of words, a table holds for every word the argument that it stands for, and there is
    no table just when a word is a number that is too wide.  An argument is null for the words for
    null and for those for numbers that are not finite, and for no others. -/
theorem ofText_argumentLine (name : String) (hw : ∀ w ∈ words, IsBare w.toList) :
    ((∃ t : Table MacroEntry, ofText .yaml name (argumentLine words) = .ok t) ↔
      ∀ w ∈ words, ¬ IsTooWide w) ∧
    ∀ t : Table MacroEntry, ofText .yaml name (argumentLine words) = .ok t →
      ∃ args, t.lookup? "k" = some { symbol := "k", handler := "H", args } ∧
        args.length = words.length ∧
        ∀ (i : Nat) (w : String) (a : Argument), words[i]? = some w → args[i]? = some a →
          StandsFor w a ∧ (a = .null ↔ w ∈ ["null", "Null", "NULL"] ∨ w ∈ nonFiniteWords) := by
  constructor
  · constructor
    · rintro ⟨t, h⟩ w hmem
      obtain ⟨args, hargs, -⟩ := exists_args_of_ofText hw h
      obtain ⟨a, -, ha⟩ := exists_of_mapM hargs hmem
      exact (exists_wordArgument?_iff (hw w hmem)).1 ⟨a, ha⟩
    · intro hnarrow
      have hwords : ∀ w ∈ words, ∃ a, wordArgument? w = some a := fun w hmem =>
        (exists_wordArgument?_iff (hw w hmem)).2 (hnarrow w hmem)
      obtain ⟨args, hargs⟩ := exists_mapM hwords
      exact exists_ofText_of_args name hw hargs
  · intro t h
    obtain ⟨args, hargs, hlookup⟩ := exists_args_of_ofText hw h
    refine ⟨args, hlookup, length_of_mapM hargs, fun i w a hword harg => ?_⟩
    -- The argument at a place is that of the word there.
    have ha : wordArgument? w = some a := by
      rw [← harg, getElem?_of_mapM hargs i, hword, Option.bind_some]
    have hbare : IsBare w.toList := hw w (List.mem_of_getElem? hword)
    have hstands : StandsFor w a := by
      rcases wordArgument?_cases hbare with ⟨a', ha', hstands⟩ | ⟨hnone, -⟩
      · obtain rfl := Option.some.inj (ha'.symm.trans ha)
        exact hstands
      · exact nomatch hnone.symm.trans ha
    refine ⟨hstands, fun hnull => ?_, fun hnull => ?_⟩
    · subst hnull
      cases hstands with
      | null hmem => exact .inl hmem
      | nonFinite hmem => exact .inr hmem
    · exact Option.some.inj (ha.symm.trans (wordArgument?_eq_null hnull))

/-- The words for null and for NaN both give null, but a word without the point does not. -/
theorem ofText_argumentLine_lookalikes :
    ∃ t : Table MacroEntry, ofText .yaml "m" "k: [H, Null, .nan, nan]" = .ok t ∧
      ∃ a, t.lookup? "k" = some { symbol := "k", handler := "H", args := [.null, .null, a] } ∧
        a ≠ .null := by
  have hw : ∀ w ∈ ["Null", ".nan", "nan"], IsBare w.toList := by
    intro w hmem
    fin_cases hmem <;> exact ⟨by simp, by simp [isBareChar]⟩
  have hline : argumentLine ["Null", ".nan", "nan"] = "k: [H, Null, .nan, nan]" := by decide
  have hnarrow : ∀ w ∈ ["Null", ".nan", "nan"], ¬ IsTooWide w := by
    have hnone : ∀ w ∈ ["Null", ".nan", "nan"], readInt? w.toList = none := by decide
    rintro w hmem ⟨n, hn, -⟩
    rw [hnone w hmem] at hn
    cases hn
  obtain ⟨hexists, hargs⟩ := ofText_argumentLine "m" hw
  obtain ⟨t, ht⟩ := hexists.2 hnarrow
  obtain ⟨args, hlookup, hlength, hall⟩ := hargs t ht
  obtain ⟨a, b, c, rfl⟩ := List.length_eq_three.1 hlength
  obtain rfl := (hall 0 "Null" a rfl rfl).2.2 (.inl (by simp))
  obtain rfl := (hall 1 ".nan" b rfl rfl).2.2 (.inr (by simp [nonFiniteWords]))
  refine ⟨t, hline ▸ ht, c, hlookup, fun hnull => ?_⟩
  have hmem := (hall 2 "nan" c rfl rfl).2.1 hnull
  simp [nonFiniteWords] at hmem

/-- The word for NaN gives null although it is no word for null. -/
theorem ofText_invents_null :
    argumentLine [".nan"] = "k: [H, .nan]" ∧ ".nan" ∉ ["null", "Null", "NULL"] ∧
    ∃ t : Table MacroEntry, ofText .yaml "m" "k: [H, .nan]" = .ok t ∧
      t.lookup? "k" = some { symbol := "k", handler := "H", args := [.null] } := by
  have hline : argumentLine [".nan"] = "k: [H, .nan]" := by decide
  have hw : ∀ w ∈ [".nan"], IsBare w.toList :=
    List.forall_mem_singleton.2 ⟨by simp, by simp [isBareChar]⟩
  have hargs : [".nan"].mapM wordArgument? = some [.null] := by
    rw [mapM_eq_singleton_iff]
    exact ⟨".nan", rfl, wordArgument?_eq_null (.inr (by simp [nonFiniteWords]))⟩
  obtain ⟨t, ht⟩ := exists_ofText_of_args "m" hw hargs
  obtain ⟨args, hargs', hlookup⟩ := exists_args_of_ofText hw ht
  obtain rfl := Option.some.inj (hargs.symm.trans hargs')
  exact ⟨hline, by simp, t, hline ▸ ht, hlookup⟩

end Table

end TokenAtlas
