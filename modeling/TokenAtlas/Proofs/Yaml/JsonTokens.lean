import TokenAtlas.Proofs.Json.Printing
import TokenAtlas.Proofs.Yaml.Scanning

/-!
# The tokens of JSON texts

A text that JSON writes is a text in YAML as well, if its strings are made of printable ASCII
characters and its keys are short enough.  `Json.tokens` are the tokens of a value, and a reader of
tokens that comes to the text of the value finds just them.

## Key results

- `At.value`: a reader passes over the text of a value and finds its tokens
- `Token.ofText?_render`: the tokens of the whole text of an object
-/

namespace TokenAtlas

open Json Yaml

namespace Json

mutual

/-- The tokens of the text of a value. -/
def tokens : Json → List Token
  | .null => [.scalar "null" true]
  | .bool true => [.scalar "true" true]
  | .bool false => [.scalar "false" true]
  | .number n => [.scalar (String.ofList (renderNumber n)) true]
  | .string s => [.scalar s false]
  | .array items => .flowSequenceStart :: (itemTokens items ++ [.flowSequenceEnd])
  | .object members => .flowMappingStart :: (memberTokens members ++ [.flowMappingEnd])

/-- The tokens of the items of an array. -/
def itemTokens : List Json → List Token
  | [] => []
  | [j] => tokens j
  | j :: rest => tokens j ++ .flowEntry :: itemTokens rest

/-- The tokens of the members of an object. -/
def memberTokens : List (String × Json) → List Token
  | [] => []
  | [(name, j)] => .key :: .scalar name false :: .value :: tokens j
  | (name, j) :: rest =>
    .key :: .scalar name false :: .value :: (tokens j ++ .flowEntry :: memberTokens rest)

end

mutual

/-- Whether the strings in a value are made of printable ASCII characters and its keys have at most
    500 of them. -/
def Printable : Json → Prop
  | .string s => ∀ c ∈ s.toList, IsPrintable c
  | .array items => PrintableItems items
  | .object members => PrintableMembers members
  | _ => True

/-- Whether the same holds of all items of an array. -/
def PrintableItems : List Json → Prop
  | [] => True
  | j :: rest => Printable j ∧ PrintableItems rest

/-- Whether the same holds of all members of an object. -/
def PrintableMembers : List (String × Json) → Prop
  | [] => True
  | (name, j) :: rest =>
    ((∀ c ∈ name.toList, IsPrintable c) ∧ name.length ≤ 500) ∧ Printable j ∧ PrintableMembers rest

end

end Json

namespace Yaml.TokenReader

/-! ## Words -/

theorem ne_of_isDigit {c x : Char} (h : c.isDigit = true) (hx : x.isDigit = false) : c ≠ x := by
  rintro rfl
  rw [h] at hx
  exact nomatch hx

theorem not_break_of_isDigit {c : Char} (h : c.isDigit = true) : isBreak c = false := by
  have hrange : 48 ≤ c.toNat ∧ c.toNat ≤ 57 := by
    simpa [Char.isDigit, UInt32.le_iff_toNat_le] using h
  have hfeed : c ≠ '\n' := ne_of_isDigit h (by decide)
  have hline : c.toNat ≠ 0x2028 ∧ c.toNat ≠ 0x2029 := by omega
  simp [isBreak, hfeed, hline]

theorem not_blank_of_isDigit {c : Char} (h : c.isDigit = true) : isBlank c = false := by
  have hspace : c ≠ ' ' := ne_of_isDigit h (by decide)
  have htab : c ≠ '\t' := ne_of_isDigit h (by decide)
  simp [isBlank, hspace, htab]

theorem isPlainChar_of_isDigit {c : Char} (h : c.isDigit = true) : isPlainChar c = true := by
  have hcolon : c ≠ ':' := ne_of_isDigit h (by decide)
  have hbound : isFlowBound c = false := by
    have hne (x : Char) (hx : x.isDigit = false) : c ≠ x := ne_of_isDigit h hx
    simp [isFlowBound, hne]
  simp [isPlainChar, not_blank_of_isDigit h, not_break_of_isDigit h, hcolon, hbound]

theorem beginsPlain_of_isDigit {c : Char} (h : c.isDigit = true) (rest : List Char) :
    beginsPlain true c rest = true := by
  have hne (x : Char) (hx : x.isDigit = false) : c ≠ x := ne_of_isDigit h hx
  simp [beginsPlain, not_blank_of_isDigit h, not_break_of_isDigit h, hne]

/-- An integer is a word of digits, perhaps after a hyphen. -/
theorem plainWord_renderInt {rest : List Char} (n : Int) (hb : Bounds rest) :
    PlainWord (renderInt n) rest := by
  have hdigits : ∀ c ∈ Nat.toDigits 10 n.natAbs, c.isDigit = true := fun c hc =>
    Nat.isDigit_of_mem_toDigits (by decide) (by decide) hc
  obtain ⟨d, ds, hcons⟩ :=
    List.exists_cons_of_ne_nil (Nat.toDigits_ne_nil (n := n.natAbs) (b := 10))
  have hd : d.isDigit = true := hdigits d (hcons ▸ List.mem_cons_self)
  have hplain : ∀ c ∈ Nat.toDigits 10 n.natAbs, isPlainChar c = true := fun c hc =>
    isPlainChar_of_isDigit (hdigits c hc)
  rw [renderInt]
  split
  · refine ⟨List.forall_mem_cons.2 ⟨by decide, hplain⟩, ⟨'-', _, rfl, ?_⟩, hb⟩
    simp [beginsPlain, hcons, endsWord, not_blank_of_isDigit hd, not_break_of_isDigit hd]
  · exact ⟨hplain, ⟨d, ds, hcons, beginsPlain_of_isDigit hd _⟩, hb⟩

namespace At

variable {blocks : Int × List Int}

/-- A word of JSON with a meaning of its own. -/
theorem letters {flow : Nat} {st : TokenReader} {keyAllowed : Bool} {ts : List Token} {w : String}
    {rest : List Char} (h : At blocks st flow keyAllowed ts (w.toList ++ rest))
    (hne : w.toList ≠ []) (hw : ∀ c ∈ w.toList, 'a' ≤ c ∧ c ≤ 'z') (hb : Bounds rest) :
    ∃ st', Passes st st' ∧ At blocks st' flow false (.scalar w true :: ts) rest := by
  have hplain := h.plain (plainWord_of_letters hne hw hb)
  rwa [String.ofList_toList] at hplain

/-- A key of at most 500 characters is short enough even if all of them are escaped. -/
theorem length_renderString_le {s : String}
    (hs : (∀ c ∈ s.toList, IsPrintable c) ∧ s.length ≤ 500) :
    (renderString s).length ≤ keyLimit := by
  have hescaped := (length_escaped hs.1).2
  have hlength : s.toList.length ≤ 500 := hs.2
  simp only [renderString, List.length_cons, List.length_append, List.length_nil, keyLimit]
  omega

mutual

/-- A reader passes over the text of a value and finds its tokens. -/
theorem value {flow : Nat} {st : TokenReader} {keyAllowed : Bool} {ts : List Token} {j : Json}
    {rest : List Char} (h : At blocks st (flow + 1) keyAllowed ts (renderChars j ++ rest))
    (hp : j.Printable) (hi : j.Integral) (hb : Bounds rest) :
    ∃ st', Passes st st' ∧ At blocks st' (flow + 1) false (j.tokens.reverse ++ ts) rest := by
  cases j with
  | null => exact h.letters (w := "null") (by simp) (by simp) hb
  | bool b => cases b with
    | true => exact h.letters (w := "true") (by simp) (by simp) hb
    | false => exact h.letters (w := "false") (by simp) (by simp) hb
  | number n => cases n with
    | int n => exact h.plain (plainWord_renderInt n hb)
    | float x => exact absurd hi id
  | string s => exact h.quoted hp
  | array items =>
    -- The opening sign, the items up to the closing sign, and that sign.
    rw [renderChars, List.cons_append, List.append_assoc, List.singleton_append] at h
    obtain ⟨st₁, hpass₁, h₁⟩ := h.openSequence
    obtain ⟨st₂, _, hpass₂, h₂⟩ := h₁.items hp hi
    obtain ⟨st₃, hpass₃, h₃⟩ := h₂.closeSequence
    refine ⟨st₃, hpass₁.trans (hpass₂.trans hpass₃), ?_⟩
    simpa [Json.tokens] using h₃
  | object members =>
    rw [renderChars, List.cons_append, List.append_assoc, List.singleton_append] at h
    obtain ⟨st₁, hpass₁, h₁⟩ := h.openMapping
    obtain ⟨st₂, _, hpass₂, h₂⟩ := h₁.members hp hi
    obtain ⟨st₃, hpass₃, h₃⟩ := h₂.closeMapping
    refine ⟨st₃, hpass₁.trans (hpass₂.trans hpass₃), ?_⟩
    simpa [Json.tokens] using h₃

/-- A reader passes over the texts of the items of an array. -/
theorem items {flow : Nat} {st : TokenReader} {ts : List Token} {items : List Json}
    {rest : List Char} (h : At blocks st (flow + 1) true ts (renderItems items ++ ']' :: rest))
    (hp : PrintableItems items) (hi : IntegralItems items) :
    ∃ st' keyAllowed, Passes st st' ∧
      At blocks st' (flow + 1) keyAllowed ((itemTokens items).reverse ++ ts) (']' :: rest) := by
  match items, hp, hi with
  | [], _, _ => exact ⟨st, true, .refl st, h⟩
  | [j], hp, hi =>
    obtain ⟨st', hpass, h'⟩ := h.value hp.1 hi.1 (bounds_of_isFlowBound (by decide) _)
    exact ⟨st', false, hpass, h'⟩
  | j :: j' :: more, hp, hi =>
    simp only [renderItems, List.append_assoc, List.cons_append] at h
    obtain ⟨st₁, hpass₁, h₁⟩ := h.value hp.1 hi.1 (bounds_of_isFlowBound (by decide) _)
    obtain ⟨st₂, hpass₂, h₂⟩ := h₁.comma
    obtain ⟨st₃, keyAllowed, hpass₃, h₃⟩ := h₂.items hp.2 hi.2
    refine ⟨st₃, keyAllowed, hpass₁.trans (hpass₂.trans hpass₃), ?_⟩
    simpa [itemTokens] using h₃

/-- A reader passes over the members of an object. -/
theorem members {flow : Nat} {st : TokenReader} {ts : List Token} {members : List (String × Json)}
    {rest : List Char}
    (h : At blocks st (flow + 1) true ts (renderMembers members ++ '\x7d' :: rest))
    (hp : PrintableMembers members) (hi : IntegralMembers members) :
    ∃ st' keyAllowed, Passes st st' ∧
      At blocks st' (flow + 1) keyAllowed ((memberTokens members).reverse ++ ts)
        ('\x7d' :: rest) := by
  match members, hp, hi with
  | [], _, _ => exact ⟨st, true, .refl st, h⟩
  | [(name, j)], hp, hi =>
    rw [renderMembers, List.append_assoc, List.cons_append] at h
    obtain ⟨st₁, hpass₁, h₁⟩ := h.quotedKey hp.1.1 (length_renderString_le hp.1)
    obtain ⟨st₂, hpass₂, h₂⟩ := h₁.value hp.2.1 hi.1 (bounds_of_isFlowBound (by decide) _)
    refine ⟨st₂, false, hpass₁.trans hpass₂, ?_⟩
    simpa [memberTokens] using h₂
  | (name, j) :: m :: more, hp, hi =>
    simp only [renderMembers, List.append_assoc, List.cons_append] at h
    obtain ⟨st₁, hpass₁, h₁⟩ := h.quotedKey hp.1.1 (length_renderString_le hp.1)
    obtain ⟨st₂, hpass₂, h₂⟩ := h₁.value hp.2.1 hi.1 (bounds_of_isFlowBound (by decide) _)
    obtain ⟨st₃, hpass₃, h₃⟩ := h₂.comma
    obtain ⟨st₄, keyAllowed, hpass₄, h₄⟩ := h₃.members hp.2.2 hi.2
    refine ⟨st₄, keyAllowed, hpass₁.trans (hpass₂.trans (hpass₃.trans hpass₄)), ?_⟩
    simpa [memberTokens] using h₄

end

end At

end TokenReader

/-! ## Whole texts -/

theorem isPrintable_of_isDigit {c : Char} (h : c.isDigit = true) : IsPrintable c := by
  have hrange : 48 ≤ c.toNat ∧ c.toNat ≤ 57 := by
    simpa [Char.isDigit, UInt32.le_iff_toNat_le] using h
  exact ⟨by omega, by omega⟩

theorem isPrintable_of_mem_renderInt {n : Int} : ∀ c ∈ renderInt n, IsPrintable c := by
  have hdigits : ∀ c ∈ Nat.toDigits 10 n.natAbs, IsPrintable c := fun c hc =>
    isPrintable_of_isDigit (Nat.isDigit_of_mem_toDigits (by decide) (by decide) hc)
  rw [renderInt]
  split
  · exact List.forall_mem_cons.2 ⟨⟨by decide, by decide⟩, hdigits⟩
  · exact hdigits

mutual

/-- The text of a value is made of printable characters if its strings are. -/
theorem isPrintable_of_mem_renderChars {j : Json} (hp : j.Printable) (hi : j.Integral) :
    ∀ c ∈ renderChars j, IsPrintable c := by
  cases j with
  | null => simp [renderChars, IsPrintable]
  | bool b => cases b <;> simp [renderChars, IsPrintable]
  | number n => cases n with
    | int n => exact isPrintable_of_mem_renderInt
    | float x => exact absurd hi id
  | string s => exact isPrintable_of_mem_renderString hp
  | array items =>
    rw [renderChars, List.forall_mem_cons, List.forall_mem_append, List.forall_mem_singleton]
    exact ⟨⟨by decide, by decide⟩, isPrintable_of_mem_renderItems hp hi, ⟨by decide, by decide⟩⟩
  | object members =>
    rw [renderChars, List.forall_mem_cons, List.forall_mem_append, List.forall_mem_singleton]
    exact ⟨⟨by decide, by decide⟩, isPrintable_of_mem_renderMembers hp hi, ⟨by decide, by decide⟩⟩

theorem isPrintable_of_mem_renderItems {items : List Json} (hp : PrintableItems items)
    (hi : IntegralItems items) : ∀ c ∈ renderItems items, IsPrintable c := by
  match items, hp, hi with
  | [], _, _ => exact nofun
  | [j], hp, hi => exact isPrintable_of_mem_renderChars hp.1 hi.1
  | j :: j' :: more, hp, hi =>
    have hj := isPrintable_of_mem_renderChars hp.1 hi.1
    have hmore := isPrintable_of_mem_renderItems hp.2 hi.2
    have hcomma : IsPrintable ',' := ⟨by decide, by decide⟩
    simp only [renderItems, List.forall_mem_append, List.forall_mem_cons]
    exact ⟨hj, hcomma, hmore⟩

theorem isPrintable_of_mem_renderMembers {members : List (String × Json)}
    (hp : PrintableMembers members) (hi : IntegralMembers members) :
    ∀ c ∈ renderMembers members, IsPrintable c := by
  have hcolon : IsPrintable ':' := ⟨by decide, by decide⟩
  match members, hp, hi with
  | [], _, _ => exact nofun
  | [(name, j)], hp, hi =>
    have hname := isPrintable_of_mem_renderString hp.1.1
    have hj := isPrintable_of_mem_renderChars hp.2.1 hi.1
    simp only [renderMembers, List.forall_mem_append, List.forall_mem_cons]
    exact ⟨hname, hcolon, hj⟩
  | (name, j) :: m :: more, hp, hi =>
    have hname := isPrintable_of_mem_renderString hp.1.1
    have hj := isPrintable_of_mem_renderChars hp.2.1 hi.1
    have hmore := isPrintable_of_mem_renderMembers hp.2.2 hi.2
    have hcomma : IsPrintable ',' := ⟨by decide, by decide⟩
    simp only [renderMembers, List.forall_mem_append, List.forall_mem_cons]
    exact ⟨hname, hcolon, hj, hcomma, hmore⟩

end

/-- The tokens of the text of an object. -/
theorem Token.ofText?_render {members : List (String × Json)} (hp : PrintableMembers members)
    (hi : IntegralMembers members) :
    Token.ofText? (render (.object members)) = some (Json.tokens (.object members)) := by
  have hprintable : ∀ c ∈ renderChars (.object members), IsPrintable c :=
    isPrintable_of_mem_renderChars hp hi
  let body := renderMembers members ++ ['\x7d']
  have htext : renderChars (.object members) = '\x7b' :: body := by rw [renderChars]
  -- After the members only the last brace is left.
  obtain ⟨st, keyAllowed, ⟨n, hn, hrun⟩, h⟩ :=
    (TokenReader.at_afterBrace body).members hp hi
  have htoken : st.toToken = st := h.toToken_eq (by decide)
  obtain ⟨fuel, hfuel⟩ : ∃ fuel, body.length + 1 = fuel + 2 + n := by
    have hlength : n + st.rest.length ≤ body.length := hn
    rw [h.rest, List.length_singleton] at hlength
    exact ⟨body.length - 1 - n, by omega⟩
  obtain ⟨r, hr, htokens⟩ := TokenReader.run?_lastSign (t := .flowMappingEnd) h.inside h.flow
    (by rw [htoken]; exact h.mark.column) (by rw [htoken]; exact h.rest) (.inl ⟨rfl, rfl⟩)
    (by rw [(Prod.mk.inj h.blocks).1]; decide) fuel
  have hread : TokenReader.run? (body.length + 1 + 1) (.start ('\x7b' :: body)) = some r := by
    rw [TokenReader.run?, TokenReader.next?_start]
    simp only
    rw [hfuel, hrun, hr]
  rw [render, Token.ofText?_eq_some_iff fun c hc => (hprintable c hc).inLine]
  refine ⟨fun c hc => isPermitted_of_printable (hprintable c hc), r, htext ▸ hread, ?_⟩
  rw [htokens, (Prod.mk.inj h.blocks).1, (Prod.mk.inj h.blocks).2, h.tokens]
  simp [TokenReader.closeBlocks, Json.tokens]

end Yaml

end TokenAtlas
