import TokenAtlas.Json.Reader
import TokenAtlas.Proofs.Json.Grammar

/-!
# Reading strings

The reader of strings takes exactly the spellings of the grammar, and gives the characters that they
spell.

## Key results

- `readString?_spells`: a spelling with a quote after it is read back
- `spells_of_readString?`: what is read up to a quote spells the characters that were read
-/

namespace TokenAtlas.Json

/-! ## Code units and short escapes -/

private theorem char_le_iff (a b : Char) : a ≤ b ↔ a.toNat ≤ b.toNat := Iff.rfl

theorem hexDigit?_eq_some_iff {c : Char} {d : Nat} :
    Text.hexDigit? c = some d ↔ HexDigit c d := by
  have h0 : '0'.toNat = 48 := rfl
  have h9 : '9'.toNat = 57 := rfl
  have ha : 'a'.toNat = 97 := rfl
  have hf : 'f'.toNat = 102 := rfl
  have hA : 'A'.toNat = 65 := rfl
  have hF : 'F'.toNat = 70 := rfl
  -- In code points, the three ranges of digits are intervals that do not meet.
  simp only [Text.hexDigit?, char_le_iff, h0, h9, ha, hf, hA, hF]
  constructor
  · intro h
    split at h
    · rename_i hr
      obtain rfl : c.toNat - 48 = d := Option.some.inj h
      exact .decimal (by omega) (by omega)
    · split at h
      · rename_i hr
        obtain rfl : c.toNat - 97 + 10 = d := Option.some.inj h
        rw [Nat.add_comm]
        exact .lower (by omega) (by omega)
      · split at h
        · rename_i hr
          obtain rfl : c.toNat - 65 + 10 = d := Option.some.inj h
          rw [Nat.add_comm]
          exact .upper (by omega) (by omega)
        · exact nomatch h
  · intro h
    cases h with
    | decimal hd hc =>
      rw [if_pos (by omega)]
      simp only [Option.some.injEq]; omega
    | lower hd hc =>
      rw [if_neg (by omega), if_pos (by omega)]
      simp only [Option.some.injEq]; omega
    | upper hd hc =>
      rw [if_neg (by omega), if_neg (by omega), if_pos (by omega)]
      simp only [Option.some.injEq]; omega

private theorem hexValueFrom?_cons_eq_some_iff {acc n : Nat} {c : Char} {cs : List Char} :
    Text.hexValueFrom? acc (c :: cs) = some n ↔
      ∃ d, HexDigit c d ∧ Text.hexValueFrom? (acc * 16 + d) cs = some n := by
  cases hc : Text.hexDigit? c with
  | none =>
    simp only [Text.hexValueFrom?, hc, reduceCtorEq, false_iff, not_exists, not_and]
    intro d hd
    exact absurd (hexDigit?_eq_some_iff.2 hd) (by simp [hc])
  | some d =>
    simp only [Text.hexValueFrom?, hc]
    constructor
    · exact fun h => ⟨d, hexDigit?_eq_some_iff.1 hc, h⟩
    · rintro ⟨d', hd', h⟩
      have : d' = d := Option.some.inj ((hexDigit?_eq_some_iff.2 hd').symm.trans hc)
      exact this ▸ h

theorem hexValue?_eq_some_iff {a b c d : Char} {n : Nat} :
    Text.hexValue? [a, b, c, d] = some n ↔ CodeUnit [a, b, c, d] n := by
  simp only [Text.hexValue?, hexValueFrom?_cons_eq_some_iff]
  simp only [Text.hexValueFrom?, Nat.zero_mul, Nat.zero_add, Option.some.injEq]
  constructor
  · rintro ⟨va, ha, vb, hb, vc, hc, vd, hd, rfl⟩
    exact .mk ha hb hc hd
  · intro h
    cases h with
    | mk ha hb hc hd => exact ⟨_, ha, _, hb, _, hc, _, hd, rfl⟩

/-- A code unit is written with four digits, and these are read back. -/
theorem exists_of_codeUnit {u : List Char} {n : Nat} (h : CodeUnit u n) :
    ∃ a b c d, u = [a, b, c, d] ∧ Text.hexValue? [a, b, c, d] = some n := by
  cases h with
  | mk ha hb hc hd => exact ⟨_, _, _, _, rfl, hexValue?_eq_some_iff.2 (.mk ha hb hc hd)⟩

/-- A code unit has sixteen bits. -/
theorem CodeUnit.lt {u : List Char} {n : Nat} (h : CodeUnit u n) : n < 0x10000 := by
  have digit_lt {c : Char} {d : Nat} (h : HexDigit c d) : d < 16 := by
    cases h <;> omega
  cases h with
  | mk ha hb hc hd =>
    have := digit_lt ha
    have := digit_lt hb
    have := digit_lt hc
    have := digit_lt hd
    omega

theorem shortEscape?_eq_some_iff {e c : Char} :
    shortEscape? e = some c ↔ (e, c) ∈ shortEscapes := by
  simp only [shortEscapes, List.mem_cons, Prod.mk.injEq, List.not_mem_nil, or_false]
  unfold shortEscape?
  -- One case for each letter, and one for all other characters.
  split
  all_goals simp [eq_comm]
  all_goals grind

/-! ## Surrogates -/

theorem isHighSurrogate_iff {u : Nat} : isHighSurrogate u = true ↔ 0xD800 ≤ u ∧ u < 0xDC00 := by
  simp [isHighSurrogate]

theorem isLowSurrogate_iff {u : Nat} : isLowSurrogate u = true ↔ 0xDC00 ≤ u ∧ u < 0xE000 := by
  simp [isLowSurrogate]

/-- The code point of a character is no surrogate. -/
theorem not_surrogate (c : Char) : ¬ (0xD800 ≤ c.toNat ∧ c.toNat < 0xE000) := by
  have h := c.valid
  simp only [UInt32.isValidChar, Nat.isValidChar] at h
  have hn : c.val.toNat = c.toNat := rfl
  omega

theorem toNat_ofNat_of_valid {n : Nat} (h : n.isValidChar) : (Char.ofNat n).toNat = n := by
  rw [Char.ofNat, dif_pos h]
  rfl

/-- The character of a surrogate pair has the code point that the pair stands for. -/
theorem toNat_surrogatePair {high low : Nat} (hh : 0xD800 ≤ high ∧ high < 0xDC00)
    (hl : 0xDC00 ≤ low ∧ low < 0xE000) :
    (surrogatePair high low).toNat = 0x10000 + (high - 0xD800) * 0x400 + (low - 0xDC00) := by
  rw [surrogatePair, toNat_ofNat_of_valid]
  · omega
  · right
    omega

/-! ## One step of the reader

One equation for each of the ways to write a character. -/

theorem readString?_plain {c : Char} {s : List Char} (hc : 0x20 ≤ c.toNat) (hq : c ≠ '"')
    (hb : c ≠ '\\') : readString? (c :: s) = (readString? s).map (consChar c) := by
  have hlt : ¬ c < ' ' := fun h => absurd (show c.toNat < 0x20 from h) (by omega)
  rw [readString?, if_neg hlt]
  all_goals intros; simp_all

theorem readString?_short {e c : Char} {s : List Char} (he : (e, c) ∈ shortEscapes) :
    readString? ('\\' :: e :: s) = (readString? s).map (consChar c) := by
  have hshort : shortEscape? e = some c := shortEscape?_eq_some_iff.2 he
  have hu : e ≠ 'u' := by
    rintro rfl
    exact nomatch hshort
  rw [readString?, hshort]
  all_goals intros; simp_all

theorem readString?_unit {c : Char} {u s : List Char} (hu : CodeUnit u c.toNat) :
    readString? ('\\' :: 'u' :: (u ++ s)) = (readString? s).map (consChar c) := by
  obtain ⟨hlow, hhigh⟩ : isLowSurrogate c.toNat = false ∧ isHighSurrogate c.toNat = false := by
    simp only [← Bool.not_eq_true, isLowSurrogate_iff, isHighSurrogate_iff]
    have := not_surrogate c
    omega
  obtain ⟨x, y, z, w, rfl, hv⟩ := exists_of_codeUnit hu
  simp only [List.cons_append, List.nil_append, readString?, hv, hlow, hhigh,
    Bool.false_eq_true, if_false, Char.ofNat_toNat]

theorem readString?_pair {c : Char} {u v s : List Char} {high low : Nat} (hu : CodeUnit u high)
    (hv : CodeUnit v low) (hhigh : 0xD800 ≤ high ∧ high < 0xDC00)
    (hlow : 0xDC00 ≤ low ∧ low < 0xE000)
    (hc : c.toNat = 0x10000 + (high - 0xD800) * 0x400 + (low - 0xDC00)) :
    readString? ('\\' :: 'u' :: (u ++ '\\' :: 'u' :: (v ++ s))) =
      (readString? s).map (consChar c) := by
  have hpair : surrogatePair high low = c :=
    Char.toNat_inj.mp ((toNat_surrogatePair hhigh hlow).trans hc.symm)
  -- What the reader asks of the two halves: the first is high and not low, the second is low.
  have hfirst : isLowSurrogate high = false := by
    rw [← Bool.not_eq_true, isLowSurrogate_iff]
    omega
  have hsecond : isHighSurrogate high = true := isHighSurrogate_iff.2 hhigh
  have hthird : isLowSurrogate low = true := isLowSurrogate_iff.2 hlow
  obtain ⟨x, y, z, w, rfl, hu'⟩ := exists_of_codeUnit hu
  obtain ⟨x', y', z', w', rfl, hv'⟩ := exists_of_codeUnit hv
  simp only [List.cons_append, List.nil_append, readString?, hu', hv', hfirst, hsecond, hthird,
    Bool.false_eq_true, if_false, if_true, hpair]

/-- A spelling is read back up to the quote that ends it. -/
theorem readString?_spells {cs t : List Char} (h : Spells cs t) (rest : List Char) :
    readString? (t ++ '"' :: rest) = some (cs, rest) := by
  induction h with
  | nil => rfl
  | plain hc hq hb _ ih => rw [List.cons_append, readString?_plain hc hq hb, ih]; rfl
  | short he _ ih =>
    rw [List.cons_append, List.cons_append, readString?_short he, ih]; rfl
  | unit hu _ ih =>
    rw [List.cons_append, List.cons_append, List.append_assoc, readString?_unit hu, ih]; rfl
  | pair hu hv hhigh hlow hc _ ih =>
    simp only [List.cons_append, List.append_assoc]
    rw [readString?_pair hu hv hhigh hlow hc, ih]; rfl

/-- What is read after one character is what was read without it. -/
private theorem exists_of_map_consChar {c : Char} {r : Option (List Char × List Char)}
    {cs rest : List Char} (h : r.map (consChar c) = some (cs, rest)) :
    ∃ cs', cs = c :: cs' ∧ r = some (cs', rest) := by
  obtain ⟨⟨cs', rest'⟩, hr, heq⟩ := Option.map_eq_some_iff.1 h
  obtain ⟨rfl, rfl⟩ := Prod.mk.inj heq
  exact ⟨cs', rfl, hr⟩

/-- What is read up to a quote spells the characters that were read. -/
theorem spells_of_readString? {s cs rest : List Char} (h : readString? s = some (cs, rest)) :
    ∃ t, s = t ++ '"' :: rest ∧ Spells cs t := by
  fun_induction readString? s generalizing cs rest with
  | case1 | case3 | case4 | case5 | case7 | case8 | case10 | case12 => exact nomatch h
  | case2 =>
    obtain ⟨rfl, rfl⟩ := Prod.mk.inj (Option.some.inj h)
    exact ⟨[], rfl, .nil⟩
  -- Two code units that are a surrogate pair.
  | case6 a b c d u hu hnlow hhigh a' b' c' d' rest' v hv hlow ih =>
    obtain ⟨cs', rfl, hr⟩ := exists_of_map_consChar h
    obtain ⟨t, rfl, ht⟩ := ih hr
    have hh := isHighSurrogate_iff.1 hhigh
    have hl := isLowSurrogate_iff.1 hlow
    refine ⟨_, ?_, .pair (hexValue?_eq_some_iff.1 hu) (hexValue?_eq_some_iff.1 hv) hh hl
      (toNat_surrogatePair hh hl) ht⟩
    simp
  -- A code unit that is no surrogate is the code point of a character.
  | case9 a b c d rest' u hu hnlow hnhigh ih =>
    obtain ⟨cs', rfl, hr⟩ := exists_of_map_consChar h
    obtain ⟨t, rfl, ht⟩ := ih hr
    have hunit := hexValue?_eq_some_iff.1 hu
    have hvalid : u.isValidChar := by
      have hlt := hunit.lt
      rw [isLowSurrogate_iff] at hnlow
      rw [isHighSurrogate_iff] at hnhigh
      simp only [Nat.isValidChar]
      omega
    have hn : (Char.ofNat u).toNat = u := toNat_ofNat_of_valid hvalid
    exact ⟨'\\' :: 'u' :: ([a, b, c, d] ++ t), by simp, .unit (hn.symm ▸ hunit) ht⟩
  -- A short escape.
  | case11 e rest' _ c hc ih =>
    obtain ⟨cs', rfl, hr⟩ := exists_of_map_consChar h
    obtain ⟨t, rfl, ht⟩ := ih hr
    exact ⟨'\\' :: e :: t, rfl, .short (shortEscape?_eq_some_iff.1 hc) ht⟩
  -- A character that stands for itself.
  | case13 c rest' hq _ hb hlt ih =>
    obtain ⟨cs', rfl, hr⟩ := exists_of_map_consChar h
    obtain ⟨t, rfl, ht⟩ := ih hr
    have hc : 0x20 ≤ c.toNat := Nat.not_lt.1 hlt
    -- A backslash that nothing follows does not get here, since a quote follows.
    have hslash : c ≠ '\\' := by
      rintro rfl
      cases t with
      | nil => exact hb '"' rest rfl rfl
      | cons x t => exact hb x (t ++ '"' :: rest) rfl rfl
    exact ⟨c :: t, rfl, .plain hc hq hslash ht⟩

end TokenAtlas.Json
