import Mathlib
import TokenAtlas.Proofs.Json.Grammar

/-!
# Reading numerals

The reader of numerals takes exactly the texts of the grammar: it reads back a numeral from each of
its texts, whatever follows that cannot belong to it, and everything that it reads is such a text.

## Key results

- `read?_numeralText`: a text of a numeral, with something `Delimited` after it, is read back
- `numeralText_of_read?`: what is read is a text of the numeral
- `value?_of_integer`: an integer that fits 64 bits stands for itself
- `value?_of_wide_integer`: any other integer is rounded
-/

namespace TokenAtlas.Json

/-- What follows begins with no decimal digit. -/
def NoDigit (t : List Char) : Prop := ∀ c r, t = c :: r → digit? c = none

/-- What follows begins with nothing that could belong to a numeral. -/
def Delimited (t : List Char) : Prop :=
  ∀ c r, t = c :: r → digit? c = none ∧ c ≠ '.' ∧ c ≠ 'e' ∧ c ≠ 'E'

theorem Delimited.noDigit {t : List Char} (h : Delimited t) : NoDigit t :=
  fun c r e => (h c r e).1

/-- A character that cannot belong to a numeral delimits it. -/
theorem delimited_cons {c : Char} {r : List Char} (hd : digit? c = none) (hp : c ≠ '.')
    (he : c ≠ 'e') (hE : c ≠ 'E') : Delimited (c :: r) := by
  intro c' r' h
  obtain ⟨rfl, -⟩ := List.cons.inj h
  exact ⟨hd, hp, he, hE⟩

theorem noDigit_cons {c : Char} {r : List Char} (hd : digit? c = none) : NoDigit (c :: r) := by
  intro c' r' h
  obtain ⟨rfl, -⟩ := List.cons.inj h
  exact hd

/-! ## Digits -/

theorem toNat_digitChar {d : Nat} (h : d ≤ 9) : (Nat.digitChar d).toNat = 48 + d :=
  Nat.toNat_digitChar_of_lt_ten (by omega)

private theorem le_iff_toNat_le (a b : Char) : a ≤ b ↔ a.toNat ≤ b.toNat := Iff.rfl

theorem digit?_eq_some_iff {c : Char} {d : Nat} :
    digit? c = some d ↔ d ≤ 9 ∧ c.toNat = 48 + d := by
  have h0 : '0'.toNat = 48 := rfl
  have h9 : '9'.toNat = 57 := rfl
  simp only [digit?, le_iff_toNat_le, h0, h9]
  split
  · simp only [Option.some.injEq]; omega
  · simp only [reduceCtorEq, false_iff]; omega

theorem digit?_digitChar {d : Nat} (h : d ≤ 9) : digit? (Nat.digitChar d) = some d :=
  digit?_eq_some_iff.2 ⟨h, toNat_digitChar h⟩

theorem eq_digitChar_of_digit? {c : Char} {d : Nat} (h : digit? c = some d) :
    d ≤ 9 ∧ c = Nat.digitChar d := by
  obtain ⟨hd, hc⟩ := digit?_eq_some_iff.1 h
  exact ⟨hd, Char.toNat_inj.mp (hc.trans (toNat_digitChar hd).symm)⟩

/-- Digits are taken up to the first character that is none. -/
theorem takeDigits_digitsText {ds : List Nat} {rest : List Char} (h : ∀ d ∈ ds, d ≤ 9)
    (hr : NoDigit rest) : takeDigits (digitsText ds ++ rest) = (ds, rest) := by
  induction ds with
  | nil =>
    -- Here the digits end, since what follows begins with none.
    cases rest with
    | nil => rfl
    | cons c r =>
      have hc : digit? c = none := hr c r rfl
      simp [digitsText, takeDigits, hc]
  | cons d ds ih =>
    have hd : digit? (Nat.digitChar d) = some d := digit?_digitChar (h d (by simp))
    have ih' := ih fun x hx => h x (by simp [hx])
    simp only [digitsText, List.map_cons, List.cons_append, takeDigits, hd]
    rw [show List.map Nat.digitChar ds = digitsText ds from rfl, ih']

/-- What is taken are digits, and the rest follows them. -/
theorem eq_digitsText_of_takeDigits {s : List Char} {ds : List Nat} {rest : List Char}
    (h : takeDigits s = (ds, rest)) : s = digitsText ds ++ rest ∧ ∀ d ∈ ds, d ≤ 9 := by
  induction s generalizing ds with
  | nil =>
    obtain ⟨rfl, rfl⟩ := Prod.mk.inj h
    simp [digitsText]
  | cons c s ih =>
    cases hc : digit? c with
    | none =>
      simp only [takeDigits, hc] at h
      obtain ⟨rfl, rfl⟩ := Prod.mk.inj h
      simp [digitsText]
    | some d =>
      obtain ⟨hd, rfl⟩ := eq_digitChar_of_digit? hc
      cases ht : takeDigits s with
      | mk ds' after =>
        simp only [takeDigits, hc, ht] at h
        obtain ⟨rfl, rfl⟩ := Prod.mk.inj h
        obtain ⟨hs, hds⟩ := ih ht
        refine ⟨?_, ?_⟩
        · rw [hs]; rfl
        · simpa [hd] using hds

/-- Digits do not begin with a character that is none. -/
theorem exists_digit_cons {ds : List Nat} (h : Digits ds) (rest : List Char) :
    ∃ d ds', ds = d :: ds' ∧ d ≤ 9 ∧
      digitsText ds ++ rest = Nat.digitChar d :: (digitsText ds' ++ rest) := by
  cases ds with
  | nil => exact absurd rfl h.1
  | cons d ds' => exact ⟨d, ds', rfl, h.2 d (by simp), rfl⟩

/-! ## The parts of a numeral -/

namespace Numeral

theorem readWhole?_wholeText {ds : List Nat} {t rest : List Char} (h : WholeText ds t)
    (hr : NoDigit rest) : readWhole? (t ++ rest) = some (ds, rest) := by
  cases h with
  | zero =>
    have ht : takeDigits (digitsText [0] ++ rest) = ([0], rest) :=
      takeDigits_digitsText (by simp) hr
    rw [readWhole?, show ['0'] ++ rest = digitsText [0] ++ rest from rfl, ht]
    rfl
  | @digits d ds hd h =>
    rw [readWhole?, takeDigits_digitsText h.2 hr]
    -- The first digit is no zero, so the second row of the match does not apply.
    cases d with
    | zero => exact absurd rfl hd
    | succ d => rfl

theorem wholeText_of_readWhole? {s : List Char} {ds : List Nat} {rest : List Char}
    (h : readWhole? s = some (ds, rest)) : ∃ t, s = t ++ rest ∧ WholeText ds t := by
  cases ht : takeDigits s with
  | mk ds' rest' =>
    obtain ⟨hs, hds⟩ := eq_digitsText_of_takeDigits ht
    simp only [readWhole?, ht] at h
    -- No digits, a zero before others, a zero alone, and digits that begin with another one.
    match ds', hds with
    | [], _ => exact nomatch h
    | 0 :: _ :: _, _ => exact nomatch h
    | [0], _ =>
      obtain ⟨rfl, rfl⟩ := Prod.mk.inj (Option.some.inj h)
      exact ⟨['0'], hs, .zero⟩
    | (d + 1) :: ds, hds =>
      obtain ⟨rfl, rfl⟩ := Prod.mk.inj (Option.some.inj h)
      exact ⟨_, hs, .digits (Nat.succ_ne_zero d) ⟨by simp, hds⟩⟩

theorem readPlaces?_placesText {p : Option (List Nat)} {t rest : List Char}
    (h : PlacesText p t) (hr : NoDigit rest) (hp : ∀ r, rest ≠ '.' :: r) :
    readPlaces? (t ++ rest) = some (p, rest) := by
  cases h with
  | absent =>
    rw [List.nil_append]
    unfold readPlaces?
    split
    · exact absurd rfl (hp _)
    · rfl
  | places h =>
    simp only [List.cons_append, readPlaces?, takeDigits_digitsText h.2 hr]
    obtain ⟨d, ds', rfl, -⟩ := exists_digit_cons h rest
    rfl

/-- Digits after which the reader goes on are digits of the grammar. -/
theorem digits_of_takeDigits {s : List Char} {ds : List Nat} {rest : List Char}
    (h : takeDigits s = (ds, rest)) (hne : ds ≠ []) : s = digitsText ds ++ rest ∧ Digits ds := by
  obtain ⟨hs, hds⟩ := eq_digitsText_of_takeDigits h
  exact ⟨hs, hne, hds⟩

theorem placesText_of_readPlaces? {s : List Char} {p : Option (List Nat)} {rest : List Char}
    (h : readPlaces? s = some (p, rest)) : ∃ t, s = t ++ rest ∧ PlacesText p t := by
  unfold readPlaces? at h
  split at h
  · -- After a point there must be a digit.
    rename_i r
    cases ht : takeDigits r with
    | mk ds after =>
      cases ds with
      | nil => simp [ht] at h
      | cons d ds =>
        simp only [ht, Option.some.injEq, Prod.mk.injEq] at h
        obtain ⟨rfl, rfl⟩ := h
        obtain ⟨rfl, hds⟩ := digits_of_takeDigits ht (by simp)
        exact ⟨'.' :: digitsText (d :: ds), rfl, .places hds⟩
  · simp only [Option.some.injEq, Prod.mk.injEq] at h
    obtain ⟨rfl, rfl⟩ := h
    exact ⟨[], rfl, .absent⟩

/-- A sign is read only where one stands. -/
theorem readSign_of_digit {d : Nat} {r : List Char} (h : d ≤ 9) :
    readSign (Nat.digitChar d :: r) = (false, Nat.digitChar d :: r) := by
  have hd : (Nat.digitChar d).toNat = 48 + d := toNat_digitChar h
  -- Both signs come before the digits in the order of code points.
  have hminus : Nat.digitChar d ≠ '-' := by
    intro e
    rw [e] at hd
    exact absurd hd (by simp; omega)
  have hplus : Nat.digitChar d ≠ '+' := by
    intro e
    rw [e] at hd
    exact absurd hd (by simp; omega)
  unfold readSign
  split
  · rename_i heq
    exact absurd (List.cons.inj heq).1 hminus
  · rename_i heq
    exact absurd (List.cons.inj heq).1 hplus
  · rfl

theorem readExponent?_exponentText {x : Option (Bool × List Nat)} {t rest : List Char}
    (h : ExponentText x t) (hr : Delimited rest) : readExponent? (t ++ rest) = some (x, rest) := by
  have digits_rest {ds : List Nat} (hd : Digits ds) :
      ∃ d ds', ds = d :: ds' ∧ takeDigits (digitsText ds ++ rest) = (d :: ds', rest) := by
    obtain ⟨d, ds', rfl, -⟩ := exists_digit_cons hd rest
    exact ⟨d, ds', rfl, takeDigits_digitsText hd.2 hr.noDigit⟩
  cases h with
  | absent =>
    -- What follows a numeral does not begin as an exponent does.
    cases rest with
    | nil => rfl
    | cons c r =>
      obtain ⟨-, -, he, hE⟩ := hr c r rfl
      simp [readExponent?, he, hE]
  | @unsigned e ds he hd =>
    obtain ⟨d, ds', rfl, ht⟩ := digits_rest hd
    have hs : readSign (digitsText (d :: ds') ++ rest) = (false, digitsText (d :: ds') ++ rest) :=
      readSign_of_digit (hd.2 d (by simp))
    simp [readExponent?, he, hs, ht]
  | @plus e ds he hd =>
    obtain ⟨d, ds', rfl, ht⟩ := digits_rest hd
    simp [readExponent?, he, readSign, ht]
  | @minus e ds he hd =>
    obtain ⟨d, ds', rfl, ht⟩ := digits_rest hd
    simp [readExponent?, he, readSign, ht]

theorem exponentText_of_readExponent? {s : List Char} {x : Option (Bool × List Nat)}
    {rest : List Char} (h : readExponent? s = some (x, rest)) :
    ∃ t, s = t ++ rest ∧ ExponentText x t := by
  cases s with
  | nil =>
    obtain ⟨rfl, rfl⟩ := Prod.mk.inj (Option.some.inj h)
    exact ⟨[], rfl, .absent⟩
  | cons c r =>
    by_cases hc : c = 'e' ∨ c = 'E'
    · cases hsign : readSign r with
      | mk negative after =>
        cases ht : takeDigits after with
        | mk ds rest' =>
          cases ds with
          | nil => simp [readExponent?, hc, hsign, ht] at h
          | cons d ds =>
            simp only [readExponent?, hc, hsign, ht, if_true, Option.some.injEq,
              Prod.mk.injEq] at h
            obtain ⟨rfl, rfl⟩ := h
            obtain ⟨rfl, hds⟩ := digits_of_takeDigits ht (by simp)
            -- What the sign was tells which of the three forms was written.
            unfold readSign at hsign
            split at hsign
            · obtain ⟨rfl, rfl⟩ := Prod.mk.inj hsign
              exact ⟨c :: '-' :: digitsText (d :: ds), rfl, .minus hc hds⟩
            · obtain ⟨rfl, rfl⟩ := Prod.mk.inj hsign
              exact ⟨c :: '+' :: digitsText (d :: ds), rfl, .plus hc hds⟩
            · obtain ⟨rfl, rfl⟩ := Prod.mk.inj hsign
              exact ⟨c :: digitsText (d :: ds), rfl, .unsigned hc hds⟩
    · simp only [readExponent?, hc, if_false, Option.some.injEq, Prod.mk.injEq] at h
      obtain ⟨rfl, rfl⟩ := h
      exact ⟨[], rfl, .absent⟩

/-! ## Whole numerals -/

/-- An exponent begins with its letter, so no digit and no point is mistaken for a part of it. -/
private theorem exponentText_head {x : Option (Bool × List Nat)} {t rest : List Char}
    (h : ExponentText x t) (hr : Delimited rest) :
    ∀ c r, t ++ rest = c :: r → digit? c = none ∧ c ≠ '.' := by
  have letter {e : Char} (he : e = 'e' ∨ e = 'E') : digit? e = none ∧ e ≠ '.' := by
    rcases he with rfl | rfl <;> exact ⟨rfl, by decide⟩
  intro c r heq
  cases h with
  | absent => exact ⟨(hr c r heq).1, (hr c r heq).2.1⟩
  | unsigned he _ => exact (List.cons.inj heq).1 ▸ letter he
  | plus he _ => exact (List.cons.inj heq).1 ▸ letter he
  | minus he _ => exact (List.cons.inj heq).1 ▸ letter he

/-- Decimal places begin with a point. -/
private theorem noDigit_placesText {p : Option (List Nat)} {t rest : List Char}
    (h : PlacesText p t) (hr : NoDigit rest) : NoDigit (t ++ rest) := by
  cases h with
  | absent => exact hr
  | places _ => exact noDigit_cons rfl

theorem readUnsigned?_text {negative : Bool} {whole : List Nat} {places : Option (List Nat)}
    {exponent : Option (Bool × List Nat)} {w p e rest : List Char} (hw : WholeText whole w)
    (hp : PlacesText places p) (he : ExponentText exponent e) (hr : Delimited rest) :
    readUnsigned? negative (w ++ (p ++ (e ++ rest))) =
      some ({ negative, whole, places, exponent }, rest) := by
  have hhead := exponentText_head he hr
  have hdigit : NoDigit (e ++ rest) := fun c r h => (hhead c r h).1
  have hpoint : ∀ r, e ++ rest ≠ '.' :: r := fun r h => (hhead '.' r h).2 rfl
  have hread : readExponent? (e ++ rest) = some (exponent, rest) := readExponent?_exponentText he hr
  simp [readUnsigned?, readWhole?_wholeText hw (noDigit_placesText hp hdigit),
    readPlaces?_placesText hp hdigit hpoint, hread]

/-- The digits before the point do not begin with a minus sign. -/
private theorem wholeText_ne_minus {ds : List Nat} {t rest r : List Char} (h : WholeText ds t) :
    t ++ rest ≠ '-' :: r := by
  intro heq
  cases h with
  | zero => exact absurd (List.cons.inj heq).1 (by decide)
  | @digits d ds hd h =>
    have hc : Nat.digitChar d = '-' := (List.cons.inj heq).1
    have hn : (Nat.digitChar d).toNat = 48 + d := toNat_digitChar (h.2 d (by simp))
    rw [hc] at hn
    exact absurd hn (by simp; omega)

/-- A numeral begins with a minus sign or a digit, so with none of the other characters. -/
theorem numeralText_head {m : Numeral} {t : List Char} (h : NumeralText m t) :
    ∃ c r, t = c :: r ∧ ∀ x, digit? x = none → x ≠ '-' → c ≠ x := by
  have of_digit {d : Nat} (hd : d ≤ 9) {x : Char} (hx : digit? x = none) :
      Nat.digitChar d ≠ x := by
    rintro rfl
    exact absurd (digit?_digitChar hd) (by simp [hx])
  cases h with
  | @mk negative whole places exponent w p e hw hp he =>
    -- Without a minus sign, the text begins as its digits before the point do.
    cases negative with
    | true => exact ⟨'-', _, rfl, fun x _ hx => Ne.symm hx⟩
    | false =>
      cases hw with
      | zero => exact ⟨'0', _, rfl, fun x hx _ => of_digit (d := 0) (by omega) hx⟩
      | @digits d ds _ hd =>
        exact ⟨Nat.digitChar d, _, rfl, fun x hx _ => of_digit (hd.2 d (by simp)) hx⟩

/-- A text of a numeral is read back, unless what follows could belong to it. -/
theorem read?_numeralText {m : Numeral} {t rest : List Char} (h : NumeralText m t)
    (hr : Delimited rest) : read? (t ++ rest) = some (m, rest) := by
  cases h with
  | @mk negative whole places exponent w p e hw hp he =>
    have hread {b : Bool} : readUnsigned? b (w ++ (p ++ (e ++ rest))) =
        some (⟨b, whole, places, exponent⟩, rest) := readUnsigned?_text hw hp he hr
    simp only [List.append_assoc]
    cases negative with
    | true => exact hread
    | false =>
      -- The first digit is not taken for a minus sign.
      simp only [signText, Bool.false_eq_true, if_false, List.nil_append]
      unfold read?
      split
      · rename_i heq
        exact absurd heq (wholeText_ne_minus hw)
      · exact hread

theorem text_of_readUnsigned? {negative : Bool} {s : List Char} {m : Numeral} {rest : List Char}
    (h : readUnsigned? negative s = some (m, rest)) :
    ∃ t, s = t ++ rest ∧ NumeralText m (signText negative ++ t) := by
  simp only [readUnsigned?, Option.bind_eq_bind, Option.bind_eq_some_iff, Option.some.injEq,
    Prod.mk.injEq] at h
  obtain ⟨⟨whole, s₁⟩, hwhole, ⟨places, s₂⟩, hplaces, ⟨exponent, s₃⟩, hexponent, rfl, rfl⟩ := h
  obtain ⟨w, rfl, hw⟩ := wholeText_of_readWhole? hwhole
  obtain ⟨p, rfl, hp⟩ := placesText_of_readPlaces? hplaces
  obtain ⟨e, rfl, he⟩ := exponentText_of_readExponent? hexponent
  exact ⟨w ++ (p ++ e), by simp, .mk hw hp he⟩

/-- What is read is a text of the numeral. -/
theorem numeralText_of_read? {s : List Char} {m : Numeral} {rest : List Char}
    (h : read? s = some (m, rest)) : ∃ t, s = t ++ rest ∧ NumeralText m t := by
  unfold read? at h
  split at h
  · obtain ⟨t, rfl, ht⟩ := text_of_readUnsigned? h
    exact ⟨'-' :: t, rfl, ht⟩
  · obtain ⟨t, rfl, ht⟩ := text_of_readUnsigned? h
    exact ⟨t, rfl, ht⟩

/-! ## What integers stand for -/

/-- Further digits never make a number smaller. -/
private theorem le_foldl_digits (n : Nat) (ds : List Nat) :
    n ≤ ds.foldl (fun n d => n * 10 + d) n := by
  induction ds generalizing n with
  | nil => exact Nat.le_refl n
  | cons d ds ih => exact Nat.le_trans (by omega) (ih (n * 10 + d))

private theorem accumulate_cons (n d : Nat) (ds : List Nat) :
    accumulate n (d :: ds) =
      if n * 10 + d < 2 ^ 64 then accumulate (n * 10 + d) ds else (n, d :: ds) :=
  rfl

private theorem accumulate_of_lt {n : Nat} {ds : List Nat}
    (h : ds.foldl (fun n d => n * 10 + d) n < 2 ^ 64) :
    accumulate n ds = (ds.foldl (fun n d => n * 10 + d) n, []) := by
  induction ds generalizing n with
  | nil => rfl
  | cons d ds ih =>
    have hlt : n * 10 + d < 2 ^ 64 := Nat.lt_of_le_of_lt (le_foldl_digits _ ds) h
    rw [accumulate_cons, if_pos hlt]
    exact ih h

private theorem accumulate_of_le {n : Nat} {ds : List Nat} (hn : n < 2 ^ 64)
    (h : 2 ^ 64 ≤ ds.foldl (fun n d => n * 10 + d) n) : (accumulate n ds).2 ≠ [] := by
  induction ds generalizing n with
  | nil => exact absurd h (by simp only [List.foldl_nil]; omega)
  | cons d ds ih =>
    by_cases hlt : n * 10 + d < 2 ^ 64
    · rw [accumulate_cons, if_pos hlt]
      exact ih hlt h
    · rw [accumulate_cons, if_neg hlt]
      exact List.cons_ne_nil d ds

/-- Digits that write a number below `2 ^ 64` are all taken. -/
theorem accumulate_zero_of_lt {ds : List Nat} (h : ofDigits ds < 2 ^ 64) :
    accumulate 0 ds = (ofDigits ds, []) :=
  accumulate_of_lt h

/-- Digits that write a greater number are not all taken. -/
theorem accumulate_zero_of_le {ds : List Nat} (h : 2 ^ 64 ≤ ofDigits ds) :
    (accumulate 0 ds).2 ≠ [] :=
  accumulate_of_le (by decide) h

/-- An integer of at most 64 bits stands for itself. -/
theorem value?_of_integer {m : Numeral} (hm : m.IsInteger) (hlow : -2 ^ 63 ≤ m.toInt)
    (hhigh : m.toInt ≤ 2 ^ 64 - 1) : m.value? = some (.int m.toInt) := by
  obtain ⟨hp, he, hz⟩ := hm
  have hwhole : m.isWhole = true := by simp [isWhole, hp, he]
  cases hneg : m.negative with
  | false =>
    simp only [toInt, hneg, Bool.false_eq_true, if_false] at hlow hhigh ⊢
    have hlt : ofDigits m.whole < 2 ^ 64 := by omega
    simp [value?, accumulate_zero_of_lt hlt, hwhole, hneg]
  | true =>
    -- The digits are not all zero, so the row for negative integers applies and not that for `-0`.
    simp only [toInt, hneg, if_true] at hlow hhigh ⊢
    have hlt : ofDigits m.whole < 2 ^ 64 := by omega
    have hpos : 0 < ofDigits m.whole := Nat.pos_of_ne_zero (hz hneg)
    have hle : ofDigits m.whole ≤ Nat.pow 2 63 := by rw [Nat.pow_eq]; omega
    simp only [value?, accumulate_zero_of_lt hlt, hwhole, hneg, List.isEmpty_nil, Bool.not_true,
      Bool.and_true, Bool.and_false, Bool.false_eq_true, if_false, decide_eq_true hpos,
      decide_eq_true hle, if_true]

/-- Only an integer of at most 64 bits stands for an integer, and for no other than itself. -/
theorem value?_eq_int_iff {m : Numeral} {n : Int} :
    m.value? = some (.int n) ↔
      m.IsInteger ∧ n = m.toInt ∧ -2 ^ 63 ≤ n ∧ n ≤ 2 ^ 64 - 1 := by
  constructor
  · intro h
    have hlt : ofDigits m.whole < 2 ^ 64 := by
      refine Nat.lt_of_not_le fun hle => ?_
      have hdropped := accumulate_zero_of_le hle
      simp [value?, hdropped] at h
    simp only [value?, accumulate_zero_of_lt hlt, List.isEmpty_nil, Bool.and_true, isWhole,
      Bool.and_eq_true, Option.isNone_iff_eq_none, Bool.not_eq_true', decide_eq_true_eq] at h
    -- The two rows that give integers: without a minus sign, and with one.
    split at h
    · rename_i hcond
      obtain ⟨⟨hp, he⟩, hneg⟩ := hcond
      obtain rfl : (ofDigits m.whole : Int) = n := by simpa using h
      refine ⟨⟨hp, he, by simp [hneg]⟩, by simp [toInt, hneg], by omega, by omega⟩
    · rename_i hfirst
      split at h
      · rename_i hcond
        obtain ⟨⟨⟨hp, he⟩, hpos⟩, hle⟩ := hcond
        rw [Nat.pow_eq] at hle
        have hneg : m.negative = true := by
          cases hneg : m.negative with
          | true => rfl
          | false => exact absurd ⟨⟨hp, he⟩, hneg⟩ hfirst
        obtain rfl : -(ofDigits m.whole : Int) = n := by simpa using h
        refine ⟨⟨hp, he, fun _ => Nat.ne_of_gt hpos⟩, by simp [toInt, hneg], by omega, by omega⟩
      · obtain ⟨x, -, hx⟩ := Option.map_eq_some_iff.1 h
        exact nomatch hx
  · rintro ⟨hm, rfl, hlow, hhigh⟩
    exact value?_of_integer hm hlow hhigh

/-- An integer that does not fit is rounded, if that leaves a finite number. -/
theorem value?_of_wide_integer {m : Numeral}
    (hout : m.toInt < -2 ^ 63 ∨ 2 ^ 64 ≤ m.toInt) :
    m.value? = m.float?.map fun x => .float (if m.negative then x.negate else x) := by
  cases hneg : m.negative with
  | false =>
    simp only [toInt, hneg, Bool.false_eq_true, if_false] at hout
    have hle : 2 ^ 64 ≤ ofDigits m.whole := by omega
    simp [value?, accumulate_zero_of_le hle, hneg]
  | true =>
    -- The digits may fit into 64 bits where the number with its sign does not.
    simp only [toInt, hneg, if_true] at hout
    by_cases hlt : ofDigits m.whole < 2 ^ 64
    · have hnot : ¬ ofDigits m.whole ≤ Nat.pow 2 63 := by rw [Nat.pow_eq]; omega
      simp only [value?, accumulate_zero_of_lt hlt, hneg, Bool.not_true, Bool.and_false,
        Bool.false_eq_true, if_false, decide_eq_false hnot, if_true]
    · simp [value?, accumulate_zero_of_le (Nat.not_lt.1 hlt), hneg]

end Numeral

end TokenAtlas.Json
