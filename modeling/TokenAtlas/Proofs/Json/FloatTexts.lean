import TokenAtlas.Json.Printer
import TokenAtlas.Proofs.Json.Printing

/-!
# Texts of floating-point numbers

A finite number is printed as a numeral of the grammar, so its text can be read and is never that of
null.  What has to be shown is that the digits of the shortest decimal begin with no zero: zero does
not round to any other number, so it lies in the range of none.

## Key results

- `Decimal.shortest_leads`: the shortest decimal of a number begins with no superfluous zero
- `isUnsigned_whole`, `isUnsigned_places`, `isUnsigned_scientific`: the written forms are numerals
- `exists_numeralText_renderFloat`: so is the text of every finite number
-/

namespace TokenAtlas

namespace Decimal

/-- Whether the digits begin with no superfluous zero.  The zero without an exponent is allowed. -/
def Leads (d : Decimal) : Prop := d.digits ≠ 0 ∨ d = ⟨0, 0⟩

/-! ## The range of a number -/

/-- The significand of a number other than zero is positive. -/
theorem significand_pos {x : Binary64} (hx : x.isZero = false) : 0 < x.significand := by
  unfold Binary64.isZero at hx
  unfold Binary64.significand
  have hne : x.magnitude ≠ 0 := by simpa using hx
  simp only [Nat.pow_eq]
  split <;> omega

/-- Zero lies below the range of a number other than zero. -/
theorem Neighbourhood.low_pos {x : Binary64} (hx : x.isZero = false) : 0 < (of x).low := by
  have hpos := significand_pos hx
  unfold of
  simp only
  -- The lower neighbour is at most half a unit away.
  split <;> omega

/-- A range that begins above zero holds no decimal without digits. -/
theorem Neighbourhood.digits_ne_zero {r : Neighbourhood} {d : Decimal} (hr : 0 < r.low)
    (h : r.contains d = true) : d.digits ≠ 0 := by
  intro hzero
  have hunit : 0 < Nat.pow 10 (-d.exponent).toNat * Nat.pow 2 r.scale.toNat :=
    Nat.mul_pos (Nat.pow_pos (by decide)) (Nat.pow_pos (by decide))
  have hlow : 0 < r.low * (Nat.pow 10 (-d.exponent).toNat * Nat.pow 2 r.scale.toNat) :=
    Nat.mul_pos hr hunit
  -- So zero lies below the range, whether or not its ends belong to it.
  unfold contains at h
  simp only [hzero, Nat.zero_mul] at h
  split at h
  · simp only [Bool.and_eq_true, decide_eq_true_eq] at h
    omega
  · simp at h

/-! ## The shortest decimal -/

/-- A decimal that is chosen lies in the range. -/
theorem contains_of_nearest? {tie : TieRule} {r : Neighbourhood} {num den : Nat} {e : Int}
    {d : Decimal} (h : nearest? tie r num den e = some d) : r.contains d = true := by
  unfold nearest? at h
  simp only at h
  split at h
  · rename_i hbelow habove
    -- Both neighbours lie in the range, so it does not matter which one is chosen.
    split at h
    · cases h
      exact hbelow
    · split at h
      · cases h
        exact habove
      · cases tie with
        | up =>
          cases h
          exact habove
        | toEven =>
          obtain rfl := Option.some.inj h
          split
          · exact hbelow
          · exact habove
  · rename_i hbelow _
    cases h
    exact hbelow
  · rename_i _ habove
    cases h
    exact habove
  · cases h

theorem digits_shortestFrom_ne_zero {tie : TieRule} {r : Neighbourhood} {num den : Nat} {lead : Int}
    (hr : 0 < r.low) (hnum : num ≠ 0) (digits count : Nat) :
    (shortestFrom tie r num den lead digits count).digits ≠ 0 := by
  -- On the number of attempts: one that succeeds gives a decimal of the range, which is not zero.
  induction count generalizing digits with
  | zero =>
    unfold shortestFrom
    cases h : nearest? tie r num den (lead - digits) with
    | none => exact hnum
    | some d => exact Neighbourhood.digits_ne_zero hr (contains_of_nearest? h)
  | succ count ih =>
    unfold shortestFrom
    split
    · rename_i d h
      exact Neighbourhood.digits_ne_zero hr (contains_of_nearest? h)
    · exact ih (digits + 1)

/-- Digits are left when the zeros at their end are taken away. -/
theorem digits_trim_ne_zero (fuel : Nat) {d : Decimal} (h : d.digits ≠ 0) :
    (trim fuel d).digits ≠ 0 := by
  induction fuel generalizing d with
  | zero => exact h
  | succ fuel ih =>
    unfold trim
    split
    · apply ih
      show d.digits / 10 ≠ 0
      omega
    · exact h

/-- The shortest decimal of a number begins with no superfluous zero. -/
theorem shortest_leads (tie : TieRule) (x : Binary64) : (shortest tie x).Leads := by
  unfold shortest
  by_cases hx : x.isZero = true
  · rw [if_pos hx]
    exact .inr rfl
  · have hzero : x.isZero = false := by simpa using hx
    have hnum : x.numerator ≠ 0 :=
      Nat.ne_of_gt (Nat.mul_pos (significand_pos hzero) (Nat.two_pow_pos _))
    rw [if_neg hx]
    apply Or.inl
    apply digits_trim_ne_zero
    exact digits_shortestFrom_ne_zero (Neighbourhood.low_pos hzero) hnum 0 17

end Decimal

namespace Json

open Decimal

/-! ## Texts of digits -/

theorem digitsText_append (xs ys : List Nat) :
    digitsText (xs ++ ys) = digitsText xs ++ digitsText ys := by
  simp [digitsText]

theorem digitsText_zeros (n : Nat) : digitsText (List.replicate n 0) = List.replicate n '0' :=
  List.map_replicate

theorem Digits.append {xs ys : List Nat} (hx : Digits xs) (hy : ∀ d ∈ ys, d ≤ 9) :
    Digits (xs ++ ys) := by
  refine ⟨by simp [hx.1], fun d hd => ?_⟩
  rcases List.mem_append.1 hd with hd | hd
  · exact hx.2 d hd
  · exact hy d hd

/-- A text of digits before the point consists of digits. -/
theorem WholeText.digits_eq {ds : List Nat} {t : List Char} (h : WholeText ds t) :
    Digits ds ∧ t = digitsText ds := by
  cases h with
  | zero => exact ⟨⟨by simp, by simp⟩, rfl⟩
  | digits _ h => exact ⟨h, rfl⟩

/-! ## Written forms -/

/-- A text of a numeral without a minus sign. -/
def IsUnsigned (t : List Char) : Prop := ∃ m : Numeral, m.negative = false ∧ NumeralText m t

theorem isUnsigned_of_parts {whole : List Nat} {places : Option (List Nat)}
    {exponent : Option (Bool × List Nat)} {w p e : List Char} (hw : WholeText whole w)
    (hp : PlacesText places p) (he : ExponentText exponent e) : IsUnsigned (w ++ (p ++ e)) :=
  ⟨⟨false, whole, places, exponent⟩, rfl, .mk hw hp he⟩

/-- A minus sign makes a numeral of a numeral. -/
theorem IsUnsigned.exists_negated {t : List Char} (h : IsUnsigned t) :
    ∃ m, NumeralText m ('-' :: t) := by
  obtain ⟨m, hm, htext⟩ := h
  cases htext with
  | @mk negative whole places exponent w p e hw hp he =>
    obtain rfl : negative = false := hm
    exact ⟨⟨true, whole, places, exponent⟩, .mk hw hp he⟩

/-- The digits of a decimal, followed by zeros and one decimal place. -/
theorem isUnsigned_whole {d : Decimal} (hd : d.Leads) (he : 0 ≤ d.exponent) :
    IsUnsigned (d.positional ++ ['.', '0']) := by
  have hplaces : PlacesText (some [0]) ['.', '0'] := .places ⟨by simp, by simp⟩
  unfold positional
  rw [if_pos he]
  -- Zero has one digit and no others; every other number begins with a digit that is not zero.
  rcases hd with hd | rfl
  · obtain ⟨first, rest, hfirst, hdigits, htext, -⟩ := exists_digits (Nat.pos_of_ne_zero hd)
    have hzeros : Digits (first :: rest ++ List.replicate d.exponent.toNat 0) :=
      hdigits.append (by simp +contextual)
    have hwhole : WholeText (first :: (rest ++ List.replicate d.exponent.toNat 0))
        (d.digitChars ++ List.replicate d.exponent.toNat '0') := by
      rw [digitChars, htext, ← digitsText_zeros, ← digitsText_append]
      exact .digits hfirst hzeros
    simpa using isUnsigned_of_parts hwhole hplaces .absent
  · exact isUnsigned_of_parts .zero hplaces .absent

/-- Digits with a point after one of them, but not after the last. -/
theorem isUnsigned_split {first : Nat} {rest : List Nat} (hfirst : first ≠ 0)
    (hdigits : Digits (first :: rest)) {n : Nat} (hn : n < rest.length) :
    IsUnsigned (digitsText (first :: rest.take n) ++ '.' :: digitsText (rest.drop n)) := by
  have hbefore : Digits (first :: rest.take n) := by
    refine ⟨by simp, fun x hx => hdigits.2 x ?_⟩
    exact List.mem_of_mem_take (i := n + 1) hx
  have hafter : Digits (rest.drop n) := by
    refine ⟨?_, fun x hx => hdigits.2 x ?_⟩
    · simpa [List.drop_eq_nil_iff] using hn
    · exact List.mem_cons_of_mem first (List.mem_of_mem_drop hx)
  simpa using isUnsigned_of_parts (.digits hfirst hbefore) (.places hafter) .absent

/-- Digits below one, with zeros between the point and the first of them. -/
theorem isUnsigned_below_one {ds : List Nat} (hdigits : Digits ds) (zeros : Nat) :
    IsUnsigned ('0' :: '.' :: (List.replicate zeros '0' ++ digitsText ds)) := by
  have hafter : Digits (List.replicate zeros 0 ++ ds) := by
    refine ⟨by simp [hdigits.1], fun x hx => ?_⟩
    rcases List.mem_append.1 hx with hx | hx
    · simp [List.eq_of_mem_replicate hx]
    · exact hdigits.2 x hx
  have htexts := isUnsigned_of_parts .zero (.places hafter) .absent
  simpa [digitsText_append, digitsText_zeros] using htexts

/-- The digits of a decimal with a point between them or before them. -/
theorem isUnsigned_places {d : Decimal} (hd : d.Leads) (he : ¬ 0 ≤ d.exponent) :
    IsUnsigned d.positional := by
  have hne : d.digits ≠ 0 := hd.resolve_right fun h => he (by simp [h])
  obtain ⟨first, rest, hfirst, hdigits, htext, -⟩ := exists_digits (Nat.pos_of_ne_zero hne)
  unfold positional
  rw [if_neg he]
  simp only [digitChars, htext]
  have hplaces : 0 < (-d.exponent).toNat := by omega
  generalize (-d.exponent).toNat = places at hplaces
  split
  · rename_i hlt
    -- The point stands after the first digit at the earliest, and before the last one.
    simp only [digitsText, List.length_map, List.length_cons] at hlt
    obtain ⟨n, hn⟩ : ∃ n, rest.length + 1 - places = n + 1 :=
      Nat.exists_eq_succ_of_ne_zero (by omega)
    have hsplit := isUnsigned_split hfirst hdigits (show n < rest.length by omega)
    simpa [digitsText, List.map_take, List.map_drop, hn] using hsplit
  · exact isUnsigned_below_one hdigits _

/-- One digit, the others after the point, and an exponent. -/
theorem isUnsigned_scientific {d : Decimal} (hd : d.digits ≠ 0) : IsUnsigned d.scientific := by
  obtain ⟨first, rest, hfirst, hdigits, htext, -⟩ := exists_digits (Nat.pos_of_ne_zero hd)
  obtain ⟨ds, hwhole, -⟩ := exists_wholeText d.leadExponent.natAbs
  obtain ⟨hds, hpower⟩ := hwhole.digits_eq
  have hexponent : ∃ x, ExponentText x ('e' ::
      (if d.leadExponent < 0 then '-' else '+') :: Nat.toDigits 10 d.leadExponent.natAbs) := by
    rw [hpower]
    split
    · exact ⟨_, .minus (.inl rfl) hds⟩
    · exact ⟨_, .plus (.inl rfl) hds⟩
  obtain ⟨x, hx⟩ := hexponent
  -- The point is left out where no digit follows the first one.
  have hbefore : WholeText [first] (digitsText [first]) :=
    .digits hfirst ⟨by simp, by simpa using hdigits.2 first⟩
  unfold scientific
  simp only [digitChars, htext]
  cases rest with
  | nil => exact isUnsigned_of_parts hbefore .absent hx
  | cons second rest =>
    have hafter : PlacesText (some (second :: rest)) ('.' :: digitsText (second :: rest)) :=
      .places ⟨by simp, fun y hy => hdigits.2 y (List.mem_cons_of_mem first hy)⟩
    simpa [digitsText] using isUnsigned_of_parts hbefore hafter hx

/-! ## Finite numbers -/

/-- Without its sign a number is printed as a numeral. -/
theorem isUnsigned_body {d : Decimal} (hd : d.Leads) :
    IsUnsigned (if Layout.json.isPositional d.leadExponent then
      d.positional ++ (if 0 ≤ d.exponent then Layout.json.wholeEnd else []) else d.scientific) := by
  split
  · split
    · rename_i he
      exact isUnsigned_whole hd he
    · rename_i he
      rw [List.append_nil]
      exact isUnsigned_places hd he
  · rename_i hlead
    -- The zero is printed without an exponent.
    apply isUnsigned_scientific
    apply hd.resolve_right
    rintro rfl
    exact hlead (by decide)

/-- A finite number is printed as a numeral. -/
theorem exists_numeralText_renderFloat {x : Binary64} (hx : x.isFinite = true) :
    ∃ m, NumeralText m (renderFloat x) := by
  have hbody := isUnsigned_body (shortest_leads Layout.json.tie x)
  rw [renderFloat, if_pos hx, Layout.render]
  split
  · exact hbody.exists_negated
  · obtain ⟨m, -, hm⟩ := hbody
    exact ⟨m, hm⟩

end Json

end TokenAtlas
