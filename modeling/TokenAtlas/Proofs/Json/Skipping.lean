import TokenAtlas.Proofs.Json.Values

/-!
# Passing over values

A text of the grammar is passed over up to its end, whatever it is a text of: how deep it nests and
what its numbers stand for does not matter.

## Key results

- `skipString?_spells`: a spelling is passed over up to the quote that ends it
- `skipValue_renders`: a text of a value is passed over
-/

namespace TokenAtlas.Json

/-! ## Strings -/

private theorem skipString?_plain {c : Char} {s : List Char} (hc : 0x20 ≤ c.toNat) (hq : c ≠ '"')
    (hb : c ≠ '\\') : skipString? (c :: s) = skipString? s := by
  have hlt : ¬ c < ' ' := fun h => absurd (show c.toNat < 0x20 from h) (by omega)
  rw [skipString?, if_neg hlt]
  all_goals intros; simp_all

private theorem skipString?_short {e c : Char} {s : List Char} (he : (e, c) ∈ shortEscapes) :
    skipString? ('\\' :: e :: s) = skipString? s := by
  have hshort : shortEscape? e = some c := shortEscape?_eq_some_iff.2 he
  have hu : e ≠ 'u' := by
    rintro rfl
    cases hshort
  rw [skipString?, hshort]
  · rfl
  all_goals intros; simp_all

private theorem skipString?_unit {u s : List Char} {n : Nat} (hu : CodeUnit u n) :
    skipString? ('\\' :: 'u' :: (u ++ s)) = skipString? s := by
  obtain ⟨x, y, z, w, rfl, hv⟩ := exists_of_codeUnit hu
  simp only [List.cons_append, List.nil_append, skipString?, hv, Option.isSome_some, if_true]

/-- A spelling is passed over up to the quote that ends it. -/
theorem skipString?_spells {cs t : List Char} (h : Spells cs t) (rest : List Char) :
    skipString? (t ++ '"' :: rest) = some rest := by
  induction h with
  | nil => rfl
  | plain hc hq hb _ ih => rw [List.cons_append, skipString?_plain hc hq hb, ih]
  | short he _ ih => rw [List.cons_append, List.cons_append, skipString?_short he, ih]
  | unit hu _ ih =>
    rw [List.cons_append, List.cons_append, List.append_assoc, skipString?_unit hu, ih]
  | pair hu hv _ _ _ _ ih =>
    -- The halves of a pair are passed over one after the other.
    simp only [List.cons_append, List.append_assoc]
    rw [skipString?_unit hu, skipString?_unit hv, ih]

/-! ## Scalars -/

/-- What begins with neither bracket is passed over as a scalar, however deep the value may nest. -/
private theorem skipValue_eq_skipScalar {c : Char} {s : List Char} (depth : Nat) (ha : c ≠ '[')
    (ho : c ≠ '\x7b') : skipValue depth (c :: s) = (skipScalar (c :: s)).map ((), ·) := by
  cases depth with
  | zero => rfl
  | succ depth =>
    rw [skipValue]
    all_goals intros; simp_all

/-- A numeral begins with none of the characters that begin another scalar. -/
private theorem skipScalar_numeral {m : Numeral} {t rest : List Char} (h : NumeralText m t)
    (hr : Delimited rest) : skipScalar (t ++ rest) = some rest := by
  have hread := Numeral.read?_numeralText h hr
  obtain ⟨c, r, rfl, hne⟩ := Numeral.numeralText_head h
  have hn : c ≠ 'n' := hne 'n' rfl (by decide)
  have ht : c ≠ 't' := hne 't' rfl (by decide)
  have hf : c ≠ 'f' := hne 'f' rfl (by decide)
  have hq : c ≠ '"' := hne '"' rfl (by decide)
  rw [List.cons_append] at hread ⊢
  rw [skipScalar]
  · rw [hread, Option.map_some]
  all_goals intros; simp_all

/-! ## Values -/

/-- The name of a member is passed over, and what remains is its value. -/
private theorem skipName?_spells {cs n b b' t : List Char} (hn : Spells cs n) (hb : Blank b)
    (hb' : Blank b') (rest : List Char) :
    skipName? ('"' :: (n ++ '"' :: (b ++ ':' :: (b' ++ (t ++ rest))))) =
      some (skipBlanks (t ++ rest)) := by
  have hcolon : isBlank ':' = false := rfl
  simp only [skipName?, skipString?_spells hn, skipBlanks_append_cons hb hcolon,
    skipBlanks_append hb']

/-- The text of an item is no longer than that of the sequence. -/
private theorem Separated.within {α : Type} {R : α → List Char → Prop} {xs : List α} {t : List Char}
    {n : Nat} (h : Separated R xs t) (hn : t.length ≤ n) :
    Separated (fun x u => R x u ∧ u.length ≤ n) xs t := by
  induction h with
  | one hb hx hb' =>
    simp only [List.length_append] at hn
    exact .one hb ⟨hx, by omega⟩ hb'
  | cons hb hx hb' _ ih =>
    simp only [List.length_append, List.length_cons] at hn
    exact .cons hb ⟨hx, by omega⟩ hb' (ih (by omega))

private theorem mapM_some_unit {α : Type} (xs : List α) :
    xs.mapM (fun _ => some ()) = some (xs.map fun _ => ()) := by
  induction xs with
  | nil => rfl
  | cons x rest ih => simp [ih]

/-- A member is passed over as its value is. -/
private theorem skipMember_memberText {value : List Char → Option (Unit × List Char)}
    {m : String × Written} {t rest : List Char} (h : MemberText Renders m t)
    (hvalue : ∀ u, Renders m.2 u → u.length ≤ t.length → value (u ++ rest) = some ((), rest)) :
    (skipName? (t ++ rest)).bind value = some ((), rest) := by
  cases h with
  | @mk name w n b b' t hn hb hb' hw =>
    obtain ⟨c, r, rfl, hc, -⟩ := renders_starts hw
    have hskip := hvalue _ hw (by simp; omega)
    simp only [List.cons_append, List.append_assoc] at hskip ⊢
    have hname := skipName?_spells (t := c :: r) hn hb hb' rest
    simp only [List.cons_append, skipBlanks_cons hc] at hname
    rw [hname, Option.bind_some, hskip]

/-- A text of a value is passed over. -/
theorem skipValue_renders {fuel : Nat} {w : Written} {t rest : List Char} (h : Renders w t)
    (hf : t.length ≤ fuel) (hr : Delimited rest) :
    skipValue fuel (t ++ rest) = some ((), rest) := by
  -- The induction is on the fuel; the text of an item is shorter than that of an array or object.
  induction fuel generalizing w t rest with
  | zero =>
    obtain ⟨c, r, rfl, -⟩ := renders_starts h
    cases hf
  | succ fuel ih =>
    cases h with
    | null => exact skipValue_eq_skipScalar _ (by decide) (by decide)
    | true => exact skipValue_eq_skipScalar _ (by decide) (by decide)
    | false => exact skipValue_eq_skipScalar _ (by decide) (by decide)
    | string h =>
      rw [List.cons_append, List.append_assoc, skipValue_eq_skipScalar _ (by decide) (by decide)]
      exact congrArg (Option.map ((), ·)) (skipString?_spells h rest)
    | numeral h =>
      -- A numeral begins with a digit or a sign, so with no bracket.
      have hskip := skipScalar_numeral h hr
      obtain ⟨c, r, rfl, hne⟩ := Numeral.numeralText_head h
      rw [List.cons_append] at hskip ⊢
      rw [skipValue_eq_skipScalar _ (hne '[' rfl (by decide)) (hne '\x7b' rfl (by decide)), hskip]
      rfl
    | emptyArray hb =>
      simp only [List.cons_append, List.append_assoc, List.nil_append, skipValue,
        readSequence_blank hb closes_array]
      rfl
    | @array items t h =>
      -- The sequence lemma, with the induction hypothesis for the items.
      have hlen : t.length ≤ fuel := by simp at hf; omega
      have hskip : readSequence (skipValue fuel) ']' (t ++ ']' :: rest) =
          (items.mapM fun _ => some ()).map (·, rest) :=
        readSequence_separated (h.within hlen) (fun _ _ h => renders_starts h.1) closes_array
          (fun w _ t rest h hr => ih h.1 h.2 hr) rest
      simp only [List.cons_append, List.append_assoc, List.nil_append, skipValue, hskip,
        mapM_some_unit]
      rfl
    | emptyObject hb =>
      simp only [List.cons_append, List.append_assoc, List.nil_append, skipValue,
        readSequence_blank hb closes_object]
      rfl
    | @object members t h =>
      have hlen : t.length ≤ fuel := by simp at hf; omega
      have hskip : readSequence (fun s => (skipName? s).bind (skipValue fuel)) '\x7d'
          (t ++ '\x7d' :: rest) = (members.mapM fun _ => some ()).map (·, rest) :=
        readSequence_separated (h.within hlen) (fun _ _ h => memberText_starts h.1) closes_object
          (fun m _ t rest h hr => skipMember_memberText h.1 fun u hu hlen =>
            ih hu (Nat.le_trans hlen h.2) hr) rest
      simp only [List.cons_append, List.append_assoc, List.nil_append, skipValue, hskip,
        mapM_some_unit]
      rfl

end TokenAtlas.Json
