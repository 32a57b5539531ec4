import TokenAtlas.Proofs.Fields
import TokenAtlas.Proofs.Json.Sequences
import TokenAtlas.Proofs.Json.Strings

/-!
# Reading values

The reader of values takes exactly the texts of the grammar that nest no deeper than it may go, and
gives the value that is written there, if all numerals in it stand for something.

## Key results

- `readValue_renders`: a text of a value is read as that value
- `renders_of_readValue`: what is read is a text of a value
- `read?_textOf`, `textOf_of_read?`: the same for whole texts, from both sides
-/

namespace TokenAtlas.Json

open Written

/-! ## Written values as lists -/

namespace Written

theorem jsonItems?_eq_mapM (items : List Written) : jsonItems? items = items.mapM json? := by
  induction items with
  | nil => rfl
  | cons w rest ih => simp [jsonItems?, ih]

/-- The member that a written member stands for. -/
def jsonMember? (m : String × Written) : Option (String × Json) := m.2.json?.map (m.1, ·)

theorem jsonMembers?_eq_mapM (members : List (String × Written)) :
    jsonMembers? members = members.mapM jsonMember? := by
  induction members with
  | nil => rfl
  | cons m rest ih =>
    obtain ⟨name, w⟩ := m
    simp only [jsonMembers?, ih, List.mapM_cons, jsonMember?]
    cases w.json? <;> rfl

theorem depthOfItems_le_iff {items : List Written} {d : Nat} :
    depthOfItems items ≤ d ↔ ∀ w ∈ items, w.depth ≤ d := by
  induction items with
  | nil => simp [depthOfItems]
  | cons w rest ih => rw [depthOfItems, Nat.max_le, ih, List.forall_mem_cons]

theorem depthOfMembers_le_iff {members : List (String × Written)} {d : Nat} :
    depthOfMembers members ≤ d ↔ ∀ m ∈ members, m.2.depth ≤ d := by
  induction members with
  | nil => simp [depthOfMembers]
  | cons m rest ih => rw [depthOfMembers, Nat.max_le, ih, List.forall_mem_cons]

/-- The value of a text in which arrays and objects may nest only to a depth. -/
def jsonWithin? (depth : Nat) (w : Written) : Option Json :=
  if w.depth ≤ depth then w.json? else none

theorem jsonWithin?_of_le {depth : Nat} {w : Written} (h : w.depth ≤ depth) :
    w.jsonWithin? depth = w.json? :=
  if_pos h

/-- The items of an array nest less deep than the array. -/
theorem jsonWithin?_array (depth : Nat) (items : List Written) :
    (Written.array items).jsonWithin? (depth + 1) =
      (items.mapM (jsonWithin? depth)).map .array := by
  have hitems : items.mapM (jsonWithin? depth) = _ :=
    mapM_ite json? (fun w : Written => w.depth ≤ depth) items
  rw [hitems]
  simp only [jsonWithin?, Written.depth, Nat.add_le_add_iff_right, depthOfItems_le_iff, json?,
    jsonItems?_eq_mapM]
  split <;> rfl

/-- The member of a text in which arrays and objects may nest only to a depth. -/
def memberWithin? (depth : Nat) (m : String × Written) : Option (String × Json) :=
  (m.2.jsonWithin? depth).map (m.1, ·)

/-- The values of an object nest less deep than the object. -/
theorem jsonWithin?_object (depth : Nat) (members : List (String × Written)) :
    (Written.object members).jsonWithin? (depth + 1) =
      (members.mapM (memberWithin? depth)).map .object := by
  have hmembers := mapM_ite jsonMember? (fun m : String × Written => m.2.depth ≤ depth) members
  have hmember : (fun m : String × Written => if m.2.depth ≤ depth then jsonMember? m else none) =
      memberWithin? depth := by
    funext m
    rw [memberWithin?, jsonWithin?]
    split <;> rfl
  rw [← hmember, hmembers]
  simp only [jsonWithin?, Written.depth, Nat.add_le_add_iff_right, depthOfMembers_le_iff, json?,
    jsonMembers?_eq_mapM]
  split <;> rfl

end Written

/-! ## Scalars -/

/-- A text of a value does not begin with a blank, nor as an array ends. -/
theorem renders_starts {w : Written} {t : List Char} (h : Renders w t) :
    Starts ']' t := by
  cases h with
  | numeral h =>
    obtain ⟨c, r, rfl, hne⟩ := Numeral.numeralText_head h
    refine ⟨c, r, rfl, ?_, hne ']' rfl (by decide)⟩
    rw [← Bool.not_eq_true, isBlank_iff]
    rintro (rfl | rfl | rfl | rfl)
    all_goals exact hne _ rfl (by decide) rfl
  | _ => exact ⟨_, _, rfl, rfl, by decide⟩

/-- A text of a member begins with a quote. -/
theorem memberText_starts {m : String × Written} {t : List Char}
    (h : MemberText Renders m t) : Starts '\x7d' t := by
  cases h
  exact ⟨'"', _, rfl, rfl, by decide⟩

/-- What begins with neither bracket is read as a scalar, however deep the reader may go. -/
private theorem readValue_eq_readScalar {c : Char} {s : List Char} (depth : Nat) (ha : c ≠ '[')
    (ho : c ≠ '\x7b') : readValue depth (c :: s) = readScalar (c :: s) := by
  cases depth with
  | zero => rfl
  | succ depth =>
    rw [readValue]
    all_goals intros; simp_all

/-- A numeral begins with none of the characters that begin another scalar. -/
private theorem readScalar_numeral {m : Numeral} {t rest : List Char} (h : NumeralText m t)
    (hr : Delimited rest) :
    readScalar (t ++ rest) = (m.value?.map Json.number).map (·, rest) := by
  have hread := Numeral.read?_numeralText h hr
  obtain ⟨c, r, rfl, hne⟩ := Numeral.numeralText_head h
  have hn : c ≠ 'n' := hne 'n' rfl (by decide)
  have ht : c ≠ 't' := hne 't' rfl (by decide)
  have hf : c ≠ 'f' := hne 'f' rfl (by decide)
  have hq : c ≠ '"' := hne '"' rfl (by decide)
  rw [List.cons_append] at hread ⊢
  rw [readScalar]
  · simp only [readNumber?, hread, Option.bind_eq_bind, Option.bind_some, Option.map_map]
    cases m.value? <;> rfl
  all_goals intros; simp_all

private theorem readScalar_string {s : String} {t : List Char} (h : Spells s.toList t)
    (rest : List Char) : readScalar ('"' :: (t ++ '"' :: rest)) = some (.string s, rest) := by
  simp only [readScalar, readString?_spells h, Option.map_some, String.ofList_toList]

/-! ## From the grammar to the reader -/

theorem closes_array : Closes ']' :=
  ⟨rfl, by decide, fun _ => delimited_cons rfl (by decide) (by decide) (by decide)⟩

theorem closes_object : Closes '\x7d' :=
  ⟨rfl, by decide, fun _ => delimited_cons rfl (by decide) (by decide) (by decide)⟩

/-- The name of a member is read, and what remains is its value. -/
theorem readName?_spells {name : String} {n b b' t : List Char} (hn : Spells name.toList n)
    (hb : Blank b) (hb' : Blank b') (rest : List Char) :
    readName? ('"' :: (n ++ '"' :: (b ++ ':' :: (b' ++ (t ++ rest))))) =
      some (name, skipBlanks (t ++ rest)) := by
  have hcolon : isBlank ':' = false := rfl
  simp only [readName?, readString?_spells hn, skipBlanks_append_cons hb hcolon,
    skipBlanks_append hb', String.ofList_toList]

/-- A member is read as the reader of values reads its value. -/
private theorem readMember_memberText {value : List Char → Option (Json × List Char)}
    {f : Written → Option Json} {m : String × Written} {t rest : List Char}
    (h : MemberText Renders m t)
    (hvalue : ∀ t, Renders m.2 t → value (t ++ rest) = (f m.2).map (·, rest)) :
    readMember value (t ++ rest) = ((f m.2).map (m.1, ·)).map (·, rest) := by
  cases h with
  | @mk name w n b b' t hn hb hb' hw =>
    -- The value begins with no blank, so the blanks before it end where it begins.
    obtain ⟨c, r, rfl, hc, -⟩ := renders_starts hw
    have hread := hvalue _ hw
    simp only [List.cons_append, List.append_assoc] at hread ⊢
    have hname := readName?_spells (t := c :: r) hn hb hb' rest
    simp only [List.cons_append, skipBlanks_cons hc] at hname
    simp only [readMember, hname, hread, Option.map_map]
    cases f w <;> rfl

/-- A text of a scalar is read as that scalar. -/
private theorem readValue_scalar {depth : Nat} {w : Written} {t rest : List Char}
    (h : Renders w t) (hd : w.depth = 0) (hr : Delimited rest) :
    readValue depth (t ++ rest) = w.json?.map (·, rest) := by
  cases h with
  | null => exact readValue_eq_readScalar depth (by decide) (by decide)
  | true => exact readValue_eq_readScalar depth (by decide) (by decide)
  | false => exact readValue_eq_readScalar depth (by decide) (by decide)
  | string h =>
    rw [List.cons_append, List.append_assoc, readValue_eq_readScalar depth (by decide) (by decide)]
    exact readScalar_string h rest
  | numeral h =>
    have hread := readScalar_numeral h hr
    obtain ⟨c, r, rfl, hne⟩ := Numeral.numeralText_head h
    rw [List.cons_append] at hread ⊢
    rw [readValue_eq_readScalar depth (hne '[' rfl (by decide)) (hne '\x7b' rfl (by decide)), hread,
      json?]
  | emptyArray _ | array _ | emptyObject _ | object _ => exact absurd hd (Nat.succ_ne_zero _)

/-- A text that begins with a bracket is no scalar. -/
private theorem readScalar_bracket (s : List Char) :
    readScalar ('[' :: s) = none ∧ readScalar ('\x7b' :: s) = none := ⟨rfl, rfl⟩

/-- A text of a value is read as that value, unless it nests too deep or a numeral in it stands for
    nothing. -/
theorem readValue_eq_jsonWithin? {depth : Nat} {w : Written} {t rest : List Char}
    (h : Renders w t) (hr : Delimited rest) :
    readValue depth (t ++ rest) = (w.jsonWithin? depth).map (·, rest) := by
  -- The induction is on the depth that is left, as in the reader; the items of an array or object
  -- nest less deep than it does.
  induction depth generalizing w t rest with
  | zero =>
    -- Brackets are not even read, and scalars do not nest.
    cases h with
    | emptyArray _ | array _ => exact (readScalar_bracket _).1
    | emptyObject _ | object _ => exact (readScalar_bracket _).2
    | _ =>
      rw [jsonWithin?_of_le (Nat.le_refl 0)]
      exact readValue_scalar (by constructor <;> assumption) rfl hr
  | succ depth ih =>
    cases h with
    | emptyArray hb =>
      simp only [List.cons_append, List.append_assoc, List.nil_append, readValue,
        readSequence_blank hb closes_array, jsonWithin?_array]
      rfl
    | array h =>
      rename_i items t
      have hread : readSequence (readValue depth) ']' (t ++ ']' :: rest) =
          (items.mapM (jsonWithin? depth)).map (·, rest) :=
        readSequence_separated h (fun _ _ => renders_starts) closes_array
          (fun w _ t rest h hr => ih h hr) rest
      simp only [List.cons_append, List.append_assoc, List.nil_append, readValue, hread,
        jsonWithin?_array, Option.map_map]
      rfl
    | emptyObject hb =>
      simp only [List.cons_append, List.append_assoc, List.nil_append, readValue,
        readSequence_blank hb closes_object, jsonWithin?_object]
      rfl
    | object h =>
      rename_i members t
      have hread : readSequence (readMember (readValue depth)) '\x7d' (t ++ '\x7d' :: rest) =
          (members.mapM (memberWithin? depth)).map (·, rest) :=
        readSequence_separated h (fun _ _ => memberText_starts) closes_object
          (fun m _ t rest h hr => readMember_memberText h fun _ hw => ih hw hr) rest
      simp only [List.cons_append, List.append_assoc, List.nil_append, readValue, hread,
        jsonWithin?_object, Option.map_map]
      rfl
    | _ =>
      rw [jsonWithin?_of_le (Nat.zero_le _)]
      exact readValue_scalar (by constructor <;> assumption) rfl hr

/-- A text of a value that does not nest too deep is read as that value, unless a numeral in it
    stands for nothing. -/
theorem readValue_renders {depth : Nat} {w : Written} {t rest : List Char} (h : Renders w t)
    (hd : w.depth ≤ depth) (hr : Delimited rest) :
    readValue depth (t ++ rest) = w.json?.map (·, rest) := by
  rw [readValue_eq_jsonWithin? h hr, jsonWithin?_of_le hd]

/-! ## From the reader to the grammar -/

/-- What is read as a scalar is a text of one. -/
private theorem renders_of_readScalar {s : List Char} {j : Json} {rest : List Char}
    (h : readScalar s = some (j, rest)) :
    ∃ w t, s = t ++ rest ∧ Renders w t ∧ w.json? = some j ∧ w.depth = 0 := by
  unfold readScalar at h
  -- One case for each row of the match: `null`, `true`, `false`, a string, a numeral.
  split at h
  · obtain ⟨rfl, rfl⟩ := Prod.mk.inj (Option.some.inj h)
    exact ⟨.null, _, rfl, .null, rfl, rfl⟩
  · obtain ⟨rfl, rfl⟩ := Prod.mk.inj (Option.some.inj h)
    exact ⟨.bool true, _, rfl, .true, rfl, rfl⟩
  · obtain ⟨rfl, rfl⟩ := Prod.mk.inj (Option.some.inj h)
    exact ⟨.bool false, _, rfl, .false, rfl, rfl⟩
  · obtain ⟨⟨cs, rest'⟩, hread, heq⟩ := Option.map_eq_some_iff.1 h
    obtain ⟨rfl, rfl⟩ := Prod.mk.inj heq
    obtain ⟨t, rfl, ht⟩ := spells_of_readString? hread
    have hs : Spells (String.ofList cs).toList t := by rwa [String.toList_ofList]
    exact ⟨.string (String.ofList cs), '"' :: (t ++ ['"']), by simp, .string hs, rfl, rfl⟩
  · obtain ⟨⟨n, rest'⟩, hread, heq⟩ := Option.map_eq_some_iff.1 h
    obtain ⟨rfl, rfl⟩ := Prod.mk.inj heq
    simp only [readNumber?, Option.bind_eq_bind, Option.bind_eq_some_iff, Option.some.injEq,
      Prod.mk.injEq] at hread
    obtain ⟨⟨m, rest''⟩, hm, n', hn, rfl, rfl⟩ := hread
    obtain ⟨t, rfl, ht⟩ := Numeral.numeralText_of_read? hm
    exact ⟨.numeral m, t, rfl, .numeral ht, by simp [json?, hn], rfl⟩

/-- What is read as the name of a member is its name in quotes and a colon. -/
theorem spells_of_readName? {s : List Char} {name : String} {rest : List Char}
    (h : readName? s = some (name, rest)) :
    ∃ n b b', s = '"' :: (n ++ '"' :: (b ++ ':' :: (b' ++ rest))) ∧ Spells name.toList n ∧
      Blank b ∧ Blank b' := by
  unfold readName? at h
  split at h
  · rename_i s
    cases hread : readString? s with
    | none => simp [hread] at h
    | some p =>
      obtain ⟨cs, after⟩ := p
      -- The blanks around the colon are named, to be put back in the text.
      obtain ⟨n, rfl, hn⟩ := spells_of_readString? hread
      obtain ⟨b, hb, hafter⟩ := exists_blank_append_skipBlanks after
      simp only [hread] at h
      split at h
      · rename_i r hskip
        obtain ⟨b', hb', hr⟩ := exists_blank_append_skipBlanks r
        obtain ⟨rfl, rfl⟩ := Prod.mk.inj (Option.some.inj h)
        refine ⟨n, b, b', ?_, by rwa [String.toList_ofList], hb, hb'⟩
        rw [hskip] at hafter
        rw [hafter, ← hr]
      · exact nomatch h
  · exact nomatch h

/-- What is read as a member is a text of one. -/
private theorem memberText_of_readMember {value : List Char → Option (Json × List Char)}
    {P : Written → Prop}
    (hvalue : ∀ s j rest, value s = some (j, rest) →
      ∃ w t, s = t ++ rest ∧ Renders w t ∧ w.json? = some j ∧ P w)
    {s : List Char} {y : String × Json} {rest : List Char}
    (h : readMember value s = some (y, rest)) :
    ∃ m t, s = t ++ rest ∧ MemberText Renders m t ∧ jsonMember? m = some y ∧ P m.2 := by
  rw [readMember] at h
  split at h
  · exact nomatch h
  · rename_i name after hname
    obtain ⟨⟨j, rest'⟩, hread, heq⟩ := Option.map_eq_some_iff.1 h
    obtain ⟨rfl, rfl⟩ := Prod.mk.inj heq
    obtain ⟨n, b, b', rfl, hn, hb, hb'⟩ := spells_of_readName? hname
    obtain ⟨w, t, rfl, hw, hj, hP⟩ := hvalue _ _ _ hread
    exact ⟨(name, w), _, by simp, .mk hn hb hb' hw, by simp [jsonMember?, hj], hP⟩

/-- What is read is a text of a value that nests no deeper than the reader may go. -/
theorem renders_of_readValue {depth : Nat} {s : List Char} {j : Json} {rest : List Char}
    (h : readValue depth s = some (j, rest)) :
    ∃ w t, s = t ++ rest ∧ Renders w t ∧ w.json? = some j ∧ w.depth ≤ depth := by
  have scalar {depth : Nat} {s : List Char} {j : Json} {rest : List Char}
      (h : readScalar s = some (j, rest)) :
      ∃ w t, s = t ++ rest ∧ Renders w t ∧ w.json? = some j ∧ w.depth ≤ depth := by
    obtain ⟨w, t, hs, hw, hj, hd⟩ := renders_of_readScalar h
    exact ⟨w, t, hs, hw, hj, hd ▸ Nat.zero_le depth⟩
  -- The induction is on the depth that is left; at depth zero only scalars are read.
  induction depth generalizing s j rest with
  | zero => exact scalar h
  | succ depth ih =>
    rw [readValue.eq_def] at h
    dsimp only at h
    split at h
    · obtain ⟨⟨js, rest'⟩, hread, heq⟩ := Option.map_eq_some_iff.1 h
      obtain ⟨rfl, rfl⟩ := Prod.mk.inj heq
      obtain ⟨ws, t, rfl, hws, hjs, hd⟩ := separated_of_readSequence (f := json?) (R := Renders)
        (P := fun w => w.depth ≤ depth) (fun s y rest h => ih h) hread
      refine ⟨.array ws, '[' :: (t ++ [']']), by simp, ?_, by simp [json?, jsonItems?_eq_mapM, hjs],
        Nat.succ_le_succ (depthOfItems_le_iff.2 hd)⟩
      rcases hws with ⟨rfl, hb⟩ | hws
      · exact .emptyArray hb
      · exact .array hws
    · obtain ⟨⟨ms, rest'⟩, hread, heq⟩ := Option.map_eq_some_iff.1 h
      obtain ⟨rfl, rfl⟩ := Prod.mk.inj heq
      obtain ⟨ws, t, rfl, hws, hms, hd⟩ := separated_of_readSequence (f := jsonMember?)
        (R := MemberText Renders) (P := fun m => m.2.depth ≤ depth)
        (fun s y rest h => memberText_of_readMember (fun s j rest h => ih h) h) hread
      refine ⟨.object ws, '\x7b' :: (t ++ ['\x7d']), by simp, ?_,
        by simp [json?, jsonMembers?_eq_mapM, hms], Nat.succ_le_succ (depthOfMembers_le_iff.2 hd)⟩
      rcases hws with ⟨rfl, hb⟩ | hws
      · exact .emptyObject hb
      · exact .object hws
    · exact scalar h

/-! ## Whole texts -/

theorem delimited_of_blank {b : List Char} (hb : Blank b) : Delimited b := by
  have := hb.delimited_append (t := []) (fun _ _ h => nomatch h)
  rwa [List.append_nil] at this

/-- A text of a value with blanks around it is read as a reader reads the value, up to the end. -/
theorem readWhole?_renders {α : Type} {thing : List Char → Option (α × List Char)} {w : Written}
    {x : Option α} {b t b' : List Char} (hb : Blank b) (hw : Renders w t) (hb' : Blank b')
    (hread : thing (t ++ b') = x.map (·, b')) :
    readWhole? thing (String.ofList (b ++ (t ++ b'))) = x := by
  obtain ⟨c, r, rfl, hc, -⟩ := renders_starts hw
  have hskip : skipBlanks b' = [] := by
    have := skipBlanks_append hb' []
    rwa [List.append_nil] at this
  rw [readWhole?, String.toList_ofList, List.cons_append, skipBlanks_append_cons hb hc,
    ← List.cons_append, hread]
  cases x <;> simp [hskip]

/-- A whole text of a value is read as that value. -/
theorem read?_textOf {w : Written} {text : String} (h : TextOf w text)
    (hd : w.depth ≤ maxDepth) : read? text = w.json? := by
  cases h with
  | mk hb hw hb' =>
    exact readWhole?_renders hb hw hb' (readValue_renders hw hd (delimited_of_blank hb'))

/-- What is read is a whole text of a value. -/
theorem textOf_of_read? {text : String} {j : Json} (h : read? text = some j) :
    ∃ w, TextOf w text ∧ w.depth ≤ maxDepth ∧ w.json? = some j := by
  rw [read?, readWhole?] at h
  obtain ⟨b, hb, hs⟩ := exists_blank_append_skipBlanks text.toList
  cases hread : readValue maxDepth (skipBlanks text.toList) with
  | none => simp [hread] at h
  | some p =>
    obtain ⟨j', rest⟩ := p
    obtain ⟨w, t, ht, hw, hj, hd⟩ := renders_of_readValue hread
    obtain ⟨b', hb', hrest⟩ := exists_blank_append_skipBlanks rest
    simp only [hread] at h
    split at h
    · -- Nothing but blanks remains after the value.
      rename_i hempty
      rw [List.isEmpty_iff.1 hempty, List.append_nil] at hrest
      obtain rfl : j' = j := Option.some.inj h
      have htext : text = String.ofList (b ++ (t ++ b')) := by
        rw [← hrest, ← ht, ← hs, String.ofList_toList]
      exact ⟨w, htext ▸ .mk hb hw hb', hd, hj⟩
    · exact nomatch h

end TokenAtlas.Json
