import Mathlib.Data.List.Forall2
import TokenAtlas.Json.Printer
import TokenAtlas.Proofs.Json.Values

/-!
# What is printed is read back

The printer writes texts of the grammar: strings in which only what must be escaped is escaped,
integers without superfluous zeros, and no blanks.  So a value without floating-point numbers is
read back from its text as it is, with its members in their order.

## Key results

- `spells_renderString`: a string is spelt as it is printed
- `renders_array`, `renders_object`: texts of arrays and objects are made of those of their parts
- `exists_renders`: the text of a value is a text of the grammar
- `read?_render`: a value is read back from its text
-/

namespace TokenAtlas.Json

open Written

/-! ## Values that have a text of their own -/

mutual

/-- Whether every number is an integer of at most 64 bits, with or without a sign. -/
def Integral : Json → Prop
  | .number (.int n) => -2 ^ 63 ≤ n ∧ n ≤ 2 ^ 64 - 1
  | .number (.float _) => False
  | .array items => IntegralItems items
  | .object members => IntegralMembers members
  | _ => True

/-- Whether the same holds of all items of an array. -/
def IntegralItems : List Json → Prop
  | [] => True
  | j :: rest => Integral j ∧ IntegralItems rest

/-- Whether the same holds of all values of an object. -/
def IntegralMembers : List (String × Json) → Prop
  | [] => True
  | (_, j) :: rest => Integral j ∧ IntegralMembers rest

end

mutual

/-- How deep arrays and objects nest. -/
def nesting : Json → Nat
  | .array items => nestingOfItems items + 1
  | .object members => nestingOfMembers members + 1
  | _ => 0

/-- How deep the items of an array nest. -/
def nestingOfItems : List Json → Nat
  | [] => 0
  | j :: rest => max j.nesting (nestingOfItems rest)

/-- How deep the values of an object nest. -/
def nestingOfMembers : List (String × Json) → Nat
  | [] => 0
  | (_, j) :: rest => max j.nesting (nestingOfMembers rest)

end

theorem integralItems_iff {items : List Json} :
    IntegralItems items ↔ ∀ j ∈ items, j.Integral := by
  induction items with
  | nil => simp [IntegralItems]
  | cons j rest ih => simp [IntegralItems, ih]

theorem integralMembers_iff {members : List (String × Json)} :
    IntegralMembers members ↔ ∀ m ∈ members, m.2.Integral := by
  induction members with
  | nil => simp [IntegralMembers]
  | cons m rest ih => simp [IntegralMembers, ih]

theorem nestingOfItems_le_iff {items : List Json} {d : Nat} :
    nestingOfItems items ≤ d ↔ ∀ j ∈ items, j.nesting ≤ d := by
  induction items with
  | nil => simp [nestingOfItems]
  | cons j rest ih => rw [nestingOfItems, Nat.max_le, ih, List.forall_mem_cons]

theorem nestingOfMembers_le_iff {members : List (String × Json)} {d : Nat} :
    nestingOfMembers members ≤ d ↔ ∀ m ∈ members, m.2.nesting ≤ d := by
  induction members with
  | nil => simp [nestingOfMembers]
  | cons m rest ih => rw [nestingOfMembers, Nat.max_le, ih, List.forall_mem_cons]

/-! ## Strings -/

/-- A hexadecimal digit is printed as one. -/
theorem hexDigit_hexChar (n : Nat) : HexDigit (hexChar n) (n % 16) := by
  have hletters : ∀ d < 6, (Nat.digitChar (10 + d)).toNat = 97 + d := by decide
  rw [hexChar]
  have hlt : n % 16 < 16 := Nat.mod_lt n (by decide)
  generalize n % 16 = d at hlt
  by_cases hdecimal : d < 10
  · exact .decimal hdecimal (toNat_digitChar (Nat.le_of_lt_succ hdecimal))
  · obtain ⟨d, rfl⟩ := Nat.exists_eq_add_of_le (Nat.le_of_not_lt hdecimal)
    have hd : d < 6 := by omega
    exact .lower hd (hletters d hd)

/-- A control character is printed as a code unit. -/
theorem codeUnit_hexChar {c : Char} (hc : c < ' ') :
    CodeUnit ['0', '0', hexChar (c.toNat / 16), hexChar c.toNat] c.toNat := by
  have hlt : c.toNat < 32 := hc
  have hzero : HexDigit '0' 0 := .decimal (by decide) rfl
  have hunit := CodeUnit.mk hzero hzero (hexDigit_hexChar (c.toNat / 16)) (hexDigit_hexChar c.toNat)
  have hvalue : ((0 * 16 + 0) * 16 + c.toNat / 16 % 16) * 16 + c.toNat % 16 = c.toNat := by omega
  rwa [hvalue] at hunit

/-- A character is spelt as it is printed. -/
theorem spells_escapeChar {c : Char} {cs t : List Char} (ht : Spells cs t) :
    Spells (c :: cs) (escapeChar c ++ t) := by
  unfold escapeChar
  -- One case for each short escape, then the control characters and the others.
  split
  · exact .short (by decide) ht
  · exact .short (by decide) ht
  · exact .short (by decide) ht
  · exact .short (by decide) ht
  · exact .short (by decide) ht
  · exact .short (by decide) ht
  · exact .short (by decide) ht
  · rename_i hquote hbackslash _ _ _ _ _
    split
    · rename_i hcontrol
      exact .unit (codeUnit_hexChar hcontrol) ht
    · rename_i hplain
      have hle : 0x20 ≤ c.toNat := Nat.le_of_not_lt hplain
      exact .plain hle hquote hbackslash ht

/-- A string is spelt as it is printed. -/
theorem spells_renderString (s : List Char) : Spells s (s.flatMap escapeChar) := by
  induction s with
  | nil => exact .nil
  | cons c s ih => exact spells_escapeChar ih

/-! ## Integers -/

/-- A number is printed without superfluous zeros. -/
theorem exists_digits {n : Nat} (hn : 0 < n) :
    ∃ d ds, d ≠ 0 ∧ Digits (d :: ds) ∧ Nat.toDigits 10 n = digitsText (d :: ds) ∧
      ofDigits (d :: ds) = n := by
  induction n using Nat.strongRecOn with
  | ind n ih =>
    by_cases hlt : n < 10
    · refine ⟨n, [], Nat.ne_of_gt hn, ⟨by simp, by simpa using Nat.le_of_lt_succ hlt⟩, ?_, ?_⟩
      · rw [Nat.toDigits_of_lt_base hlt]
        rfl
      · simp [ofDigits]
    · -- The last digit stands after those of a tenth.
      have htenth : 0 < n / 10 := Nat.div_pos (Nat.le_of_not_lt hlt) (by decide)
      obtain ⟨d, ds, hd, ⟨-, hds⟩, htext, hvalue⟩ :=
        ih (n / 10) (Nat.div_lt_self hn (by decide)) htenth
      refine ⟨d, ds ++ [n % 10], hd, ⟨by simp, fun x hx => ?_⟩, ?_, ?_⟩
      · rw [← List.cons_append, List.mem_append, List.mem_singleton] at hx
        rcases hx with hx | rfl
        · exact hds x hx
        · exact Nat.le_of_lt_succ (Nat.mod_lt n (by decide))
      · rw [Nat.toDigits_of_base_le (by decide) (Nat.le_of_not_lt hlt), htext]
        simp [digitsText]
      · rw [← List.cons_append, ofDigits, List.foldl_append, ← ofDigits, hvalue]
        simp only [List.foldl_cons, List.foldl_nil]
        omega

theorem exists_wholeText (n : Nat) :
    ∃ ds, WholeText ds (Nat.toDigits 10 n) ∧ ofDigits ds = n := by
  rcases Nat.eq_zero_or_pos n with rfl | hn
  · exact ⟨[0], .zero, rfl⟩
  · obtain ⟨d, ds, hd, hds, htext, hvalue⟩ := exists_digits hn
    exact ⟨d :: ds, htext ▸ .digits hd hds, hvalue⟩

/-- An integer is printed as a numeral that is one. -/
theorem exists_numeralText (n : Int) :
    ∃ m : Numeral, NumeralText m (renderInt n) ∧ m.IsInteger ∧ m.toInt = n := by
  obtain ⟨ds, htext, hvalue⟩ := exists_wholeText n.natAbs
  have hnumeral (negative : Bool) : NumeralText ⟨negative, ds, none, none⟩
      (signText negative ++ (Nat.toDigits 10 n.natAbs ++ ([] ++ []))) := .mk htext .absent .absent
  -- The digits are those of the absolute value; only the sign differs.
  by_cases hneg : n < 0
  · refine ⟨⟨true, ds, none, none⟩, ?_, ⟨rfl, rfl, fun _ => ?_⟩, ?_⟩
    · rw [renderInt, if_pos hneg]
      simpa [signText] using hnumeral true
    · simp only [hvalue]
      omega
    · simp only [Numeral.toInt, hvalue, if_true]
      omega
  · refine ⟨⟨false, ds, none, none⟩, ?_, ⟨rfl, rfl, fun h => absurd h Bool.false_ne_true⟩, ?_⟩
    · rw [renderInt, if_neg hneg]
      simpa [signText] using hnumeral false
    · simp only [Numeral.toInt, hvalue, Bool.false_eq_true, if_false]
      omega

/-! ## Values -/

/-- A member is printed without blanks. -/
private theorem memberText_render {name : String} {w : Written} {t : List Char}
    (h : Renders w t) : MemberText Renders (name, w) (renderString name ++ ':' :: t) := by
  have hmember : MemberText Renders (name, w) _ :=
    .mk (spells_renderString name.toList) blank_nil blank_nil h
  simpa [renderString] using hmember

private theorem separated_one {α : Type} {R : α → List Char → Prop} {x : α} {t : List Char}
    (hx : R x t) : Separated R [x] t := by
  simpa using Separated.one blank_nil hx blank_nil

private theorem separated_cons {α : Type} {R : α → List Char → Prop} {x : α} {xs : List α}
    {t r : List Char} (hx : R x t) (hr : Separated R xs r) :
    Separated R (x :: xs) (t ++ ',' :: r) := by
  simpa using Separated.cons blank_nil hx blank_nil hr

/-- Whether a written member has the name of a member and the text of its value. -/
def RendersMember (w : String × Written) (m : String × Json) : Prop :=
  w.1 = m.1 ∧ Renders w.2 (renderChars m.2)

/-- Items are printed with commas between them. -/
theorem separated_renderItems {ws : List Written} {items : List Json}
    (h : List.Forall₂ (fun w j => Renders w (renderChars j)) ws items) (hne : items ≠ []) :
    Separated Renders ws (renderItems items) := by
  induction h with
  | nil => exact absurd rfl hne
  | @cons w j ws rest hw hrest ih =>
    cases hrest with
    | nil => exact separated_one hw
    | cons => exact separated_cons hw (ih (List.cons_ne_nil _ _))

/-- Members are printed with commas between them. -/
theorem separated_renderMembers {ws : List (String × Written)} {members : List (String × Json)}
    (h : List.Forall₂ RendersMember ws members) (hne : members ≠ []) :
    Separated (MemberText Renders) ws (renderMembers members) := by
  induction h with
  | nil => exact absurd rfl hne
  | @cons w m ws rest hw hrest ih =>
    obtain ⟨name, w⟩ := w
    obtain ⟨name', j⟩ := m
    obtain ⟨rfl, hw⟩ : name = name' ∧ Renders w (renderChars j) := hw
    have hmember : MemberText Renders (name, w) _ := memberText_render hw
    cases hrest with
    | nil => exact separated_one hmember
    | cons =>
      have hsep := separated_cons hmember (ih (List.cons_ne_nil _ _))
      simpa [renderMembers] using hsep

/-- The text of an array is made of those of its items. -/
theorem renders_array {ws : List Written} {items : List Json}
    (h : List.Forall₂ (fun w j => Renders w (renderChars j)) ws items) :
    Renders (.array ws) (renderChars (.array items)) := by
  by_cases hne : items = []
  · subst hne
    cases h
    exact .emptyArray blank_nil
  · exact .array (separated_renderItems h hne)

/-- The text of an object is made of those of its members. -/
theorem renders_object {ws : List (String × Written)} {members : List (String × Json)}
    (h : List.Forall₂ RendersMember ws members) :
    Renders (.object ws) (renderChars (.object members)) := by
  by_cases hne : members = []
  · subst hne
    cases h
    exact .emptyObject blank_nil
  · exact .object (separated_renderMembers h hne)

/-- A value is printed without blanks around it. -/
theorem textOf_render {w : Written} {j : Json} (h : Renders w (renderChars j)) :
    TextOf w (render j) := by
  simpa [render] using TextOf.mk blank_nil h blank_nil

mutual

/-- The text of a value is a text of the grammar, from which the value is read. -/
theorem exists_renders {j : Json} (h : j.Integral) :
    ∃ w, Renders w (renderChars j) ∧ w.json? = some j ∧ w.depth = j.nesting := by
  cases j with
  | null => exact ⟨.null, .null, rfl, rfl⟩
  | bool b => cases b with
    | true => exact ⟨.bool true, .true, rfl, rfl⟩
    | false => exact ⟨.bool false, .false, rfl, rfl⟩
  | number n => cases n with
    | int n =>
      obtain ⟨m, htext, hm, rfl⟩ := exists_numeralText n
      refine ⟨.numeral m, .numeral htext, ?_, rfl⟩
      rw [json?, Numeral.value?_of_integer hm h.1 h.2]
      rfl
    | float x => exact h.elim
  | string s => exact ⟨.string s, .string (spells_renderString s.toList), rfl, rfl⟩
  | array items =>
    obtain ⟨ws, hws, hjson, hdepth⟩ := exists_renders_items h
    exact ⟨.array ws, renders_array hws, by simp only [json?, hjson, Option.map_some],
      congrArg (· + 1) hdepth⟩
  | object members =>
    obtain ⟨ws, hws, hjson, hdepth⟩ := exists_renders_members h
    exact ⟨.object ws, renders_object hws, by simp only [json?, hjson, Option.map_some],
      congrArg (· + 1) hdepth⟩

theorem exists_renders_items {items : List Json} (h : IntegralItems items) :
    ∃ ws, List.Forall₂ (fun w j => Renders w (renderChars j)) ws items ∧
      jsonItems? ws = some items ∧ depthOfItems ws = nestingOfItems items := by
  cases items with
  | nil => exact ⟨[], .nil, rfl, rfl⟩
  | cons j rest =>
    obtain ⟨w, hw, hj, hd⟩ := exists_renders h.1
    obtain ⟨ws, hws, hjson, hdepth⟩ := exists_renders_items h.2
    refine ⟨w :: ws, .cons hw hws, by simp [jsonItems?, hj, hjson], ?_⟩
    rw [depthOfItems, hd, hdepth, nestingOfItems]

theorem exists_renders_members {members : List (String × Json)} (h : IntegralMembers members) :
    ∃ ws, List.Forall₂ RendersMember ws members ∧
      jsonMembers? ws = some members ∧ depthOfMembers ws = nestingOfMembers members := by
  cases members with
  | nil => exact ⟨[], .nil, rfl, rfl⟩
  | cons m rest =>
    obtain ⟨name, j⟩ := m
    obtain ⟨w, hw, hj, hd⟩ := exists_renders h.1
    obtain ⟨ws, hws, hjson, hdepth⟩ := exists_renders_members h.2
    refine ⟨(name, w) :: ws, .cons ⟨rfl, hw⟩ hws, by simp [jsonMembers?, hj, hjson], ?_⟩
    rw [depthOfMembers, hd, hdepth, nestingOfMembers]

end

/-- A value is read back from its text. -/
theorem read?_render {j : Json} (h : j.Integral) (hd : j.nesting ≤ maxDepth) :
    read? (render j) = some j := by
  obtain ⟨w, hw, hj, hdepth⟩ := exists_renders h
  rw [read?_textOf (textOf_render hw) (hdepth ▸ hd), hj]

end TokenAtlas.Json
