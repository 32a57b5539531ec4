import Mathlib
import TokenAtlas.Atlas

/-!
# Listings

The listing of an atlas has a row for each map, in the order in which the maps are asked.  The first
column is as wide as the greatest name is in bytes, and names are padded by characters.  A character
takes at least one byte, so there is room for every name, and the columns after it begin at the same
place in all rows.

## Key results

- `Table.ncard_lookup?`: the number of entries counts every token once
- `nameWidth_le_iff`: the width of the first column
- `isRow_row`: what a row consists of
- `IsRow.kind_at`, `IsRow.count_at`: where its columns begin
- `listing_aligned`: the listing of an atlas whose names are not too long
-/

namespace TokenAtlas

/-! ## The number of entries -/

/-- A table counts every token that has an entry once. -/
theorem Table.ncard_lookup? {ε : Type} (t : Table ε) :
    {token | (t.lookup? token).isSome}.ncard = t.size := by
  have hset : {token | (t.lookup? token).isSome} = (t.tokens.toFinset : Set String) := by
    ext token
    simp [mem_tokens_iff, contains_eq_isSome]
  rw [hset, Set.ncard_coe_finset, List.toFinset_card_of_nodup t.nodup_tokens, length_tokens]

namespace TokenMap

/-- The number of tokens that a map has entries for.  A map of patterns has no entries. -/
noncomputable def entryCount : TokenMap → Nat
  | .patterns _ => 0
  | .characters t => {token | (t.lookup? token).isSome}.ncard
  | .macros t => {token | (t.lookup? token).isSome}.ncard

theorem size_eq_entryCount (m : TokenMap) : m.size = m.entryCount := by
  cases m with
  | patterns => rfl
  | characters t => exact t.ncard_lookup?.symm
  | macros t => exact t.ncard_lookup?.symm

/-- The last column of a row: the pattern of a map that has one. -/
def patternColumn : TokenMap → String
  | .patterns p => "  /" ++ p.source ++ "/"
  | .characters _ => ""
  | .macros _ => ""

end TokenMap

namespace Atlas

/-! ## Columns -/

/-- A number of spaces. -/
def spaces (n : Nat) : String := String.ofList (List.replicate n ' ')

@[simp] theorem length_spaces (n : Nat) : (spaces n).length = n := by
  unfold spaces
  rw [String.length_ofList, List.length_replicate]

/-- Padding keeps a text whole and fills it up with spaces. -/
theorem padRight_eq (width : Nat) (s : String) :
    padRight width s = s ++ spaces (width - s.length) := by
  unfold padRight spaces
  rw [String.ofList_append, String.ofList_toList]

/-- Whether a text stands in a row, with a number of characters before it. -/
def StandsAt (row : String) (column : Nat) (s : String) : Prop :=
  ∃ before after, row = before ++ s ++ after ∧ before.length = column

/-- Whether a text is the row of a map in a listing whose first column has a width. -/
def IsRow (w : Nat) (m : TokenMap) (row : String) : Prop :=
  ∃ p k, m.name.length + p = w ∧ m.kind.name.length + k = 9 ∧
    row = m.name ++ spaces p ++ "  " ++ m.kind.name ++ spaces k ++ "  " ++ m.entryCount.repr ++
      m.patternColumn ++ "\n"

theorem length_kindName_le (k : MapKind) : k.name.length ≤ 9 := by cases k <;> decide

/-- A map whose name has room has a row. -/
theorem isRow_row {w : Nat} {m : TokenMap} (h : m.name.length ≤ w) : IsRow w m (row w m) := by
  refine ⟨w - m.name.length, 9 - m.kind.name.length, by omega, ?_, ?_⟩
  · have hkind := length_kindName_le m.kind
    omega
  · unfold row
    rw [padRight_eq, padRight_eq, m.size_eq_entryCount]
    cases m with
    | patterns p =>
      have hend : "/\n" = "/" ++ "\n" := rfl
      simp only [TokenMap.patternColumn, hend, String.append_assoc]
    | characters t => simp only [TokenMap.patternColumn, String.append_assoc, String.empty_append]
    | macros t => simp only [TokenMap.patternColumn, String.append_assoc, String.empty_append]

/-- The kind of a map begins two columns after its name. -/
theorem IsRow.kind_at {w : Nat} {m : TokenMap} {row : String} (h : IsRow w m row) :
    StandsAt row (w + 2) m.kind.name := by
  obtain ⟨p, k, hw, -, rfl⟩ := h
  refine ⟨m.name ++ spaces p ++ "  ",
    spaces k ++ "  " ++ m.entryCount.repr ++ m.patternColumn ++ "\n", ?_, ?_⟩
  · simp only [String.append_assoc]
  · have htwo : "  ".length = 2 := rfl
    simp only [String.length_append, length_spaces]
    omega

/-- The number of entries begins eleven columns after the kind, whatever kind that is. -/
theorem IsRow.count_at {w : Nat} {m : TokenMap} {row : String} (h : IsRow w m row) :
    StandsAt row (w + 13) m.entryCount.repr := by
  obtain ⟨p, k, hw, hk, rfl⟩ := h
  refine ⟨m.name ++ spaces p ++ "  " ++ m.kind.name ++ spaces k ++ "  ",
    m.patternColumn ++ "\n", ?_, ?_⟩
  · simp only [String.append_assoc]
  · have htwo : "  ".length = 2 := rfl
    simp only [String.length_append, length_spaces]
    omega

/-! ## The width of the first column -/

/-- A character takes at least one byte. -/
theorem length_le_utf8ByteSize (s : String) : s.length ≤ s.utf8ByteSize := by
  rw [← String.utf8Len_toList, ← String.length_toList]
  induction s.toList with
  | nil => exact Nat.le_refl 0
  | cons c cs ih =>
    have hpos := c.utf8Size_pos
    rw [List.length_cons, String.utf8Len_cons]
    omega

theorem foldl_max_le_iff {xs : List Nat} {x n : Nat} :
    xs.foldl max x ≤ n ↔ x ≤ n ∧ ∀ y ∈ xs, y ≤ n := by
  induction xs generalizing x with
  | nil => simp
  | cons y xs ih => rw [List.foldl_cons, ih, Nat.max_le, List.forall_mem_cons, and_assoc]

/-- The first column is as wide as the greatest name is in bytes. -/
theorem nameWidth_le_iff {a : Atlas} {n : Nat} :
    a.nameWidth ≤ n ↔ ∀ name ∈ a.names, name.utf8ByteSize ≤ n := by
  unfold nameWidth
  rw [foldl_max_le_iff, List.forall_mem_map]
  exact and_iff_right (Nat.zero_le n)

/-- There is room for every name. -/
theorem length_le_nameWidth {a : Atlas} {name : String} (h : name ∈ a.names) :
    name.length ≤ a.nameWidth :=
  calc name.length ≤ name.utf8ByteSize := length_le_utf8ByteSize name
    _ ≤ a.nameWidth := nameWidth_le_iff.1 (Nat.le_refl _) name h

/-! ## Listings -/

/-- An atlas whose names have at most 65535 bytes each has a listing.  It consists of one row for
    each map, in their order, and there is one width of the first column for all of them: every row
    begins with the whole name of its map, filled up to that width with spaces, and the kind and the
    number of entries begin at the same places in all rows.  An atlas without maps has the empty
    listing. -/
theorem listing_aligned :
    (∀ a : Atlas, (∀ name ∈ a.names, name.utf8ByteSize ≤ 65535) →
      ∃ w rows, a.listing? = some (String.join rows) ∧
        (∀ name ∈ a.names, name.length ≤ w) ∧
        List.Forall₂ (fun m row => IsRow w m row ∧ StandsAt row (w + 2) m.kind.name ∧
          StandsAt row (w + 13) m.entryCount.repr) a.maps rows) ∧
    empty.listing? = some "" := by
  refine ⟨fun a h => ?_, rfl⟩
  refine ⟨a.nameWidth, a.maps.map (row a.nameWidth), ?_, fun _ => length_le_nameWidth, ?_⟩
  · exact if_pos (nameWidth_le_iff.2 h)
  · rw [List.forall₂_map_right_iff, List.forall₂_same]
    intro m hm
    have hrow := isRow_row (length_le_nameWidth (List.mem_map_of_mem hm))
    exact ⟨hrow, hrow.kind_at, hrow.count_at⟩

/-- The name of the first map has two characters and five bytes, and the kinds of both maps begin at
    the same place all the same. -/
theorem listing_aligned_multibyte :
    let a : Atlas := ⟨[.macros (Table.empty "é漢"), .patterns Recognizer.letter], by decide⟩
    (∀ name ∈ a.names, name.utf8ByteSize ≤ 65535) ∧
      ∃ w first second, a.listing? = some (first ++ second) ∧
        StandsAt first (w + 2) "macro" ∧ StandsAt second (w + 2) "pattern" ∧
        StandsAt second (w + 13) "0" := by
  intro a
  have h : ∀ name ∈ a.names, name.utf8ByteSize ≤ 65535 := by decide
  obtain ⟨w, rows, htext, -, hrows⟩ := listing_aligned.1 a h
  refine ⟨h, w, ?_⟩
  cases hrows with
  | cons hfirst hrest =>
    cases hrest with
    | cons hsecond hnil =>
      cases hnil
      exact ⟨_, _, by simpa [String.join_cons] using htext, hfirst.2.1, hsecond.2.1, hsecond.2.2⟩

example : listing ⟨[.macros (Table.empty "é漢"), .patterns Recognizer.letter], by decide⟩ =
    "é漢      macro      0\nletter  pattern    0  /[a-zA-Z]/\n" := by decide +kernel

end Atlas

end TokenAtlas
