/-!
# The order of texts and of their bytes

Texts are compared by their code points.  The bytes of their UTF-8 forms, compared as lists, give
the same order: of two characters the smaller one has the smaller first byte that differs.

## Key results

- `utf8EncodeChar_append_lt`: one character decides the order, whatever follows
- `bytes_lt_bytes_iff`, `bytes_le_bytes_iff`: the two orders of texts agree
-/

namespace TokenAtlas.Text

/-- The bytes of a text in UTF-8. -/
def bytes (s : String) : List UInt8 := s.toUTF8.data.toList

theorem bytes_eq_flatMap (s : String) : bytes s = s.toList.flatMap String.utf8EncodeChar := by
  have h : s.toByteArray = s.toList.utf8Encode := by
    rw [← String.toByteArray_ofList, String.ofList_toList]
  simp [bytes, h, List.utf8Encode]

/-! ## One character -/

private theorem cons_append_lt_cons_append_iff {a b : Nat} (ha : a < 256) (hb : b < 256)
    (u v : List UInt8) :
    UInt8.ofNat a :: u < UInt8.ofNat b :: v ↔ a < b ∨ a = b ∧ u < v := by
  rw [List.cons_lt_cons_iff, UInt8.lt_iff_toNat_lt, ← UInt8.toNat_inj, UInt8.toNat_ofNat_of_lt' ha,
    UInt8.toNat_ofNat_of_lt' hb]

/-- The smaller of two characters has the smaller form, whatever follows them. -/
theorem utf8EncodeChar_append_lt {c d : Char} (h : c < d) (u v : List UInt8) :
    String.utf8EncodeChar c ++ u < String.utf8EncodeChar d ++ v := by
  have hlt : c.val.toNat < d.val.toNat := h
  have hd : d.val.toNat < 0x110000 := by
    have := d.valid
    simp only [UInt32.isValidChar, Nat.isValidChar] at this
    omega
  generalize hm : c.val.toNat = m at hlt
  generalize hn : d.val.toNat = n at hlt hd
  -- The first of four digits in base 64 takes three bits.
  have top {k : Nat} (hk : k < 0x110000) : k / 262144 % 8 = k / 262144 := by omega
  have hmtop := top (Nat.lt_trans hlt hd)
  have hntop := top hd
  simp only [String.utf8EncodeChar, hm, hn]
  -- One case for each pair of lengths; the digits of the greater number in base 64 are the greater
  -- ones at the first place where they differ.
  repeat' split
  all_goals
    simp (disch := omega) only [List.cons_append, List.nil_append, cons_append_lt_cons_append_iff,
      hmtop, hntop]
    omega

/-! ## Texts -/

private theorem flatMap_lt_flatMap {xs ys : List Char} (h : xs < ys) :
    xs.flatMap String.utf8EncodeChar < ys.flatMap String.utf8EncodeChar := by
  induction xs generalizing ys with
  | nil =>
    cases ys with
    | nil => exact absurd h (List.lt_irrefl [])
    | cons d ys =>
      obtain ⟨b, bs, hbs⟩ := List.exists_cons_of_ne_nil (String.utf8EncodeChar_ne_nil (c := d))
      rw [List.flatMap_nil, List.flatMap_cons, hbs]
      exact List.nil_lt_cons b _
  | cons c xs ih =>
    cases ys with
    | nil => exact absurd h (List.not_lt_nil _)
    | cons d ys =>
      rw [List.flatMap_cons, List.flatMap_cons]
      -- The first characters that differ decide, whatever follows them.
      rcases List.cons_lt_cons_iff.1 h with hlt | ⟨rfl, hlt⟩
      · exact utf8EncodeChar_append_lt hlt _ _
      · exact List.append_left_lt (ih hlt)

/-- Texts are ordered as their bytes are. -/
theorem bytes_lt_bytes_iff {a b : String} : bytes a < bytes b ↔ a < b := by
  have mono {a b : String} (h : a < b) : bytes a < bytes b := by
    rw [bytes_eq_flatMap, bytes_eq_flatMap]
    exact flatMap_lt_flatMap h
  refine ⟨fun h => ?_, mono⟩
  by_cases hba : b < a
  · exact absurd (mono hba) (List.lt_asymm h)
  · by_cases heq : a = b
    · exact absurd (heq ▸ h) (List.lt_irrefl _)
    · exact Classical.byContradiction fun hab =>
        heq (String.le_antisymm (String.not_lt.1 hba) (String.not_lt.1 hab))

theorem bytes_le_bytes_iff {a b : String} : bytes a ≤ bytes b ↔ a ≤ b := by
  rw [← List.not_lt, bytes_lt_bytes_iff, String.not_lt]

end TokenAtlas.Text
