import TokenAtlas.Proofs.Yaml.Scanning
import TokenAtlas.Yaml.Resolve

/-!
# Words that need no quotes

A word of letters, digits and a few signs, none of which means anything to the reader of tokens, may
be written plain wherever a scalar may stand.  What such a word stands for is decided by the way it
is written.  A word that begins with a letter or a backslash is no number, so it stands for itself
unless it is one of the words for null and the truth values.

## Key results

- `IsBare.plainWord`: a bare word is a plain scalar before every text that bounds one
- `plainContent?_of_leads`: what a word stands for that does not begin as a number does
-/

namespace TokenAtlas.Yaml

open TokenReader

/-! ## Characters -/

/-- Letters and digits of ASCII and the signs that a bare word may have. -/
def isBareChar (c : Char) : Bool := c.isAlphanum || c ∈ ['.', '+', '-', '_', '\\']

variable {c : Char} {w rest : List Char}

theorem toNat_lt_of_bare (h : isBareChar c = true) : c.toNat < 128 := by
  simp only [isBareChar, Char.isAlphanum, Char.isAlpha, Char.isUpper, Char.isLower, Char.isDigit,
    Bool.or_eq_true, Bool.and_eq_true, decide_eq_true_eq, UInt32.le_iff_toNat_le, ge_iff_le] at h
  have hval : c.toNat = c.val.toNat := rfl
  have hZ : 'Z'.val.toNat = 90 := rfl
  have hz : 'z'.val.toNat = 122 := rfl
  have hnine : '9'.val.toNat = 57 := rfl
  rcases h with h | h
  · omega
  · fin_cases h <;> decide

/-- What holds of all bare characters of ASCII holds of all bare characters. -/
theorem forall_bare {P : Char → Prop} (hP : ∀ n < 128, isBareChar (Char.ofNat n) = true →
    P (Char.ofNat n)) (h : isBareChar c = true) : P c := by
  have hc := hP c.toNat (toNat_lt_of_bare h)
  rw [Char.ofNat_toNat] at hc
  exact hc h

theorem isPrintable_of_bare (h : isBareChar c = true) : IsPrintable c := by
  refine forall_bare (P := IsPrintable) ?_ h
  simp only [IsPrintable]
  decide

theorem isPlainChar_of_bare (h : isBareChar c = true) : isPlainChar c = true :=
  forall_bare (P := (isPlainChar · = true)) (by decide) h

theorem beginsPlain_of_bare (h : isBareChar c = true) (hhyphen : c ≠ '-') (flow : Bool)
    (rest : List Char) : beginsPlain flow c rest = true := by
  have hsigns : c ≠ '-' → c ≠ '?' ∧ c ≠ ':' ∧
      (isBlank c || isBreak c || c ∈ ",[]\x7b\x7d#&*!|>'\"%@\x60".toList) = false :=
    forall_bare (P := fun c => c ≠ '-' → c ≠ '?' ∧ c ≠ ':' ∧
      (isBlank c || isBreak c || c ∈ ",[]\x7b\x7d#&*!|>'\"%@\x60".toList) = false) (by decide) h
  obtain ⟨hquestion, hcolon, hother⟩ := hsigns hhyphen
  simp only [beginsPlain, beq_iff_eq, hhyphen, if_false, hother, Bool.or_self, Bool.not_false,
    beq_eq_false_iff_ne.2 hquestion, beq_eq_false_iff_ne.2 hcolon, Bool.false_eq_true]

theorem isAlpha_bare (h : c.isAlpha = true) : isBareChar c = true := by
  simp [isBareChar, Char.isAlphanum, h]

/-! ## Words -/

/-- A word of bare characters. -/
structure IsBare (w : List Char) : Prop where
  ne_nil : w ≠ []
  chars : ∀ c ∈ w, isBareChar c = true

namespace IsBare

theorem plainChars (h : IsBare w) : ∀ c ∈ w, isPlainChar c = true := fun c hc =>
  isPlainChar_of_bare (h.chars c hc)

theorem printable (h : IsBare w) : ∀ c ∈ w, IsPrintable c := fun c hc =>
  isPrintable_of_bare (h.chars c hc)

/-- A bare word begins a plain scalar, also where it begins with a hyphen, for no word ends right
    after that. -/
theorem begins (h : IsBare w) (flow : Bool) (hword : endsWord rest = false) :
    ∃ c t, w = c :: t ∧ beginsPlain flow c (t ++ rest) = true := by
  obtain ⟨c, t, rfl⟩ := List.exists_cons_of_ne_nil h.ne_nil
  obtain ⟨hc, ht⟩ := List.forall_mem_cons.1 h.chars
  refine ⟨c, t, rfl, ?_⟩
  by_cases hhyphen : c = '-'
  · have hinside : endsWord (t ++ rest) = false := by
      cases t with
      | nil => exact hword
      | cons x t =>
        have hx := isPlainChar_of_bare (ht x List.mem_cons_self)
        simp only [isPlainChar, Bool.and_eq_true, Bool.not_eq_true'] at hx
        simp [endsWord, hx]
    simp [beginsPlain, hhyphen, hinside]
  · exact beginsPlain_of_bare hc hhyphen flow _

theorem plainWord (h : IsBare w) (hb : Bounds rest) : PlainWord w rest :=
  ⟨h.plainChars, h.begins true hb.word, hb⟩

end IsBare

/-- A bare word that may stand at the start of a line: the signs for items and for the bounds of
    documents begin in another way. -/
structure IsLineWord (w : List Char) : Prop extends IsBare w where
  head : ∀ c ∈ w.head?, c ≠ '-' ∧ c ≠ '.'

theorem isLineWord_of_letters (hne : w ≠ []) (h : ∀ c ∈ w, c.isAlpha = true) : IsLineWord w where
  ne_nil := hne
  chars c hc := isAlpha_bare (h c hc)
  head c hc := by
    have halpha := h c (List.mem_of_mem_head? hc)
    constructor <;>
    · rintro rfl
      exact nomatch halpha

/-! ## What words stand for -/

/-- The words for the numbers that JSON lacks. -/
def nonFiniteWords : List String :=
  [".inf", ".Inf", ".INF", "+.inf", "+.Inf", "+.INF", "-.inf", "-.Inf", "-.INF",
    ".nan", ".NaN", ".NAN"]

/-- Whether a number may begin with a character. -/
def leadsNumber (c : Char) : Bool := c.isDigit || c ∈ ['.', '+', '-']

theorem digitIn?_of_not_digit (h : c.isDigit = false) : digitIn? 10 c = none := by
  have hnot : ¬ ('0' ≤ c ∧ c ≤ '9') := by
    simpa [Char.isDigit, Char.le_def, ge_iff_le] using h
  rw [digitIn?, Text.hexDigit?, if_neg hnot]
  split
  · simp
  · split <;> simp

theorem readInt?_of_leads (h : leadsNumber c = false) (t : List Char) :
    readInt? (c :: t) = none := by
  simp only [leadsNumber, Bool.or_eq_false_iff, decide_eq_false_iff_not, List.mem_cons,
    List.not_mem_nil, or_false, not_or] at h
  obtain ⟨hdigit, -, hplus, hminus⟩ := h
  have hzero : c ≠ '0' := by
    rintro rfl
    exact nomatch hdigit
  have hbase : basePart (c :: t) = (10, c :: t) := by
    unfold basePart
    split <;> simp_all
  have hdigits : readDigits? 10 (c :: t) = none := by
    rw [readDigits?, List.isEmpty_cons, if_neg Bool.false_ne_true, readDigits?.go,
      digitIn?_of_not_digit hdigit]
  unfold readInt?
  split
  · rfl
  · split <;> simp_all

theorem decimal_read?_of_leads (h : leadsNumber c = false) (t : List Char) :
    Decimal.read? (c :: t) = none := by
  simp only [leadsNumber, Bool.or_eq_false_iff, decide_eq_false_iff_not, List.mem_cons,
    List.not_mem_nil, or_false, not_or] at h
  obtain ⟨hdigit, hpoint, hplus, hminus⟩ := h
  have hunsigned : Decimal.readUnsigned? (c :: t) = none := by
    simp [Decimal.readUnsigned?, hdigit, hpoint]
  unfold Decimal.read?
  split <;> simp_all

theorem readFloat?_of_leads (h : leadsNumber c = false) (t : List Char) :
    readFloat? (String.ofList (c :: t)) = none := by
  have hleads : ∀ s ∈ nonFiniteWords, ∀ x ∈ s.toList.head?, leadsNumber x = true := by
    simp [nonFiniteWords, leadsNumber]
  have hwords : ∀ s ∈ nonFiniteWords, String.ofList (c :: t) ≠ s := by
    rintro s hs rfl
    have hc := hleads _ hs c (by simp)
    exact nomatch h.symm.trans hc
  simp only [nonFiniteWords, List.forall_mem_cons] at hwords
  unfold readFloat?
  split <;> simp_all [decimal_read?_of_leads h t]

/-- A word that does not begin as a number does stands for itself, unless it is one of the words for
    null and the truth values. -/
theorem plainContent?_of_leads {s : String} (hs : s.toList = c :: w) (h : leadsNumber c = false)
    (hspecial : s ∉ ["~", "null", "Null", "NULL", "true", "True", "TRUE", "false", "False",
      "FALSE"]) : plainContent? s = some (.text s) := by
  simp only [List.mem_cons, List.not_mem_nil, or_false, not_or] at hspecial
  have hnull : isNull s = false := by simp [isNull, hspecial]
  have hbool : readBool? s = none := by simp [readBool?, hspecial]
  obtain rfl : s = String.ofList (c :: w) := by rw [← hs, String.ofList_toList]
  have hempty : (String.ofList (c :: w)).isEmpty = false := by simp
  have hwhole : wholeNumber (c :: w) = .other := by
    rw [wholeNumber, readInt?_of_leads h]
  simp only [plainContent?, hempty, hnull, hbool, String.toList_ofList, hwhole, Bool.or_self,
    Bool.false_eq_true, if_false, readFloat?_of_leads h, ite_self]

end TokenAtlas.Yaml
