import TokenAtlas.Pattern.Meaning
import TokenAtlas.Pattern.Search

/-!
# The search finds what a pattern means

`Pattern.step` computes with sets of positions what `Pattern.Spans` says of single spans: the set
that it gives holds exactly the ends of the spans that begin in the set that it is given.

A repetition is where this needs an argument.  Spans go from left to right, so where a number of
spans in a row leads, no more of them are needed than characters lie in between, once the empty ones
are left out (`Repeats.shorten`).  That is why growing a set once for every position is enough, and
why empty bodies do no harm.

## Key results

- `follows_iterate`, `follows_grow`: counted steps and growing steps follow spans in a row
- `follows_step`: a step follows the spans of its pattern
- `occursIn_iff`: a pattern occurs in a text just when it matches a span of it
-/

namespace TokenAtlas.Pattern

/-- Whether the counts of all repetitions admit some number. -/
def WellFormed : Pattern → Prop
  | .empty | .char _ | .set _ | .anchor _ => True
  | .seq p q | .alt p q => p.WellFormed ∧ q.WellFormed
  | .repetition p min max => p.WellFormed ∧ ∀ m, max = some m → min ≤ m
  | .group p => p.WellFormed

/-! ## Spans go from left to right -/

section

variable {t : List Char}

mutual

theorem Spans.le {p : Pattern} {i j : Nat} : Spans t p i j → i ≤ j ∧ j ≤ t.length
  | .empty h => ⟨Nat.le_refl _, h⟩
  | .char h => ⟨Nat.le_succ _, (List.getElem?_eq_some_iff.1 h).1⟩
  | .set h _ => ⟨Nat.le_succ _, (List.getElem?_eq_some_iff.1 h).1⟩
  | .anchor h _ => ⟨Nat.le_refl _, h⟩
  | .seq hp hq => ⟨Nat.le_trans hp.le.1 hq.le.1, hq.le.2⟩
  | .altLeft h => h.le
  | .altRight h => h.le
  | .repetition _ _ h => h.le
  | .group h => h.le

theorem Repeats.le {p : Pattern} {n i j : Nat} : Repeats t p n i j → i ≤ j ∧ j ≤ t.length
  | .zero h => ⟨Nat.le_refl _, h⟩
  | .succ hp hr => ⟨Nat.le_trans hp.le.1 hr.le.1, hr.le.2⟩

end

/-! ## Spans in a row -/

variable {p : Pattern}

theorem repeats_zero_iff {i j : Nat} : Repeats t p 0 i j ↔ i = j ∧ j ≤ t.length := by
  constructor
  · intro h
    cases h with
    | zero h => exact ⟨rfl, h⟩
  · rintro ⟨rfl, h⟩
    exact .zero h

theorem repeats_succ_iff {n i k : Nat} :
    Repeats t p (n + 1) i k ↔ ∃ j, Spans t p i j ∧ Repeats t p n j k := by
  constructor
  · intro h
    cases h with
    | succ hp hr => exact ⟨_, hp, hr⟩
  · rintro ⟨j, hp, hr⟩
    exact .succ hp hr

/-- Spans in a row can be cut after any of them. -/
theorem repeats_add_iff {m n i k : Nat} :
    Repeats t p (m + n) i k ↔ ∃ j, Repeats t p m i j ∧ Repeats t p n j k := by
  -- The spans after the cut stay as they are; those before it are taken off from the left.
  induction m generalizing i with
  | zero =>
    simp only [Nat.zero_add, repeats_zero_iff]
    constructor
    · exact fun h => ⟨i, ⟨rfl, Nat.le_trans h.le.1 h.le.2⟩, h⟩
    · rintro ⟨j, ⟨rfl, -⟩, h⟩
      exact h
  | succ m ih =>
    rw [Nat.add_right_comm]
    simp only [repeats_succ_iff, ih]
    constructor
    · rintro ⟨x, hx, j, hm, hn⟩
      exact ⟨j, ⟨x, hx, hm⟩, hn⟩
    · rintro ⟨j, ⟨x, hx, hm⟩, hn⟩
      exact ⟨x, hx, j, hm, hn⟩

/-- Empty spans in a row can be left out, and then there are no more spans than characters. -/
theorem Repeats.shorten {n i j : Nat} (h : Repeats t p n i j) :
    ∃ m, m ≤ n ∧ m ≤ j - i ∧ Repeats t p m i j := by
  induction n generalizing i with
  | zero => exact ⟨0, Nat.le_refl 0, Nat.zero_le _, h⟩
  | succ n ih =>
    obtain ⟨k, hp, hr⟩ := repeats_succ_iff.1 h
    obtain ⟨m, hmn, hm, hr'⟩ := ih hr
    have hik : i ≤ k := hp.le.1
    have hkj : k ≤ j := hr.le.1
    by_cases hempty : i = k
    · -- The first span is empty and is left out.
      subst hempty
      exact ⟨m, Nat.le_succ_of_le hmn, hm, hr'⟩
    · exact ⟨m + 1, Nat.succ_le_succ hmn, by omega, .succ hp hr'⟩

end

/-! ## Sets of positions -/

/-- A set that holds only positions of a text. -/
def Within (t : List Char) (s : Nat) : Prop := ∀ i, s.testBit i = true → i ≤ t.length

/-- The positions where a condition on the characters around them holds. -/
private theorem testBit_positions_after {holds : Option Char → Option Char → Bool} {t : List Char}
    {before : Option Char} {i : Nat} :
    (positions holds before t).testBit i = true ↔
      i ≤ t.length ∧ holds (if i = 0 then before else t[i - 1]?) t[i]? = true := by
  induction t generalizing before i with
  | nil =>
    cases i with
    | zero => cases h : holds before none <;> simp [positions, h]
    | succ i => cases h : holds before none <;> simp [positions, h, Nat.testBit_succ]
  | cons c rest ih =>
    cases i with
    | zero => cases h : holds before (some c) <;> simp [positions, h, Nat.testBit_zero]
    | succ i =>
      -- The lowest bit is for the first position; the others are those of the rest of the text.
      have hhalf : positions holds before (c :: rest) / 2 = positions holds (some c) rest := by
        cases h : holds before (some c) <;> simp [positions, h]; omega
      rw [Nat.testBit_succ, hhalf, ih]
      cases i with
      | zero => simp
      | succ i => simp

/-- A condition is looked up between the character before a position and the one after it. -/
theorem testBit_positions {holds : Option Char → Option Char → Bool} {t : List Char} {i : Nat} :
    (positions holds none t).testBit i = true ↔
      i ≤ t.length ∧ holds (charBefore t i) t[i]? = true := by
  rw [testBit_positions_after]
  cases i with
  | zero => rfl
  | succ i => rfl

/-- An advance leads to the positions after the characters of a class. -/
theorem testBit_advance {t : List Char} {contains : Char → Bool} {s j : Nat} :
    (advance t contains s).testBit j = true ↔
      ∃ i, s.testBit i = true ∧ j = i + 1 ∧ ∃ c, t[i]? = some c ∧ contains c = true := by
  -- An advance doubles the set, so nothing leads to the first position.
  cases j with
  | zero => simp [advance, Nat.testBit_zero]
  | succ j =>
    rw [advance, Nat.testBit_succ, Nat.mul_div_cancel_left _ Nat.two_pos, Nat.testBit_and,
      Bool.and_eq_true, testBit_positions, Option.any_eq_true]
    constructor
    · rintro ⟨hs, -, c, hc, hcontains⟩
      exact ⟨j, hs, rfl, c, hc, hcontains⟩
    · rintro ⟨i, hs, hij, c, hc, hcontains⟩
      obtain rfl : j = i := Nat.succ.inj hij
      obtain ⟨hlt, -⟩ := List.getElem?_eq_some_iff.1 hc
      exact ⟨hs, Nat.le_of_lt hlt, c, hc, hcontains⟩

/-- All positions of a text are in the set of all its positions, and nothing else is. -/
theorem testBit_allPositions {t : List Char} {i : Nat} :
    (allPositions t).testBit i = true ↔ i ≤ t.length := by
  rw [allPositions, Nat.pow_eq, Nat.testBit_two_pow_sub_one, decide_eq_true_eq, Nat.lt_succ_iff]

/-! ## Functions that follow a relation -/

/-- A function on sets leads from a set to just the positions that a relation leads to. -/
def Follows (t : List Char) (f : Nat → Nat) (R : Nat → Nat → Prop) : Prop :=
  ∀ s, Within t s → ∀ j, (f s).testBit j = true ↔ ∃ i, s.testBit i = true ∧ R i j

section

variable {t : List Char} {p : Pattern} {f g : Nat → Nat} {R S : Nat → Nat → Prop}

theorem Follows.within (hf : Follows t f R) (hR : ∀ i j, R i j → j ≤ t.length) {s : Nat}
    (hs : Within t s) : Within t (f s) := by
  intro j hj
  obtain ⟨i, -, hij⟩ := (hf s hs j).1 hj
  exact hR i j hij

/-- One function after the other follows one relation after the other. -/
theorem Follows.comp (hf : Follows t f R) (hg : Follows t g S) (hR : ∀ i j, R i j → j ≤ t.length) :
    Follows t (fun s => g (f s)) (fun i k => ∃ j, R i j ∧ S j k) := by
  intro s hs k
  rw [hg (f s) (hf.within hR hs) k]
  simp only [hf s hs]
  constructor
  · rintro ⟨j, ⟨i, hi, hR⟩, hS⟩
    exact ⟨i, hi, j, hR, hS⟩
  · rintro ⟨i, hi, j, hR, hS⟩
    exact ⟨j, ⟨i, hi, hR⟩, hS⟩

theorem Follows.congr (hf : Follows t f R) (h : ∀ i j, R i j ↔ S i j) : Follows t f S := by
  intro s hs j
  rw [hf s hs j]
  simp only [h]

private theorem iterate_of_fixed {n s : Nat} (h : f s = s) : iterate f n s = s := by
  cases n with
  | zero => rfl
  | succ n => simp [iterate, h]

/-- Stopping at a set that a step leaves alone changes nothing. -/
theorem iterate_succ {n s : Nat} : iterate f (n + 1) s = iterate f n (f s) := by
  by_cases h : f s = s
  · simp only [iterate, h, if_true, iterate_of_fixed h]
  · simp only [iterate, h, if_false]

private theorem grow_of_fixed {n s : Nat} (h : s ||| f s = s) : grow f n s = s := by
  cases n with
  | zero => rfl
  | succ n => simp [grow, h]

/-- Stopping at a set that grows no more changes nothing. -/
theorem grow_succ {n s : Nat} : grow f (n + 1) s = grow f n (s ||| f s) := by
  by_cases h : s ||| f s = s
  · simp only [grow, h, if_true, grow_of_fixed h]
  · simp only [grow, h, if_false]

/-- Counted steps follow that many spans in a row. -/
theorem follows_iterate (hf : Follows t f (Spans t p)) (n : Nat) :
    Follows t (iterate f n) (Repeats t p n) := by
  induction n with
  | zero =>
    intro s hs j
    simp only [iterate, repeats_zero_iff]
    constructor
    · exact fun hj => ⟨j, hj, rfl, hs j hj⟩
    · rintro ⟨i, hi, rfl, -⟩
      exact hi
  | succ n ih =>
    intro s hs j
    rw [iterate_succ]
    exact ((hf.comp ih fun _ _ h => h.le.2).congr fun _ _ => repeats_succ_iff.symm) s hs j

/-- Growing steps follow up to that many spans in a row. -/
theorem follows_grow (hf : Follows t f (Spans t p)) (n : Nat) :
    Follows t (grow f n) (fun i j => ∃ m, m ≤ n ∧ Repeats t p m i j) := by
  induction n with
  | zero =>
    intro s hs j
    simp only [grow, Nat.le_zero_eq, exists_eq_left, repeats_zero_iff]
    constructor
    · exact fun hj => ⟨j, hj, rfl, hs j hj⟩
    · rintro ⟨i, hi, rfl, -⟩
      exact hi
  | succ n ih =>
    intro s hs j
    have hgrown : Within t (s ||| f s) := by
      intro i hi
      rw [Nat.testBit_or, Bool.or_eq_true] at hi
      exact hi.elim (hs i) (hf.within (fun _ _ h => h.le.2) hs i)
    rw [grow_succ, ih _ hgrown j]
    simp only [Nat.testBit_or, Bool.or_eq_true, hf s hs]
    constructor
    · rintro ⟨k, hk | ⟨i, hi, hp⟩, m, hm, hr⟩
      · exact ⟨k, hk, m, Nat.le_succ_of_le hm, hr⟩
      · exact ⟨i, hi, m + 1, Nat.succ_le_succ hm, .succ hp hr⟩
    · rintro ⟨i, hi, m, hm, hr⟩
      -- Where no span is taken the position was there before, else the first span leads to it.
      cases m with
      | zero => exact ⟨i, .inl hi, 0, Nat.zero_le n, hr⟩
      | succ m =>
        obtain ⟨k, hp, hr⟩ := repeats_succ_iff.1 hr
        exact ⟨k, .inr ⟨i, hi, hp⟩, m, Nat.le_of_succ_le_succ hm, hr⟩

end

/-! ## Steps follow spans -/

section

variable {t : List Char} {p : Pattern} {min i j : Nat}

/-- A repetition without a limit needs no more further spans than the text has characters. -/
private theorem spans_unlimited_iff :
    Spans t (.repetition p min none) i j ↔
      ∃ k, Repeats t p min i k ∧ ∃ m, m ≤ t.length + 1 ∧ Repeats t p m k j := by
  constructor
  · intro h
    cases h with
    | @repetition _ _ n _ _ _ hmin _ hr =>
      -- The spans are cut after the first `min`, and only the others are shortened.
      obtain ⟨d, rfl⟩ := Nat.exists_eq_add_of_le hmin
      obtain ⟨k, hfirst, hrest⟩ := repeats_add_iff.1 hr
      obtain ⟨m, -, hm, hshort⟩ := hrest.shorten
      have hlen : j ≤ t.length := hshort.le.2
      exact ⟨k, hfirst, m, by omega, hshort⟩
  · rintro ⟨k, hfirst, m, -, hrest⟩
    exact .repetition (Nat.le_add_right min m) (by simp) (repeats_add_iff.2 ⟨k, hfirst, hrest⟩)

private theorem spans_limited_iff {max : Nat} (hle : min ≤ max) :
    Spans t (.repetition p min (some max)) i j ↔
      ∃ k, Repeats t p min i k ∧ ∃ m, m ≤ max - min ∧ Repeats t p m k j := by
  constructor
  · intro h
    cases h with
    | @repetition _ _ n _ _ _ hmin hmax hr =>
      -- Cut after the first `min` spans; the limit bounds the others as they are.
      obtain ⟨d, rfl⟩ := Nat.exists_eq_add_of_le hmin
      obtain ⟨k, hfirst, hrest⟩ := repeats_add_iff.1 hr
      have hd : min + d ≤ max := hmax max rfl
      exact ⟨k, hfirst, d, by omega, hrest⟩
  · rintro ⟨k, hfirst, m, hm, hrest⟩
    refine .repetition (Nat.le_add_right min m) ?_ (repeats_add_iff.2 ⟨k, hfirst, hrest⟩)
    rintro _ ⟨⟩
    omega

end

/-- Just the spans of a pattern lead from a set to the set that a step gives for it. -/
theorem follows_step {t : List Char} {p : Pattern} (hp : p.WellFormed) :
    Follows t (step t p) (Spans t p) := by
  -- One case for each constructor.  Where a pattern has parts, `Follows` is composed from theirs;
  -- elsewhere the set is read bit by bit.
  induction p with
  | empty =>
    intro s hs j
    constructor
    · exact fun hj => ⟨j, hj, .empty (hs j hj)⟩
    · rintro ⟨i, hi, ⟨⟩⟩
      exact hi
  | char c =>
    intro s hs j
    simp only [step, testBit_advance, beq_iff_eq]
    constructor
    · rintro ⟨i, hi, rfl, _, hc, rfl⟩
      exact ⟨i, hi, .char hc⟩
    · rintro ⟨i, hi, h⟩
      cases h with
      | char hc => exact ⟨i, hi, rfl, c, hc, rfl⟩
  | set cs =>
    intro s hs j
    simp only [step, testBit_advance]
    constructor
    · rintro ⟨i, hi, rfl, c, hc, hcs⟩
      exact ⟨i, hi, .set hc hcs⟩
    · rintro ⟨i, hi, h⟩
      cases h with
      | set hc hcs => exact ⟨i, hi, rfl, _, hc, hcs⟩
  | anchor a =>
    intro s hs j
    simp only [step, Nat.testBit_and, Bool.and_eq_true, testBit_positions]
    constructor
    · rintro ⟨hj, hlen, ha⟩
      exact ⟨j, hj, .anchor hlen ha⟩
    · rintro ⟨i, hi, h⟩
      cases h with
      | anchor hlen ha => exact ⟨hi, hlen, ha⟩
  | seq p q ihp ihq =>
    have hcomp := (ihp hp.1).comp (ihq hp.2) fun _ _ h => h.le.2
    refine hcomp.congr fun i k => ⟨?_, ?_⟩
    · rintro ⟨j, h, h'⟩
      exact .seq h h'
    · intro h
      cases h with
      | seq h h' => exact ⟨_, h, h'⟩
  | alt p q ihp ihq =>
    intro s hs j
    simp only [step, Nat.testBit_or, Bool.or_eq_true, ihp hp.1 s hs j, ihq hp.2 s hs j]
    constructor
    · rintro (⟨i, hi, h⟩ | ⟨i, hi, h⟩)
      · exact ⟨i, hi, .altLeft h⟩
      · exact ⟨i, hi, .altRight h⟩
    · rintro ⟨i, hi, h⟩
      cases h with
      | altLeft h => exact .inl ⟨i, hi, h⟩
      | altRight h => exact .inr ⟨i, hi, h⟩
  | repetition p min max ih =>
    -- First the spans that there must be, counted, and then the further ones, growing.
    have hbody := ih hp.1
    have hfirst := follows_iterate hbody min
    cases max with
    | none =>
      have hcomp := hfirst.comp (follows_grow hbody (t.length + 1)) fun _ _ h => h.le.2
      exact hcomp.congr fun _ _ => spans_unlimited_iff.symm
    | some max =>
      have hcomp := hfirst.comp (follows_grow hbody (max - min)) fun _ _ h => h.le.2
      exact hcomp.congr fun _ _ => (spans_limited_iff (hp.2 max rfl)).symm
  | group p ih =>
    refine (ih hp).congr fun i j => ⟨.group, fun h => ?_⟩
    cases h with
    | group h => exact h

/-- A pattern occurs in a text just when it matches a span of the text. -/
theorem occursIn_iff {p : Pattern} (hp : p.WellFormed) {text : String} :
    p.occursIn text = true ↔ ∃ i j, Spans text.toList p i j := by
  have hstep := follows_step hp (allPositions text.toList) fun _ => testBit_allPositions.1
  rw [occursIn, bne_iff_ne]
  constructor
  · -- A bit of the last set is the end of a span.
    intro hne
    obtain ⟨j, hj⟩ := Nat.exists_testBit_of_ne_zero hne
    obtain ⟨i, -, hij⟩ := (hstep j).1 hj
    exact ⟨i, j, hij⟩
  · -- The search begins everywhere, so also where the span begins.
    rintro ⟨i, j, hij⟩ hzero
    have hall : (allPositions text.toList).testBit i = true :=
      testBit_allPositions.2 (Nat.le_trans hij.le.1 hij.le.2)
    have hj := (hstep j).2 ⟨i, hall, hij⟩
    rw [hzero, Nat.zero_testBit] at hj
    exact Bool.noConfusion hj

end TokenAtlas.Pattern
