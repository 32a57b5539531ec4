import TokenAtlas.Proofs.AtlasRuns

/-!
# When the order of maps counts

An atlas answers with the first of its maps that knows a token.  The order of the maps therefore
counts only for tokens that several of them know.  `Atlas.answers` lists what all the maps say of a
token: another order permutes that list, one more map appends to it, and the first of it is the
answer.

## Key results

- `resolve?_eq_head?`: an atlas gives the first of all answers
- `answers_perm`, `answers_of_push`: what another order and one more map do to the answers
- `order_counts_on_overlap`: which answers another order and one more map leave as they are
-/

namespace TokenAtlas

namespace TokenMap

/-- The answer of an atlas that only has this map. -/
def answer? (m : TokenMap) (token : String) : Option Resolution :=
  (m.lookup? token).map fun found => ⟨m.name, found⟩

theorem isSome_answer? (m : TokenMap) (token : String) :
    (m.answer? token).isSome = m.contains token := by
  simp [answer?, contains_eq_isSome]

theorem answer?_eq_none {m : TokenMap} {token : String} (h : m.contains token = false) :
    m.answer? token = none := by
  rw [← isSome_answer?] at h
  simpa using h

end TokenMap

namespace Atlas

/-- What all the maps of an atlas say of a token, in their order. -/
def answers (a : Atlas) (token : String) : List Resolution :=
  a.maps.filterMap (·.answer? token)

/-! ## Answers and the atlas -/

/-- The first map that knows a token gives the answer. -/
theorem resolve?_eq_head? (a : Atlas) (token : String) :
    a.resolve? token = (a.answers token).head? :=
  List.head?_filterMap.symm

/-- There is one answer for each map that knows the token. -/
theorem length_answers (a : Atlas) (token : String) :
    (a.answers token).length = a.maps.countP (·.contains token) := by
  simp [answers, List.length_filterMap_eq_countP, TokenMap.isSome_answer?]

theorem contains_eq_not_isEmpty (a : Atlas) (token : String) :
    a.contains token = !(a.answers token).isEmpty := by
  rw [contains_eq_isSome, resolve?_eq_head?]
  cases a.answers token <;> rfl

theorem answers_eq_nil {a : Atlas} {token : String} (h : a.contains token = false) :
    a.answers token = [] := by
  rw [contains_eq_not_isEmpty] at h
  simpa using h

/-! ## One more map, and another order -/

/-- A map that is pushed answers after all the others. -/
theorem answers_of_push {a b : Atlas} {m : TokenMap} (h : a.push m = .ok b) (token : String) :
    b.answers token = a.answers token ++ (m.answer? token).toList := by
  unfold answers
  rw [(push_eq_ok_iff.1 h).2, List.filterMap_append]
  cases hm : m.answer? token <;> simp [hm]

/-- In another order the maps give the same answers in another order. -/
theorem answers_perm {a b : Atlas} (h : a.maps.Perm b.maps) (token : String) :
    (a.answers token).Perm (b.answers token) :=
  h.filterMap _

/-- The order of one answer at most is no order. -/
theorem head?_eq_of_perm {α : Type} {xs ys : List α} (h : xs.Perm ys) (hone : xs.length ≤ 1) :
    xs.head? = ys.head? := by
  match xs, hone with
  | [], _ => rw [List.nil_perm.1 h]
  | [x], _ => rw [List.singleton_perm.1 h]

/-- What is known of a token goes on being known, and then nothing that a further map says of it
    counts; a token that was unknown is left to that map. -/
theorem resolve?_of_push {a b : Atlas} {m : TokenMap} (h : a.push m = .ok b) (token : String) :
    b.resolve? token = if a.contains token then a.resolve? token else m.answer? token := by
  rw [resolve?_eq_head?, resolve?_eq_head?, answers_of_push h]
  by_cases hknown : a.contains token
  · rw [if_pos hknown]
    rw [contains_eq_not_isEmpty] at hknown
    apply List.head?_append_of_ne_nil
    simpa using hknown
  · rw [if_neg hknown, answers_eq_nil (by simpa using hknown)]
    cases m.answer? token <;> rfl

/-- The order of the maps counts only where they overlap.

* A map whose name is new is accepted.  The atlas answers as before for the tokens that it knew, and
  for any other token it answers what that map says of it, if anything.
* Two atlases with the same maps in any order know the same tokens.  They answer alike for every
  token that at most one of the maps knows. -/
theorem order_counts_on_overlap :
    (∀ (a : Atlas) (m : TokenMap), m.name ∉ a.names → ∃ b, a.push m = .ok b ∧ ∀ token,
      (a.contains token = true → b.resolve? token = a.resolve? token) ∧
      (a.contains token = false →
        b.resolve? token = (m.lookup? token).map fun found => ⟨m.name, found⟩) ∧
      (a.contains token = false → m.contains token = false → b.resolve? token = none)) ∧
    ∀ a b : Atlas, a.maps.Perm b.maps → ∀ token,
      a.contains token = b.contains token ∧
      (a.maps.countP (·.contains token) ≤ 1 → a.resolve? token = b.resolve? token) := by
  constructor
  · intro a m hname
    have hpush : a.push m = .ok ⟨a.maps ++ [m], nodup_append_singleton hname⟩ :=
      push_eq_ok_iff.2 ⟨hname, rfl⟩
    refine ⟨_, hpush, fun token => ⟨fun hknown => ?_, fun hknown => ?_, fun hknown hm => ?_⟩⟩
    · rw [resolve?_of_push hpush, if_pos hknown]
    · rw [resolve?_of_push hpush, hknown]
      rfl
    · rw [resolve?_of_push hpush, hknown]
      exact TokenMap.answer?_eq_none hm
  · intro a b hperm token
    have hanswers := answers_perm hperm token
    constructor
    · rw [contains_eq_not_isEmpty, contains_eq_not_isEmpty, hanswers.isEmpty_eq]
    · intro hone
      rw [resolve?_eq_head?, resolve?_eq_head?]
      apply head?_eq_of_perm hanswers
      rw [length_answers]
      exact hone

/-- Two maps that know different tokens may change places, and a map that comes after them is only
    asked for what neither of them knows. -/
theorem order_counts_on_overlap_two_maps :
    let x : Table CharacterEntry := (Table.empty "x").tryAll [("x", ("ex", none))]
    let a : Atlas := ⟨[.patterns .digit, .characters x], by decide⟩
    let b : Atlas := ⟨[.characters x, .patterns .digit], by decide⟩
    a.resolve? "x" = b.resolve? "x" ∧
      ∃ c, a.push (.patterns .letter) = .ok c ∧ c.resolve? "x" = a.resolve? "x" ∧
        c.resolve? "y" = some ⟨"letter", .matched⟩ ∧ c.resolve? "?" = none := by
  intro x a b
  obtain ⟨hpushes, horders⟩ := order_counts_on_overlap
  have hperm : a.maps.Perm b.maps := .swap _ _ []
  have hone : a.maps.countP (·.contains "x") ≤ 1 := by cbv
  obtain ⟨c, hpush, hanswers⟩ := hpushes a (.patterns .letter) (by decide)
  refine ⟨(horders a b hperm "x").2 hone, c, hpush, (hanswers "x").1 (by cbv), ?_, ?_⟩
  · rw [(hanswers "y").2.1 (by cbv)]
    cbv
  · exact (hanswers "?").2.2 (by cbv) (by cbv)

end Atlas

end TokenAtlas
