import TokenAtlas.Pattern.Parser
import TokenAtlas.Proofs.Pattern.Search

/-!
# Patterns that are read are well formed

The counts of a repetition are compared while they are read, so no pattern that is read asks for
more spans than it admits.  `Progress.WellFormed` is the invariant of the reader: every branch and
every item that it has collected is well formed.

## Key results

- `readParts?_wellFormed`: reading parts keeps what was collected well formed
- `read?_wellFormed`: the pattern of a text is well formed
-/

namespace TokenAtlas.Pattern

/-! ## Putting patterns together -/

theorem concat_wellFormed {ps : List Pattern} (h : ∀ p ∈ ps, p.WellFormed) :
    (concat ps).WellFormed := by
  induction ps with
  | nil => trivial
  | cons p ps ih =>
    cases ps with
    | nil => exact h p (by simp)
    | cons q ps => exact ⟨h p (by simp), ih fun r hr => h r (by simp_all)⟩

theorem alternation_wellFormed {ps : List Pattern} (h : ∀ p ∈ ps, p.WellFormed) :
    (alternation ps).WellFormed := by
  induction ps with
  | nil => trivial
  | cons p ps ih =>
    cases ps with
    | nil => exact h p (by simp)
    | cons q ps => exact ⟨h p (by simp), ih fun r hr => h r (by simp_all)⟩

theorem sequencePiece_wellFormed {items : List Item}
    (h : ∀ item ∈ items, item.toPiece.pattern.WellFormed) :
    (sequencePiece items).pattern.WellFormed := by
  have hpieces : ∀ p ∈ items.reverse.map Item.toPiece, p.pattern.WellFormed := by
    simpa using h
  unfold sequencePiece
  split
  · rename_i p heq
    exact hpieces p (by simp [heq])
  · exact concat_wellFormed (by simpa using hpieces)

theorem branchesPiece_wellFormed {branches : List Piece}
    (h : ∀ p ∈ branches, p.pattern.WellFormed) : (branchesPiece branches).pattern.WellFormed := by
  have hpieces : ∀ p ∈ branches.reverse, p.pattern.WellFormed := by
    simpa using h
  unfold branchesPiece
  split
  · rename_i p heq
    exact hpieces p (by simp [heq])
  · exact alternation_wellFormed (by simpa using hpieces)

/-! ## What the reader collects -/

namespace Progress

/-- Whether everything that was collected is well formed. -/
structure WellFormed (st : Progress) : Prop where
  branches : ∀ p ∈ st.branches, p.pattern.WellFormed
  items : ∀ item ∈ st.items, item.toPiece.pattern.WellFormed

variable {st : Progress}

/-- Nothing was collected at the start. -/
theorem WellFormed.start (f : Flags) (names : List (List Char)) :
    WellFormed { flags := f, names } :=
  ⟨by simp, by simp⟩

theorem WellFormed.push (h : st.WellFormed) {p : Piece} (hp : p.pattern.WellFormed) :
    (st.push p).WellFormed :=
  ⟨h.branches, List.forall_mem_cons.2 ⟨hp, h.items⟩⟩

theorem WellFormed.branch (h : st.WellFormed) : st.branch.WellFormed :=
  ⟨List.forall_mem_cons.2 ⟨sequencePiece_wellFormed h.items, h.branches⟩, by simp [Progress.branch]⟩

theorem WellFormed.finish (h : st.WellFormed) : st.finish.pattern.WellFormed :=
  branchesPiece_wellFormed (List.forall_mem_cons.2 ⟨sequencePiece_wellFormed h.items, h.branches⟩)

theorem WellFormed.repeatLast (h : st.WellFormed) {min : Nat} {max : Option Nat} {st' : Progress}
    (hle : ∀ m, max = some m → min ≤ m) (hst' : st.repeatLast? min max = some st') :
    st'.WellFormed := by
  obtain ⟨items, hitems, rfl⟩ := Option.map_eq_some_iff.1 hst'
  refine ⟨h.branches, ?_⟩
  -- What is repeated is the last item, which must be a piece.
  cases hlast : st.items with
  | nil => simp [hlast, Pattern.repeatLast?] at hitems
  | cons last before =>
    have hcollected := h.items
    rw [hlast, List.forall_mem_cons] at hcollected
    cases last with
    | directive => simp [hlast, Pattern.repeatLast?] at hitems
    | piece p =>
      simp only [hlast, Pattern.repeatLast?, Option.some.injEq] at hitems
      subst hitems
      exact List.forall_mem_cons.2 ⟨⟨hcollected.1, hle⟩, hcollected.2⟩

end Progress

/-! ## Reading -/

/-- Counts are only read when some number lies between them. -/
theorem readCounts?_le {f : Flags} {s rest : List Char} {min : Nat} {max : Option Nat}
    (h : readCounts? f s = some ((min, max), rest)) : ∀ m, max = some m → min ≤ m := by
  rintro m rfl
  simp only [readCounts?, Option.bind_eq_bind, Option.bind_eq_some_iff] at h
  obtain ⟨⟨low, rest'⟩, -, h⟩ := h
  -- A single count, a count and a comma, or two counts, which are compared.
  split at h
  · obtain ⟨⟨rfl, ⟨⟩⟩, -⟩ : (low = min ∧ some low = some m) ∧ _ = rest := by simpa using h
    exact Nat.le_refl _
  · split at h
    · simp at h
    · obtain ⟨⟨high, rest''⟩, -, h⟩ := Option.bind_eq_some_iff.1 h
      split at h
      · split at h
        · rename_i hle
          obtain ⟨⟨rfl, rfl⟩, -⟩ : (low = min ∧ high = m) ∧ _ = rest := by simpa using h
          exact hle
        · simp at h
      · simp at h
  · simp at h

theorem literalPattern_wellFormed (f : Flags) (c : Char) : (literalPattern f c).WellFormed := by
  unfold literalPattern
  split <;> trivial

theorem Atom.toPattern?_wellFormed {f : Flags} {a : Atom} {p : Pattern}
    (h : a.toPattern? f = some p) : p.WellFormed := by
  cases a with
  | literal c byte =>
    simp only [Atom.toPattern?] at h
    split at h
    · exact nomatch h
    · obtain rfl := Option.some.inj h
      exact literalPattern_wellFormed f c
  | set s =>
    obtain rfl := Option.some.inj h
    trivial
  | anchor a =>
    obtain rfl := Option.some.inj h
    trivial

theorem dotPattern?_wellFormed {f : Flags} {p : Pattern} (h : dotPattern? f = some p) :
    p.WellFormed := by
  simp only [dotPattern?] at h
  split at h
  · exact nomatch h
  · split at h
    · obtain rfl := Option.some.inj h
      trivial
    · split at h <;>
        · obtain rfl := Option.some.inj h
          trivial

section

variable {st st' : Progress} {r rest : List Char}

private theorem wellFormed_of_push {p : Piece} (hst : st.WellFormed)
    (h : some (st.push p, r) = some (st', rest)) (hp : p.pattern.WellFormed) :
    st'.WellFormed := by
  obtain ⟨rfl, -⟩ := Prod.mk.inj (Option.some.inj h)
  exact hst.push hp

private theorem wellFormed_of_repeatLast {min : Nat} {max : Option Nat} (hst : st.WellFormed)
    (hle : ∀ m, max = some m → min ≤ m)
    (h : (st.repeatLast? min max).map (·, r) = some (st', rest)) : st'.WellFormed := by
  obtain ⟨st₁, hst₁, heq⟩ := Option.map_eq_some_iff.1 h
  obtain ⟨rfl, -⟩ := Prod.mk.inj heq
  exact hst.repeatLast hle hst₁

/-- Reading one part keeps what was collected well formed. -/
theorem readPart?_wellFormed {s : List Char} (hst : st.WellFormed)
    (h : readPart? st s = some (st', rest)) : st'.WellFormed := by
  cases s with
  | nil => exact nomatch h
  | cons c s =>
    simp only [readPart?] at h
    -- One case for each row of the match: class, `?`, `*`, `+`, counts, `^`, `$`, dot, escape,
    -- literal.
    split at h
    · obtain ⟨⟨part, rest'⟩, -, h⟩ := Option.bind_eq_some_iff.1 h
      exact wellFormed_of_push hst h trivial
    · exact wellFormed_of_repeatLast hst (fun m _ => Nat.zero_le m) h
    · exact wellFormed_of_repeatLast hst (by simp) h
    · exact wellFormed_of_repeatLast hst (by simp) h
    · obtain ⟨⟨⟨min, max⟩, rest'⟩, hcounts, h⟩ := Option.bind_eq_some_iff.1 h
      obtain ⟨st₁, hst₁, h⟩ := Option.bind_eq_some_iff.1 h
      obtain ⟨rfl, -⟩ := Prod.mk.inj (Option.some.inj h)
      exact hst.repeatLast (readCounts?_le hcounts) hst₁
    · exact wellFormed_of_push hst h trivial
    · exact wellFormed_of_push hst h trivial
    · obtain ⟨p, hp, h⟩ := Option.bind_eq_some_iff.1 h
      exact wellFormed_of_push hst h (dotPattern?_wellFormed hp)
    · obtain ⟨⟨atom, rest'⟩, -, h⟩ := Option.bind_eq_some_iff.1 h
      obtain ⟨p, hp, h⟩ := Option.bind_eq_some_iff.1 h
      exact wellFormed_of_push hst h (Atom.toPattern?_wellFormed hp)
    · exact wellFormed_of_push hst h (literalPattern_wellFormed st.flags c)

end

/-- Reading parts keeps what was collected well formed. -/
theorem readParts?_wellFormed {fuel : Nat} {st st' : Progress} {s rest : List Char}
    (hst : st.WellFormed) (h : readParts? fuel st s = some (st', rest)) : st'.WellFormed := by
  -- On the fuel, with the invariant for whatever was collected so far.
  induction fuel generalizing st st' s rest with
  | zero => exact nomatch h
  | succ fuel ih =>
    simp only [readParts?] at h
    split at h
    · -- the end of the text
      obtain ⟨rfl, -⟩ := Prod.mk.inj (Option.some.inj h)
      exact hst
    · -- the parenthesis that ends a group
      obtain ⟨rfl, -⟩ := Prod.mk.inj (Option.some.inj h)
      exact hst
    · -- a bar, which ends a branch
      exact ih hst.branch h
    · -- A parenthesis.  What a group holds is read from nothing on, so its own body is well formed.
      split at h
      · exact nomatch h
      · -- A directive is an item that matches the empty span.
        refine ih ?_ h
        exact ⟨hst.branches, List.forall_mem_cons.2 ⟨trivial, hst.items⟩⟩
      · split at h
        · rename_i inner rest' hinner
          have hbody : inner.finish.pattern.WellFormed := (ih (.start _ _) hinner).finish
          refine ih ?_ h
          exact ⟨hst.branches, List.forall_mem_cons.2 ⟨hbody, hst.items⟩⟩
        · exact nomatch h
      · split at h
        · exact nomatch h
        · split at h
          · rename_i inner rest' hinner
            have hbody : inner.finish.pattern.WellFormed := (ih (.start _ _) hinner).finish
            refine ih ?_ h
            exact ⟨hst.branches, List.forall_mem_cons.2 ⟨hbody, hst.items⟩⟩
          · exact nomatch h
    · -- any other part
      split at h
      · exact nomatch h
      · rename_i hpart
        exact ih (readPart?_wellFormed hst hpart) h

/-- The pattern of a text is well formed. -/
theorem read?_wellFormed {text : String} {piece : Piece} (h : read? text = some piece) :
    piece.pattern.WellFormed := by
  simp only [read?] at h
  split at h
  · rename_i st hparts
    obtain rfl := Option.some.inj h
    exact (readParts?_wellFormed (.start _ _) hparts).finish
  · exact nomatch h

end TokenAtlas.Pattern
