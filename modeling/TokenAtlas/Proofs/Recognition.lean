import Mathlib
import TokenAtlas.Proofs.Pattern.WellFormed
import TokenAtlas.TokenMap

/-!
# What recognizers know

A recognizer knows a token when its pattern matches some span of the token, wherever that begins and
ends.  This joins what is read (`Pattern.read?_wellFormed`) to what is searched
(`Pattern.occursIn_iff`).  Nothing here depends on how large a pattern may be.

## Key results

- `Recognizer.ofSource_eq_ok_iff`: which texts are accepted
- `Recognizer.knows_iff_occurs`: a map of patterns knows just the tokens where its pattern occurs
-/

namespace TokenAtlas

/-- Whether a pattern matches a span of a text, from some position to the same or a later one. -/
def Pattern.Occurs (p : Pattern) (t : List Char) : Prop :=
  ∃ i j, i ≤ j ∧ j ≤ t.length ∧ Spans t p i j

/-- The search for a well-formed pattern finds it just when it occurs. -/
theorem Pattern.occursIn_iff_occurs {p : Pattern} (hp : p.WellFormed) {text : String} :
    p.occursIn text = true ↔ p.Occurs text.toList := by
  rw [occursIn_iff hp]
  constructor
  · rintro ⟨i, j, h⟩
    exact ⟨i, j, h.le.1, h.le.2, h⟩
  · rintro ⟨i, j, -, -, h⟩
    exact ⟨i, j, h⟩

namespace Recognizer

/-- The recognizer for a text that has been read. -/
def ofPiece (name source : String) (piece : Pattern.Piece) : Recognizer :=
  ⟨name, source, piece.pattern⟩

/-- A text is accepted just when it is read and passes both checks, and its recognizer keeps what
    was read. -/
theorem ofSource_eq_ok_iff [Pattern.SizeCheck] {name source : String} {m : Recognizer} :
    ofSource name source = .ok m ↔ ∃ piece, Pattern.read? source = some piece ∧
      piece.nest ≤ Pattern.maxNest ∧
      Pattern.SizeCheck.compiledSize source ≤ Pattern.sizeLimit ∧
      m = ofPiece name source piece := by
  unfold ofSource
  constructor
  · intro h
    split at h
    · rename_i p hparse
      obtain ⟨piece, hread, hnest, hsize, rfl⟩ := Pattern.parse?_eq_some_iff.1 hparse
      exact ⟨piece, hread, hnest, hsize, (Except.ok.inj h).symm⟩
    · exact nomatch h
  · rintro ⟨piece, hread, hnest, hsize, rfl⟩
    rw [Pattern.parse?_eq_some_iff.2 ⟨piece, hread, hnest, hsize, rfl⟩]
    rfl

/-- A recognizer for a text that has been read knows just the tokens where the pattern occurs. -/
theorem contains_ofPiece_iff {name source : String} {piece : Pattern.Piece}
    (h : Pattern.read? source = some piece) {token : String} :
    (ofPiece name source piece).contains token = true ↔ piece.pattern.Occurs token.toList :=
  Pattern.occursIn_iff_occurs (Pattern.read?_wellFormed h)

end Recognizer

end TokenAtlas
