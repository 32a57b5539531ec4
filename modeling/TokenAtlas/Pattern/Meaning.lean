import TokenAtlas.Pattern.Basic

/-!
# What a pattern matches

`Pattern.Spans t p i j` says that the pattern `p` matches the span of the text `t` from position `i`
to position `j`.  It has one rule for every way in which a pattern can match, and says nothing of
how a match is found.  `Pattern.Repeats` is the same for a number of matches in a row.
-/

namespace TokenAtlas.Pattern

/-- The character before a position. -/
def charBefore (t : List Char) : Nat → Option Char
  | 0 => none
  | i + 1 => t[i]?

mutual

/-- A pattern matches the span between two positions. -/
inductive Spans (t : List Char) : Pattern → Nat → Nat → Prop
  /-- The empty pattern matches at every position. -/
  | empty {i : Nat} (h : i ≤ t.length) : Spans t .empty i i
  /-- A literal matches its character. -/
  | char {c : Char} {i : Nat} (h : t[i]? = some c) : Spans t (.char c) i (i + 1)
  /-- A class matches each of its characters. -/
  | set {s : CharSet} {c : Char} {i : Nat} (h : t[i]? = some c) (hc : s.contains c = true) :
      Spans t (.set s) i (i + 1)
  /-- An anchor matches at the positions where it holds. -/
  | anchor {a : Anchor} {i : Nat} (h : i ≤ t.length)
      (ha : a.holds (charBefore t i) t[i]? = true) : Spans t (.anchor a) i i
  /-- A sequence matches two spans that meet. -/
  | seq {p q : Pattern} {i j k : Nat} (hp : Spans t p i j) (hq : Spans t q j k) :
      Spans t (.seq p q) i k
  /-- An alternation matches what its first branch matches. -/
  | altLeft {p q : Pattern} {i j : Nat} (h : Spans t p i j) : Spans t (.alt p q) i j
  /-- An alternation matches what its second branch matches. -/
  | altRight {p q : Pattern} {i j : Nat} (h : Spans t q i j) : Spans t (.alt p q) i j
  /-- A repetition matches an admitted number of spans in a row. -/
  | repetition {p : Pattern} {min n : Nat} {max : Option Nat} {i j : Nat} (hmin : min ≤ n)
      (hmax : ∀ m, max = some m → n ≤ m) (h : Repeats t p n i j) :
      Spans t (.repetition p min max) i j
  /-- A group matches what its body matches. -/
  | group {p : Pattern} {i j : Nat} (h : Spans t p i j) : Spans t (.group p) i j

/-- A pattern matches a number of spans in a row. -/
inductive Repeats (t : List Char) : Pattern → Nat → Nat → Nat → Prop
  /-- No span at all. -/
  | zero {p : Pattern} {i : Nat} (h : i ≤ t.length) : Repeats t p 0 i i
  /-- One span and then the others. -/
  | succ {p : Pattern} {n i j k : Nat} (hp : Spans t p i j) (hr : Repeats t p n j k) :
      Repeats t p (n + 1) i k

end

end TokenAtlas.Pattern
