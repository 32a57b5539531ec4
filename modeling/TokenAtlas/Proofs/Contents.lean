import TokenAtlas.Content
import TokenAtlas.Proofs.Definitions
import TokenAtlas.Proofs.Json.Values
import TokenAtlas.Proofs.Rounding

/-!
# Contents of JSON texts

The content of a JSON text loses nothing of it: it stands for the text again, and for the block that
the text stands for.  Only an infinity or NaN would be lost, but no numeral stands for one.

## Key results

- `Json.Written.finite_of_json?`: the floating-point numbers of a text are finite
- `Content.toJson?_ofJson`: the content of a text stands for the text again
- `Content.toBlock?_ofJson`: and for the same block
-/

namespace TokenAtlas

open Json

/-! ## Parts of contents -/

namespace Content

end Content

/-! ## Finite numbers -/

namespace Json

mutual

/-- Whether every floating-point number in a value is finite. -/
def Finite : Json → Prop
  | .number (.float x) => x.isFinite = true
  | .array items => FiniteItems items
  | .object members => FiniteMembers members
  | _ => True

/-- Whether the same holds of all items of an array. -/
def FiniteItems : List Json → Prop
  | [] => True
  | j :: rest => j.Finite ∧ FiniteItems rest

/-- Whether the same holds of all values of an object. -/
def FiniteMembers : List (String × Json) → Prop
  | [] => True
  | (_, j) :: rest => j.Finite ∧ FiniteMembers rest

end

namespace Written

mutual

/-- What a text is read as has only finite numbers. -/
theorem finite_of_json? {w : Written} {j : Json} (h : w.json? = some j) : j.Finite := by
  cases w with
  | null | bool | string =>
    obtain rfl := Option.some.inj h
    exact trivial
  | numeral m =>
    obtain ⟨n, hn, rfl⟩ := Option.map_eq_some_iff.1 h
    cases n with
    | int n => exact trivial
    | float x => exact Numeral.isFinite_of_value? hn
  | array items =>
    obtain ⟨js, hjs, rfl⟩ := Option.map_eq_some_iff.1 h
    exact finiteItems_of_jsonItems? hjs
  | object members =>
    obtain ⟨ms, hms, rfl⟩ := Option.map_eq_some_iff.1 h
    exact finiteMembers_of_jsonMembers? hms

theorem finiteItems_of_jsonItems? {items : List Written} {js : List Json}
    (h : jsonItems? items = some js) : FiniteItems js := by
  cases items with
  | nil =>
    obtain rfl := Option.some.inj h
    exact trivial
  | cons w rest =>
    simp only [jsonItems?, Option.bind_eq_bind, Option.bind_eq_some_iff, Option.some.injEq] at h
    obtain ⟨j, hj, js', hrest, rfl⟩ := h
    exact ⟨finite_of_json? hj, finiteItems_of_jsonItems? hrest⟩

theorem finiteMembers_of_jsonMembers? {members : List (String × Written)}
    {ms : List (String × Json)} (h : jsonMembers? members = some ms) : FiniteMembers ms := by
  cases members with
  | nil =>
    obtain rfl := Option.some.inj h
    exact trivial
  | cons m rest =>
    obtain ⟨name, w⟩ := m
    simp only [jsonMembers?, Option.bind_eq_bind, Option.bind_eq_some_iff, Option.some.injEq] at h
    obtain ⟨j, hj, ms', hrest, rfl⟩ := h
    exact ⟨finite_of_json? hj, finiteMembers_of_jsonMembers? hrest⟩

end

end Written

end Json

/-! ## Contents of texts -/

namespace Content

theorem ofItems_eq_map (items : List Json) : ofItems items = items.map ofJson := by
  induction items with
  | nil => rfl
  | cons j rest ih => rw [ofItems, ih, List.map_cons]

/-- The keys of an object are texts. -/
theorem ofMembers_eq_keyed (members : List (String × Json)) :
    ofMembers members = Definition.keyed (members.map fun m => (m.1, ofJson m.2)) := by
  induction members with
  | nil => rfl
  | cons m rest ih => rw [ofMembers, ih]; rfl

mutual

/-- The content of a text with finite numbers stands for the text again. -/
theorem toJson?_ofJson {j : Json} (h : j.Finite) : (ofJson j).toJson? = some j := by
  cases j with
  | null | bool | string => rfl
  | number n => cases n with
    | int n => rfl
    | float x => simp only [ofJson, toJson?, numberToJson, if_pos (show x.isFinite = true from h)]
  | array items => rw [ofJson, toJson?, toItems?_ofItems h, Option.map_some]
  | object members => rw [ofJson, toJson?, toMembers?_ofMembers h, Option.map_some]

theorem toItems?_ofItems {items : List Json} (h : FiniteItems items) :
    toItems? (ofItems items) = some items := by
  cases items with
  | nil => rfl
  | cons j rest => simp [ofItems, toItems?, toJson?_ofJson h.1, toItems?_ofItems h.2]

theorem toMembers?_ofMembers {members : List (String × Json)} (h : FiniteMembers members) :
    toMembers? (ofMembers members) = some members := by
  cases members with
  | nil => rfl
  | cons m rest =>
    simp [ofMembers, toMembers?, toName?, toJson?_ofJson h.1, toMembers?_ofMembers h.2]

end

/-- The content of a text stands for the same block as the text. -/
theorem toBlock?_ofJson {w : Written} {j : Json} (h : w.json? = some j) :
    (ofJson j).toBlock? = j.toBlock? := by
  rw [toBlock?, toJson?_ofJson (Written.finite_of_json? h), Option.bind_some]

end Content

end TokenAtlas
