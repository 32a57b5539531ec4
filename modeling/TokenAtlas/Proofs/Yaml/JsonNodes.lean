import TokenAtlas.Proofs.Contents
import TokenAtlas.Proofs.Yaml.FlowNodes
import TokenAtlas.Proofs.Yaml.JsonTokens
import TokenAtlas.Proofs.Yaml.KeyReadings

/-!
# The nodes of JSON texts

The tokens of a JSON text are read as one node, `Json.node`, which has no anchors and no tags, and
whose content is that of the value: a word or a number is plain there and stands for itself, and a
string is quoted and stands for nothing else, however it looks.

## Key results

- `Json.read?_tokens`: the node of a value is read from its tokens
- `Json.plainContent?_renderInt`: an integer in decimal digits stands for itself
- `Json.expand_node`: the content of the node is that of the value
-/

namespace TokenAtlas.Json

open Yaml

/-! ## Nodes -/

mutual

/-- The node of a value. -/
def node : Json → Node
  | .null => .scalar none none "null" true
  | .bool true => .scalar none none "true" true
  | .bool false => .scalar none none "false" true
  | .number n => .scalar none none (String.ofList (renderNumber n)) true
  | .string s => .scalar none none s false
  | .array items => .sequence none none (itemNodes items)
  | .object members => .mapping none none (memberNodes members)

/-- The nodes of the items of an array. -/
def itemNodes : List Json → List Node
  | [] => []
  | j :: rest => node j :: itemNodes rest

/-- The nodes of the names and values of an object. -/
def memberNodes : List (String × Json) → List (Node × Node)
  | [] => []
  | (name, j) :: rest => (.scalar none none name false, node j) :: memberNodes rest

end

/-- The tokens that values begin with. -/
def IsFirst : Token → Prop
  | .scalar _ _ | .flowSequenceStart | .flowMappingStart => True
  | _ => False

theorem exists_tokens_cons (j : Json) : ∃ t ts, j.tokens = t :: ts ∧ IsFirst t := by
  cases j with
  | bool b => cases b <;> exact ⟨_, [], rfl, trivial⟩
  | null | number | string => exact ⟨_, [], rfl, trivial⟩
  | array items => exact ⟨_, _, rfl, trivial⟩
  | object members => exact ⟨_, _, rfl, trivial⟩

theorem length_tokens_pos (j : Json) : 0 < j.tokens.length := by
  obtain ⟨t, ts, htokens, -⟩ := j.exists_tokens_cons
  rw [htokens]
  exact Nat.succ_pos _

section Reading

variable {fuel : Nat} {ns : Names} {j : Json} {rest : List Token}

/-- An item that is a value. -/
theorem readFlowSequence?_tokens
    (h : Node.read? fuel false false ns (j.tokens ++ rest) = some (j.node, ns, rest)) :
    Node.readFlowSequence? (fuel + 1) true ns (j.tokens ++ rest) =
      (Node.readFlowSequence? fuel false ns rest).map fun (nodes, r) => (j.node :: nodes, r) := by
  obtain ⟨t, ts, htokens, ht⟩ := j.exists_tokens_cons
  rw [htokens, List.cons_append] at h ⊢
  rw [Node.readFlowSequence?_item (by rintro rfl; exact ht) (by rintro rfl; exact ht),
    NodeReader.bind, h]
  rfl

/-- A member with a quoted name and a value. -/
theorem readFlowMapping?_tokens {name : String}
    (h : Node.read? (fuel + 1) false false ns (j.tokens ++ rest) = some (j.node, ns, rest)) :
    Node.readFlowMapping? (fuel + 2) true ns
        (.key :: .scalar name false :: .value :: (j.tokens ++ rest)) =
      (Node.readFlowMapping? (fuel + 1) false ns rest).map fun (nodes, r) =>
        ((.scalar none none name false, j.node) :: nodes, r) := by
  obtain ⟨t, ts, htokens, ht⟩ := j.exists_tokens_cons
  rw [htokens, List.cons_append] at h ⊢
  have hvalue : Node.endsFlowValue (t :: (ts ++ rest)) = false := by
    cases t <;> first | exact absurd ht id | rfl
  rw [Node.readFlowMapping?_member hvalue]
  simp only [NodeReader.bind, h, Option.bind_some]
  rfl

end Reading

mutual

/-- The node of a value is read from its tokens. -/
theorem read?_tokens (j : Json) {fuel : Nat} (block plain : Bool) (ns : Names) (rest : List Token)
    (h : j.tokens.length ≤ fuel) :
    Node.read? fuel block plain ns (j.tokens ++ rest) = some (j.node, ns, rest) := by
  -- A value has a token at least, so there is fuel for the call.
  obtain ⟨fuel, rfl⟩ := Nat.exists_eq_add_of_le' (Nat.le_trans j.length_tokens_pos h)
  cases j with
  | bool b => cases b <;> rfl
  | null | number | string => rfl
  | array items =>
    have hitems : (itemTokens items).length + 1 ≤ fuel := by
      simp only [tokens, List.length_cons, List.length_append, List.length_nil] at h
      omega
    rw [tokens, List.cons_append, List.append_assoc, Node.read?_flowSequence]
    simp only [List.singleton_append, read?_itemTokens items ns rest hitems, Option.map_some, node]
  | object members =>
    have hmembers : (memberTokens members).length + 1 ≤ fuel := by
      simp only [tokens, List.length_cons, List.length_append, List.length_nil] at h
      omega
    rw [tokens, List.cons_append, List.append_assoc, Node.read?_flowMapping]
    simp only [List.singleton_append, read?_memberTokens members ns rest hmembers, Option.map_some,
      node]

theorem read?_itemTokens (items : List Json) {fuel : Nat} (ns : Names) (rest : List Token)
    (h : (itemTokens items).length + 1 ≤ fuel) :
    Node.readFlowSequence? fuel true ns (itemTokens items ++ .flowSequenceEnd :: rest) =
      some (itemNodes items, ns, rest) := by
  obtain ⟨fuel, rfl⟩ := Nat.exists_eq_add_of_le' (Nat.le_of_add_left_le h)
  -- No item, the last one, or one with a comma after it.
  match items with
  | [] => rfl
  | [j] =>
    have hj : j.tokens.length ≤ fuel := Nat.le_of_add_le_add_right h
    obtain ⟨fuel, rfl⟩ := Nat.exists_eq_add_of_le' (Nat.le_trans j.length_tokens_pos hj)
    rw [itemTokens, readFlowSequence?_tokens (read?_tokens j false false ns _ hj)]
    rfl
  | j :: j' :: more =>
    have hlength : j.tokens.length + ((itemTokens (j' :: more)).length + 1) ≤ fuel := by
      simpa [itemTokens] using h
    have hj : j.tokens.length ≤ fuel := by omega
    have hmore : (itemTokens (j' :: more)).length + 1 ≤ fuel := by omega
    have htokens : itemTokens (j :: j' :: more) ++ .flowSequenceEnd :: rest =
        j.tokens ++ .flowEntry :: (itemTokens (j' :: more) ++ .flowSequenceEnd :: rest) := by
      simp [itemTokens]
    rw [htokens, readFlowSequence?_tokens (read?_tokens j false false ns _ hj),
      Node.readFlowSequence?_comma, read?_itemTokens (j' :: more) ns rest hmore]
    rfl

theorem read?_memberTokens (members : List (String × Json)) {fuel : Nat} (ns : Names)
    (rest : List Token) (h : (memberTokens members).length + 1 ≤ fuel) :
    Node.readFlowMapping? fuel true ns (memberTokens members ++ .flowMappingEnd :: rest) =
      some (memberNodes members, ns, rest) := by
  -- No member, the last one, or one with a comma after it.
  match members with
  | [] =>
    obtain ⟨fuel, rfl⟩ := Nat.exists_eq_add_of_le' (Nat.le_of_add_left_le h)
    rfl
  | [(name, j)] =>
    have hlength : j.tokens.length + 4 ≤ fuel := by
      simp only [memberTokens, List.length_cons] at h
      omega
    obtain ⟨fuel, rfl⟩ := Nat.exists_eq_add_of_le' (Nat.le_trans (by omega : 2 ≤ _) hlength)
    have htokens : memberTokens [(name, j)] ++ .flowMappingEnd :: rest =
        .key :: .scalar name false :: .value :: (j.tokens ++ .flowMappingEnd :: rest) := by
      simp [memberTokens]
    rw [htokens, readFlowMapping?_tokens (read?_tokens j false false ns _ (by omega))]
    rfl
  | (name, j) :: m :: more =>
    have hlength : j.tokens.length + (memberTokens (m :: more)).length + 5 ≤ fuel := by
      simp only [memberTokens, List.length_cons, List.length_append] at h
      omega
    obtain ⟨fuel, rfl⟩ := Nat.exists_eq_add_of_le' (Nat.le_trans (by omega : 2 ≤ _) hlength)
    have htokens : memberTokens ((name, j) :: m :: more) ++ .flowMappingEnd :: rest =
        .key :: .scalar name false :: .value ::
          (j.tokens ++ .flowEntry :: (memberTokens (m :: more) ++ .flowMappingEnd :: rest)) := by
      simp [memberTokens]
    rw [htokens, readFlowMapping?_tokens (read?_tokens j false false ns _ (by omega)),
      Node.readFlowMapping?_comma, read?_memberTokens (m :: more) ns rest (by omega)]
    rfl

end

/-- A document that consists of the tokens of an object. -/
theorem readDocument?_tokens (members : List (String × Json)) :
    readDocument? (tokens (.object members)) = some (some (node (.object members))) := by
  have hlimit : (tokens (.object members)).length ≤ callLimit (tokens (.object members)) := by
    rw [callLimit]
    omega
  have hread := read?_tokens (.object members) true false
    { handles := [] ++ Names.defaultHandles } [] hlimit
  rw [List.append_nil] at hread
  rw [tokens] at hread ⊢
  simp only [readDocument?, readDirectives?, hread, onlyEnds, List.all_nil, if_true]

/-! ## Integers -/

theorem digitIn?_digitChar {d : Nat} (h : d ≤ 9) : digitIn? 10 (Nat.digitChar d) = some d := by
  have hall : ∀ d ≤ 9, digitIn? 10 (Nat.digitChar d) = some d := by decide
  exact hall d h

theorem go_digitsText {ds : List Nat} (h : ∀ d ∈ ds, d ≤ 9) (acc : Nat) :
    readDigits?.go 10 acc (digitsText ds) = some (ds.foldl (fun n d => n * 10 + d) acc) := by
  induction ds generalizing acc with
  | nil => rfl
  | cons d ds ih =>
    obtain ⟨hd, hds⟩ := List.forall_mem_cons.1 h
    rw [digitsText, List.map_cons, readDigits?.go, digitIn?_digitChar hd]
    exact ih hds _

theorem readDigits?_digitsText {ds : List Nat} (h : Digits ds) :
    readDigits? 10 (digitsText ds) = some (ofDigits ds) := by
  have hempty : (digitsText ds).isEmpty = false := by simpa [digitsText] using h.1
  rw [readDigits?, hempty]
  exact go_digitsText h.2 0

/-- The digits of a whole number, of which the first is a zero only if it is the only one. -/
theorem exists_wholeText_cons {ds : List Nat} {t : List Char} (h : WholeText ds t) :
    Digits ds ∧ t = digitsText ds ∧ ∃ c r, t = c :: r ∧ c.isDigit = true ∧ (c = '0' → r = []) := by
  cases h with
  | zero => exact ⟨⟨by simp, by simp⟩, rfl, '0', [], rfl, by decide, fun _ => rfl⟩
  | @digits d ds hd hds =>
    have hall : ∀ d ≤ 9, d ≠ 0 → (Nat.digitChar d).isDigit = true ∧ Nat.digitChar d ≠ '0' := by
      decide
    obtain ⟨hdigit, hzero⟩ := hall d (hds.2 d List.mem_cons_self) hd
    exact ⟨hds, rfl, _, _, rfl, hdigit, fun hc => absurd hc hzero⟩

section WholeNumbers

variable {c : Char} {r : List Char}

theorem basePart_of_digit (h : c = '0' → r = []) : basePart (c :: r) = (10, c :: r) := by
  unfold basePart
  split <;> simp_all

theorem hasLeadingZero_of_digit (hc : c.isDigit = true) (h : c = '0' → r = []) :
    hasLeadingZero (c :: r) = false ∧ hasLeadingZero ('-' :: c :: r) = false := by
  have hsign : dropSign (c :: r) = c :: r := by
    unfold dropSign
    split <;> simp_all
  have hzero {cs : List Char} (hcs : dropSign cs = c :: r) : hasLeadingZero cs = false := by
    unfold hasLeadingZero
    rw [hcs]
    split <;> simp_all
  exact ⟨hzero hsign, hzero rfl⟩

theorem readInt?_wholeText {ds : List Nat} {t : List Char} (h : WholeText ds t) :
    readInt? t = some (ofDigits ds : Int) ∧ readInt? ('-' :: t) = some (-(ofDigits ds : Int)) := by
  obtain ⟨hds, ht, c, r, hcons, hc, hr⟩ := exists_wholeText_cons h
  have hdigits : readDigits? 10 (c :: r) = some (ofDigits ds) := by
    rw [← hcons, ht, readDigits?_digitsText hds]
  obtain ⟨hzero, hzero'⟩ := hasLeadingZero_of_digit hc hr
  rw [hcons]
  constructor
  · -- The first digit is no sign.
    have hne (x : Char) (hx : x.isDigit = false) : ∀ rest, c :: r = x :: rest → False := by
      rintro rest heq
      obtain ⟨rfl, -⟩ := List.cons.inj heq
      exact nomatch hc.symm.trans hx
    rw [readInt?, hzero]
    · simp [basePart_of_digit hr, hdigits]
    · exact hne '-' (by decide)
    · exact hne '+' (by decide)
  · rw [readInt?, hzero']
    simp [basePart_of_digit hr, hdigits]

theorem readInt?_renderInt (n : Int) : readInt? (renderInt n) = some n := by
  obtain ⟨ds, htext, hvalue⟩ := exists_wholeText n.natAbs
  obtain ⟨hplus, hminus⟩ := readInt?_wholeText htext
  rw [renderInt]
  split
  · rw [hminus, hvalue]
    congr 1
    omega
  · rw [hplus, hvalue]
    congr 1
    omega

/-- An integer of 64 bits in decimal digits stands for itself. -/
theorem plainContent?_renderInt {n : Int} (h : -2 ^ 63 ≤ n ∧ n ≤ 2 ^ 64 - 1) :
    plainContent? (String.ofList (renderInt n)) = some (.number (.int n)) := by
  have hfits : wholeNumber (renderInt n) = .fits n := by
    have hrange : Int64.minValue.toInt ≤ n ∧ n < UInt64.size := by
      have hmin : Int64.minValue.toInt = -2 ^ 63 := by decide
      have hsize : (UInt64.size : Int) = 2 ^ 64 := by decide
      rw [hmin, hsize]
      omega
    rw [wholeNumber, readInt?_renderInt]
    simp only [hrange, and_self, if_true]
  -- The text begins with a digit or a hyphen, as no word with a meaning does.
  obtain ⟨c, r, hcons, hc⟩ : ∃ c r, renderInt n = c :: r ∧ (c.isDigit = true ∨ c = '-') := by
    obtain ⟨ds, htext, -⟩ := exists_wholeText n.natAbs
    obtain ⟨-, -, c, r, hcons, hc, -⟩ := exists_wholeText_cons htext
    rw [renderInt]
    split
    · exact ⟨_, _, rfl, .inr rfl⟩
    · exact ⟨c, r, hcons, .inl hc⟩
  have hword (w : String) (hw : ∀ x, w.toList.head? = some x → x.isDigit = false ∧ x ≠ '-') :
      String.ofList (renderInt n) ≠ w := by
    rintro rfl
    obtain ⟨hdigit, hhyphen⟩ := hw c (by rw [String.toList_ofList, hcons]; rfl)
    rcases hc with hc | hc
    · exact Bool.false_ne_true (hdigit.symm.trans hc)
    · exact hhyphen hc
  -- These are all the words that stand for something other than a number or themselves.
  have hwords : ∀ w ∈ ["null", "Null", "NULL", "~", "true", "True", "TRUE", "false", "False",
      "FALSE"], String.ofList (renderInt n) ≠ w := by
    intro w hw
    refine hword w ?_
    fin_cases hw <;> simp
  simp only [List.forall_mem_cons] at hwords
  have hempty : (String.ofList (renderInt n)).isEmpty = false := by
    simp [hcons]
  have hnull : isNull (String.ofList (renderInt n)) = false := by
    simp [isNull, hwords]
  have hbool : readBool? (String.ofList (renderInt n)) = none := by
    simp [readBool?, hwords]
  simp only [plainContent?, hempty, hnull, hbool, String.toList_ofList, hfits, Bool.or_self,
    Bool.false_eq_true, if_false]

end WholeNumbers

/-! ## Contents -/

mutual

/-- The content of the node of a value is that of the value. -/
theorem expand_node (ts : Targets) {depth : Nat} {j : Json} (hi : j.Integral)
    (hd : j.nesting ≤ depth) : expand ts .asText depth j.node = pure (Content.ofJson j) := by
  cases j with
  | null => exact expand_scalar ..
  | bool b => cases b <;> exact expand_scalar ..
  | string s => exact expand_scalar ..
  | number n => cases n with
    | int n =>
      rw [node, expand_scalar]
      show liftM (plainContent? (String.ofList (renderInt n))) = _
      rw [plainContent?_renderInt hi]
      rfl
    | float x => exact absurd hi id
  | array items =>
    obtain ⟨depth, rfl⟩ := Nat.exists_eq_add_of_le' (Nat.le_trans (Nat.le_add_left 1 _) hd)
    rw [node, expand_sequence none _ rfl, expand_itemNodes ts hi (Nat.le_of_add_le_add_right hd)]
    rfl
  | object members =>
    obtain ⟨depth, rfl⟩ := Nat.exists_eq_add_of_le' (Nat.le_trans (Nat.le_add_left 1 _) hd)
    rw [node, expand_mapping none _ rfl, expand_memberNodes ts hi (Nat.le_of_add_le_add_right hd)]
    rfl

theorem expand_itemNodes (ts : Targets) {depth : Nat} {items : List Json} (hi : IntegralItems items)
    (hd : nestingOfItems items ≤ depth) :
    (itemNodes items).mapM (expand ts .asText depth) = pure (Content.ofItems items) := by
  cases items with
  | nil => rfl
  | cons j rest =>
    obtain ⟨hj, hrest⟩ := Nat.max_le.1 hd
    rw [itemNodes, List.mapM_cons, expand_node ts hi.1 hj, expand_itemNodes ts hi.2 hrest]
    rfl

theorem expand_memberNodes (ts : Targets) {depth : Nat} {members : List (String × Json)}
    (hi : IntegralMembers members) (hd : nestingOfMembers members ≤ depth) :
    (memberNodes members).mapM (expandMember ts .asText depth) =
      pure (Content.ofMembers members) := by
  cases members with
  | nil => rfl
  | cons m rest =>
    obtain ⟨hj, hrest⟩ := Nat.max_le.1 hd
    rw [memberNodes, List.mapM_cons, expandMember, expand_node ts hi.1 hj,
      expand_memberNodes ts hi.2 hrest]
    rfl

end

end TokenAtlas.Json
