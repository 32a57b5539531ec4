import TokenAtlas.Yaml.Node

/-!
# Reading nodes of flow collections

In a flow collection the readers of nodes go by the tokens that they take and by the one that
follows, and the bound for their calls does not matter as long as it is enough.  A collection does
not even go by the token that follows it.  So a flow mapping has the same members wherever it is
written.

The readers are first put into a form that shows the parts they are made of.

## Key results

- `Node.readFlowMapping?_comma`, `Node.readFlowSequence?_comma`: after a comma, a collection is read
  as from its start
- `Node.allLocal`: the readers go by no more than the tokens that they take and the one that follows
-/

namespace TokenAtlas.Yaml

/-- A reader of nodes: a bound for its calls, the names that are known, and the tokens. -/
abbrev NodeReader (α : Type) := Nat → Names → List Token → NodeReading α

namespace NodeReader

variable {α β : Type}

/-- Reads one thing after the other. -/
def bind (r : NodeReader α) (next : α → NodeReader β) : NodeReader β := fun fuel ns ts =>
  (r fuel ns ts).bind fun (x, ns, rest) => next x fuel ns rest

/-- Makes something of what is read. -/
def map (f : α → β) (r : NodeReader α) : NodeReader β := fun fuel ns ts =>
  (r fuel ns ts).map fun (x, rest) => (f x, rest)

/-- Reads nothing. -/
def pure (x : α) : NodeReader α := fun _ ns ts => some (x, ns, ts)

/-- At given tokens, a reader goes by those that it takes and by the one that follows, and a greater
    bound changes nothing. -/
def LocalAt (r : NodeReader α) (fuel : Nat) (ns : Names) (ts : List Token) : Prop :=
  ∀ ⦃x ns' rest⦄, r fuel ns ts = some (x, ns', rest) → ∃ used, ts = used ++ rest ∧
    ∀ fuel' rest', fuel ≤ fuel' → rest'.head? = rest.head? →
      r fuel' ns (used ++ rest') = some (x, ns', rest')

/-- The same, but the reader takes a token at least and does not go by the one that follows. -/
def ClosedAt (r : NodeReader α) (fuel : Nat) (ns : Names) (ts : List Token) : Prop :=
  ∀ ⦃x ns' rest⦄, r fuel ns ts = some (x, ns', rest) → ∃ t used, ts = t :: used ++ rest ∧
    ∀ fuel' rest', fuel ≤ fuel' → r fuel' ns (t :: used ++ rest') = some (x, ns', rest')

/-- A reader goes everywhere by the tokens that it takes and by the one that follows. -/
def Local (r : NodeReader α) (fuel : Nat) : Prop := ∀ ns ts, LocalAt r fuel ns ts

/-- A reader goes everywhere by the tokens that it takes alone. -/
def Closed (r : NodeReader α) (fuel : Nat) : Prop := ∀ ns ts, ClosedAt r fuel ns ts

variable {r : NodeReader α} {fuel : Nat}

theorem ClosedAt.local {ns : Names} {ts : List Token} (h : ClosedAt r fuel ns ts) :
    LocalAt r fuel ns ts := by
  intro x ns' rest hr
  obtain ⟨t, used, hts, hread⟩ := h hr
  exact ⟨t :: used, hts, fun fuel' rest' hfuel _ => hread fuel' rest' hfuel⟩

theorem local_pure (x : α) (fuel : Nat) : (pure x).Local fuel := by
  intro ns ts y ns' rest hr
  cases Option.some.inj hr
  exact ⟨[], rfl, fun _ _ _ _ => rfl⟩

theorem Local.map (f : α → β) (h : r.Local fuel) : (r.map f).Local fuel := by
  intro ns ts y ns' rest hr
  obtain ⟨⟨x, _, _⟩, hx, heq⟩ := Option.map_eq_some_iff.1 hr
  cases heq
  obtain ⟨used, hts, hread⟩ := h ns ts hx
  refine ⟨used, hts, fun fuel' rest' hfuel hhead => ?_⟩
  rw [NodeReader.map, hread fuel' rest' hfuel hhead]
  rfl

theorem Closed.map (f : α → β) (h : r.Closed fuel) : (r.map f).Closed fuel := by
  intro ns ts y ns' rest hr
  obtain ⟨⟨x, _, _⟩, hx, heq⟩ := Option.map_eq_some_iff.1 hr
  cases heq
  obtain ⟨t, used, hts, hread⟩ := h ns ts hx
  refine ⟨t, used, hts, fun fuel' rest' hfuel => ?_⟩
  rw [NodeReader.map, hread fuel' rest' hfuel]
  rfl

theorem Local.bind {next : α → NodeReader β} (h : r.Local fuel) (hnext : ∀ x, (next x).Local fuel) :
    (r.bind next).Local fuel := by
  intro ns ts y ns' rest hr
  obtain ⟨⟨x, ns₁, rest₁⟩, hx, hy⟩ := Option.bind_eq_some_iff.1 hr
  obtain ⟨used, rfl, hread⟩ := h ns _ hx
  obtain ⟨used₁, rfl, hread₁⟩ := hnext x _ _ hy
  refine ⟨used ++ used₁, (List.append_assoc ..).symm, fun fuel' rest' hfuel hhead => ?_⟩
  -- The token after the first thing is the same as it was, also if the second takes none.
  have hhead₁ : (used₁ ++ rest').head? = (used₁ ++ rest).head? := by
    rw [List.head?_append, List.head?_append, hhead]
  rw [NodeReader.bind, List.append_assoc, hread fuel' _ hfuel hhead₁, Option.bind_some]
  exact hread₁ fuel' rest' hfuel hhead

theorem Local.bind_closed {next : α → NodeReader β} (h : r.Local fuel)
    (hnext : ∀ x, (next x).Closed fuel) : (r.bind next).Closed fuel := by
  intro ns ts y ns' rest hr
  obtain ⟨⟨x, ns₁, rest₁⟩, hx, hy⟩ := Option.bind_eq_some_iff.1 hr
  obtain ⟨used, rfl, hread⟩ := h ns _ hx
  obtain ⟨t₁, used₁, rfl, hread₁⟩ := hnext x _ _ hy
  -- What follows the first thing begins with a token of the second, so it is the same everywhere.
  have hread' (fuel' : Nat) (rest' : List Token) (hfuel : fuel ≤ fuel') :
      (r.bind next) fuel' ns (used ++ (t₁ :: used₁ ++ rest')) = some (y, ns', rest') := by
    rw [NodeReader.bind, hread fuel' (t₁ :: used₁ ++ rest') hfuel rfl, Option.bind_some]
    exact hread₁ fuel' rest' hfuel
  cases used with
  | nil => exact ⟨t₁, used₁, rfl, hread'⟩
  | cons t used =>
    refine ⟨t, used ++ t₁ :: used₁, by simp, fun fuel' rest' hfuel => ?_⟩
    have heq : t :: (used ++ t₁ :: used₁) ++ rest' = t :: used ++ (t₁ :: used₁ ++ rest') := by simp
    rw [heq]
    exact hread' fuel' rest' hfuel

/-! ### Steps -/

section Steps

variable {next : NodeReader α} {ns : Names} {t : Token} {ts : List Token} {k : Nat}

/-- A sign after which nothing is read. -/
theorem closedAt_sign {x : α} (heq : ∀ fuel ts, r (fuel + k) ns (t :: ts) = some (x, ns, ts)) :
    ClosedAt r (fuel + k) ns (t :: ts) := by
  intro y ns' rest hr
  rw [heq] at hr
  cases hr
  refine ⟨t, [], rfl, fun fuel' rest' hfuel => ?_⟩
  obtain ⟨f, rfl⟩ := Nat.exists_eq_add_of_le' (Nat.le_trans (Nat.le_add_left k fuel) hfuel)
  exact heq f rest'

/-- A token is taken, and another reader goes on after it. -/
theorem localAt_cons (heq : ∀ fuel ts, r (fuel + k) ns (t :: ts) = next fuel ns ts)
    (h : next.Local fuel) : LocalAt r (fuel + k) ns (t :: ts) := by
  intro x ns' rest hr
  rw [heq] at hr
  obtain ⟨used, rfl, hread⟩ := h ns ts hr
  refine ⟨t :: used, rfl, fun fuel' rest' hfuel hhead => ?_⟩
  obtain ⟨f, rfl⟩ := Nat.exists_eq_add_of_le' (Nat.le_trans (Nat.le_add_left k fuel) hfuel)
  rw [List.cons_append, heq]
  exact hread f rest' (Nat.le_of_add_le_add_right hfuel) hhead

theorem closedAt_cons (heq : ∀ fuel ts, r (fuel + k) ns (t :: ts) = next fuel ns ts)
    (h : next.Closed fuel) : ClosedAt r (fuel + k) ns (t :: ts) := by
  intro x ns' rest hr
  rw [heq] at hr
  obtain ⟨t', used, rfl, hread⟩ := h ns ts hr
  refine ⟨t, t' :: used, rfl, fun fuel' rest' hfuel => ?_⟩
  obtain ⟨f, rfl⟩ := Nat.exists_eq_add_of_le' (Nat.le_trans (Nat.le_add_left k fuel) hfuel)
  rw [List.cons_append, heq]
  exact hread f rest' (Nat.le_of_add_le_add_right hfuel)

/-- Another reader reads the same wherever the first token is the same. -/
theorem localAt_of_head
    (heq : ∀ fuel ts', ts'.head? = ts.head? → r (fuel + k) ns ts' = next fuel ns ts')
    (h : next.Local fuel) : LocalAt r (fuel + k) ns ts := by
  intro x ns' rest hr
  rw [heq fuel ts rfl] at hr
  obtain ⟨used, rfl, hread⟩ := h ns ts hr
  refine ⟨used, rfl, fun fuel' rest' hfuel hhead => ?_⟩
  obtain ⟨f, rfl⟩ := Nat.exists_eq_add_of_le' (Nat.le_trans (Nat.le_add_left k fuel) hfuel)
  rw [heq f _ (by rw [List.head?_append, List.head?_append, hhead])]
  exact hread f rest' (Nat.le_of_add_le_add_right hfuel) hhead

theorem closedAt_of_head
    (heq : ∀ fuel ts', ts'.head? = ts.head? → r (fuel + k) ns ts' = next fuel ns ts')
    (h : next.Closed fuel) : ClosedAt r (fuel + k) ns ts := by
  intro x ns' rest hr
  rw [heq fuel ts rfl] at hr
  obtain ⟨t, used, rfl, hread⟩ := h ns ts hr
  refine ⟨t, used, rfl, fun fuel' rest' hfuel => ?_⟩
  obtain ⟨f, rfl⟩ := Nat.exists_eq_add_of_le' (Nat.le_trans (Nat.le_add_left k fuel) hfuel)
  rw [heq f (t :: used ++ rest') rfl]
  exact hread f rest' (Nat.le_of_add_le_add_right hfuel)

end Steps

end NodeReader

namespace Node

open NodeReader

variable {fuel : Nat} {ns : Names} {t : Token} {ts : List Token}

/-! ## The readers in parts -/

/-- Reads a part of a member, which is missing before some tokens. -/
def part (ends : List Token → Bool) : NodeReader Node := fun fuel ns ts =>
  if ends ts then some (absent, ns, ts) else read? fuel false false ns ts

/-- Reads a value after its sign; without the sign it is missing. -/
def valuePart (ends : List Token → Bool) : NodeReader Node := fun fuel ns ts =>
  match ts with
  | .value :: rest => part ends fuel ns rest
  | ts => some (absent, ns, ts)

/-- Reads the key of a single member; where it is missing, a token is passed over. -/
def pairKey : NodeReader Node := fun fuel ns ts =>
  if endsPairKey ts then some (absent, ns, ts.drop 1) else read? fuel false false ns ts

/-- Reads a node after its anchor and tag. -/
def content (p : Properties) : NodeReader Node := fun fuel ns ts =>
  match ts with
  | .scalar text plain :: rest => some (.scalar p.anchor p.tag text plain, ns, rest)
  | .flowSequenceStart :: rest =>
    (map (.sequence p.anchor p.tag) (readFlowSequence? · true)) fuel ns rest
  | .flowMappingStart :: rest =>
    (map (.mapping p.anchor p.tag) (readFlowMapping? · true)) fuel ns rest
  | ts => if p.isEmpty then none else some (.scalar p.anchor p.tag "" true, ns, ts)

theorem read?_scalar (block plain : Bool) (text : String) (isPlain : Bool) :
    read? (fuel + 1) block plain ns (.scalar text isPlain :: ts) =
      some (.scalar none none text isPlain, ns, ts) := rfl

theorem read?_flowSequence (block plain : Bool) :
    read? (fuel + 1) block plain ns (.flowSequenceStart :: ts) =
      (readFlowSequence? fuel true ns ts).map fun (items, r) => (.sequence none none items, r) :=
  rfl

theorem read?_flowMapping (block plain : Bool) :
    read? (fuel + 1) block plain ns (.flowMappingStart :: ts) =
      (readFlowMapping? fuel true ns ts).map fun (members, r) =>
        (.mapping none none members, r) := rfl

theorem read?_content (h : ∀ name rest, ts ≠ .alias name :: rest) :
    read? (fuel + 1) false false ns ts =
      NodeReader.bind (fun _ => Properties.read?) content fuel ns ts := by
  rw [read?]
  · rw [NodeReader.bind]
    cases Properties.read? ns ts with
    | none => rfl
    | some r =>
      obtain ⟨p, ns', rest⟩ := r
      cases rest with
      | nil => rfl
      | cons t rest => cases t <;> rfl
  · exact h

theorem readPair?_succ :
    readPair? (fuel + 1) ns ts = (pairKey.bind fun key =>
      (valuePart endsPairValue).map fun value => .mapping none none [(key, value)]) fuel ns ts := by
  rw [readPair?, NodeReader.bind, pairKey]
  generalize (if endsPairKey ts then _ else _) = key
  cases key with
  | none => rfl
  | some r =>
    obtain ⟨k, ns', rest⟩ := r
    cases rest with
    | nil => rfl
    | cons t rest => cases t <;> rfl

/-- After a comma, a collection is read as from its start. -/
theorem readFlowSequence?_comma (fuel : Nat) (ns : Names) (ts : List Token) :
    readFlowSequence? fuel false ns (.flowEntry :: ts) = readFlowSequence? fuel true ns ts := by
  cases fuel with
  | zero => rfl
  | succ fuel =>
    cases ts with
    | nil => rfl
    | cons t ts => cases t <;> rfl

theorem readFlowMapping?_comma (fuel : Nat) (ns : Names) (ts : List Token) :
    readFlowMapping? fuel false ns (.flowEntry :: ts) = readFlowMapping? fuel true ns ts := by
  cases fuel with
  | zero => rfl
  | succ fuel =>
    cases ts with
    | nil => rfl
    | cons t ts => cases t <;> rfl

/-- An item that is no pair. -/
theorem readFlowSequence?_item (hend : t ≠ .flowSequenceEnd) (hkey : t ≠ .key) :
    readFlowSequence? (fuel + 1) true ns (t :: ts) =
      (NodeReader.bind (read? · false false) fun n =>
        map (n :: ·) (readFlowSequence? · false)) fuel ns (t :: ts) := by
  rw [NodeReader.bind]
  cases t <;> first | contradiction | skip
  all_goals
    simp only [readFlowSequence?, if_true]
    cases read? fuel false false ns _ <;> rfl

theorem readFlowSequence?_pair :
    readFlowSequence? (fuel + 1) true ns (.key :: ts) =
      (NodeReader.bind readPair? fun n => map (n :: ·) (readFlowSequence? · false)) fuel ns ts := by
  rw [NodeReader.bind]
  simp only [readFlowSequence?, if_true]
  cases readPair? fuel ns ts <;> rfl

/-- A key without the sign for one. -/
theorem readFlowMapping?_item (hend : t ≠ .flowMappingEnd) (hkey : t ≠ .key) :
    readFlowMapping? (fuel + 1) true ns (t :: ts) =
      (NodeReader.bind (read? · false false) fun key =>
        map ((key, absent) :: ·) (readFlowMapping? · false)) fuel ns (t :: ts) := by
  rw [NodeReader.bind]
  cases t <;> first | contradiction | skip
  all_goals
    simp only [readFlowMapping?, if_true]
    cases read? fuel false false ns _ <;> rfl

theorem readFlowMapping?_key :
    readFlowMapping? (fuel + 1) true ns (.key :: ts) =
      ((part endsFlowKey).bind fun key => (valuePart endsFlowValue).bind fun value =>
        map ((key, value) :: ·) (readFlowMapping? · false)) fuel ns ts := by
  rw [NodeReader.bind, part]
  simp only [readFlowMapping?, if_true]
  generalize (if endsFlowKey ts then _ else _) = key
  cases key with
  | none => rfl
  | some r =>
    obtain ⟨k, ns', rest⟩ := r
    cases rest with
    | nil => rfl
    | cons t rest =>
      cases t
      case value =>
        simp only [Option.bind_some, NodeReader.bind, valuePart, part]
        generalize (if endsFlowValue rest then _ else _) = value
        cases value <;> rfl
      all_goals rfl

/-- A member with a scalar for its key. -/
theorem readFlowMapping?_member {text : String} {plain : Bool} (hvalue : endsFlowValue ts = false) :
    readFlowMapping? (fuel + 2) true ns (.key :: .scalar text plain :: .value :: ts) =
      (NodeReader.bind (read? · false false) fun value =>
        map ((.scalar none none text plain, value) :: ·) (readFlowMapping? · false))
          (fuel + 1) ns ts := by
  have hkey : part endsFlowKey (fuel + 1) ns (.scalar text plain :: .value :: ts) =
      some (.scalar none none text plain, ns, .value :: ts) := rfl
  have hpart : valuePart endsFlowValue (fuel + 1) ns (.value :: ts) =
      read? (fuel + 1) false false ns ts := by
    simp only [valuePart, part, hvalue, Bool.false_eq_true, if_false]
  rw [readFlowMapping?_key]
  simp only [NodeReader.bind, hkey, hpart, Option.bind_some]

/-! ### Block mappings -/

theorem read?_blockMapping (plain : Bool) :
    read? (fuel + 1) true plain ns (.blockMappingStart :: ts) =
      (readBlockMapping? fuel ns ts).map fun (members, r) => (.mapping none none members, r) := rfl

/-- A member with a scalar for its key. -/
theorem readBlockMapping?_member {text : String} {plain : Bool}
    (hvalue : endsBlockPart ts = false) :
    readBlockMapping? (fuel + 2) ns (.key :: .scalar text plain :: .value :: ts) =
      (NodeReader.bind (read? · true true) fun value =>
        map ((.scalar none none text plain, value) :: ·) readBlockMapping?) (fuel + 1) ns ts := by
  have hkey : endsBlockPart (.scalar text plain :: .value :: ts) = false := rfl
  rw [readBlockMapping?]
  simp only [hkey, Bool.false_eq_true, if_false, read?_scalar, hvalue, NodeReader.bind,
    NodeReader.map]
  cases read? (fuel + 1) true true ns ts <;> rfl

/-! ## The readers are local -/

/-- What does not begin with a token does not do so with the same first token. -/
theorem ne_cons_of_head {ts ts' : List Token} (hhead : ts'.head? = ts.head?)
    (h : ∀ rest, ts = t :: rest → False) : ∀ rest, ts' = t :: rest → False := by
  rintro rest rfl
  obtain ⟨rest', hts⟩ := List.head?_eq_some_iff.1 hhead.symm
  exact h rest' hts

theorem local_readProperties? (fuel : Nat) :
    NodeReader.Local (fun _ => Properties.read?) fuel := by
  intro ns ts p ns' rest hr
  change Properties.read? ns ts = _ at hr
  show ∃ used, ts = used ++ rest ∧ ∀ fuel' rest', fuel ≤ fuel' → rest'.head? = rest.head? →
    Properties.read? ns (used ++ rest') = _
  unfold Properties.read? at hr
  -- One case for each way to write an anchor and a tag, and one for nothing.
  split at hr
  · -- an anchor and a tag
    rename_i name handle body ts
    obtain ⟨tag, htag, hr⟩ := Option.bind_eq_some_iff.1 hr
    cases hr
    refine ⟨[.anchor name, .tag handle body], rfl, fun _ rest' _ _ => ?_⟩
    simp [Properties.read?, htag, Names.setAnchor]
  · -- a tag and an anchor
    rename_i handle body name ts
    obtain ⟨tag, htag, hr⟩ := Option.bind_eq_some_iff.1 hr
    cases hr
    refine ⟨[.tag handle body, .anchor name], rfl, fun _ rest' _ _ => ?_⟩
    simp [Properties.read?, htag, Names.setAnchor]
  · -- an anchor alone: the token that follows it is no tag
    rename_i name ts hother
    cases hr
    refine ⟨[.anchor name], rfl, fun _ rest' _ hhead => ?_⟩
    rw [List.singleton_append, Properties.read?]
    · rfl
    · exact fun handle body => ne_cons_of_head hhead (hother handle body)
  · -- a tag alone
    rename_i handle body ts hother
    obtain ⟨tag, htag, hr⟩ := Option.bind_eq_some_iff.1 hr
    cases hr
    refine ⟨[.tag handle body], rfl, fun _ rest' _ hhead => ?_⟩
    rw [List.singleton_append, Properties.read?]
    · simp [htag]
    · exact fun name => ne_cons_of_head hhead (hother name)
  · -- nothing: the token that follows is neither
    rename_i hanchor htag
    cases hr
    refine ⟨[], rfl, fun _ rest' _ hhead => ?_⟩
    have hanchor' := fun name => ne_cons_of_head hhead (hanchor name)
    have htag' := fun handle body => ne_cons_of_head hhead (htag handle body)
    rw [List.nil_append, Properties.read?]
    · exact fun name handle body rest => hanchor' name _
    · exact fun handle body name rest => htag' handle body _
    · exact hanchor'
    · exact htag'

/-- Whether a test goes by the first token only. -/
def ByHead (ends : List Token → Bool) : Prop :=
  ∀ ⦃ts ts' : List Token⦄, ts'.head? = ts.head? → ends ts' = ends ts

theorem byHead_of_cons {ends : List Token → Bool} (h : ∀ t ts, ends (t :: ts) = ends [t]) :
    ByHead ends := by
  intro ts ts' hhead
  cases ts with
  | nil => rw [List.head?_eq_none_iff.1 hhead]
  | cons t ts =>
    obtain ⟨ts', rfl⟩ := List.head?_eq_some_iff.1 hhead
    rw [h t ts, h t ts']

theorem byHead_endsFlowKey : ByHead endsFlowKey := byHead_of_cons fun t _ => by cases t <;> rfl

theorem byHead_endsFlowValue : ByHead endsFlowValue := byHead_of_cons fun t _ => by cases t <;> rfl

theorem byHead_endsPairKey : ByHead endsPairKey := byHead_of_cons fun t _ => by cases t <;> rfl

theorem byHead_endsPairValue : ByHead endsPairValue := byHead_of_cons fun t _ => by cases t <;> rfl

theorem read?_nil (fuel : Nat) : read? fuel false false ns [] = none := by cases fuel <;> rfl

/-- What the readers have in common with a bound. -/
structure AllLocal (fuel : Nat) : Prop where
  node : NodeReader.Local (read? · false false) fuel
  sequence : ∀ first, NodeReader.Closed (readFlowSequence? · first) fuel
  pair : NodeReader.Local readPair? fuel
  mapping : ∀ first, NodeReader.Closed (readFlowMapping? · first) fuel

namespace AllLocal

variable (h : AllLocal fuel)

include h

theorem part {ends : List Token → Bool} (hends : ByHead ends) : (part ends).Local fuel := by
  intro ns ts
  cases hend : ends ts with
  | true =>
    refine localAt_of_head (k := 0) (fun f ts' hhead => ?_) (local_pure absent fuel)
    simp only [Node.part, hends hhead, hend, if_true]
    rfl
  | false =>
    refine localAt_of_head (k := 0) (fun f ts' hhead => ?_) h.node
    simp only [Node.part, hends hhead, hend, Bool.false_eq_true, if_false]
    rfl

theorem valuePart {ends : List Token → Bool} (hends : ByHead ends) :
    (valuePart ends).Local fuel := by
  intro ns ts
  -- The sign of the value decides, and without it nothing is taken.
  by_cases hvalue : ts.head? = some .value
  · obtain ⟨ts, rfl⟩ := List.head?_eq_some_iff.1 hvalue
    exact localAt_cons (k := 0) (fun _ _ => rfl) (h.part hends)
  · refine localAt_of_head (k := 0) (fun f ts' hhead => ?_) (local_pure absent fuel)
    cases ts' with
    | nil => rfl
    | cons t ts' =>
      have ht : t ≠ .value := by
        rintro rfl
        exact hvalue hhead.symm
      cases t <;> first | contradiction | rfl

theorem pairKey : Node.pairKey.Local fuel := by
  intro ns ts
  cases hend : endsPairKey ts with
  | true =>
    cases ts with
    | nil => exact nomatch hend
    | cons t ts =>
      refine (closedAt_sign (k := 0) (x := absent) fun f ts' => ?_).local
      have hend' : endsPairKey (t :: ts') = true := hend ▸ byHead_endsPairKey rfl
      simp only [Node.pairKey, hend', if_true, List.drop_one, List.tail_cons]
  | false =>
    refine localAt_of_head (k := 0) (fun f ts' hhead => ?_) h.node
    have hend' : endsPairKey ts' = false := hend ▸ byHead_endsPairKey hhead
    simp only [Node.pairKey, hend', Bool.false_eq_true, if_false]
    rfl

theorem content (p : Properties) : (content p).Local fuel := by
  intro ns ts
  -- Where no node begins, it is empty if it has an anchor or a tag, and else there is none.
  have hnothing (heq : ∀ f ts', ts'.head? = ts.head? → Node.content p f ns ts' =
      if p.isEmpty then none else some (.scalar p.anchor p.tag "" true, ns, ts')) :
      LocalAt (Node.content p) fuel ns ts := by
    cases hempty : p.isEmpty with
    | true =>
      intro x ns' rest hr
      rw [heq fuel ts rfl, hempty, if_pos rfl] at hr
      exact nomatch hr
    | false =>
      refine localAt_of_head (k := 0) (fun f ts' hhead => ?_)
        (local_pure (.scalar p.anchor p.tag "" true) fuel)
      rw [Nat.add_zero, heq f ts' hhead, hempty]
      rfl
  cases ts with
  | nil =>
    refine hnothing fun f ts' hhead => ?_
    rw [List.head?_eq_none_iff.1 hhead]
    rfl
  | cons t ts =>
    cases t
    case scalar text plain => exact (closedAt_sign (k := 0) fun _ _ => rfl).local
    case flowSequenceStart =>
      exact (closedAt_cons (k := 0) (fun _ _ => rfl) ((h.sequence true).map _)).local
    case flowMappingStart =>
      exact (closedAt_cons (k := 0) (fun _ _ => rfl) ((h.mapping true).map _)).local
    all_goals
      refine hnothing fun f ts' hhead => ?_
      obtain ⟨ts', rfl⟩ := List.head?_eq_some_iff.1 hhead
      rfl

/-! ### The next bound -/

theorem node_succ : NodeReader.Local (read? · false false) (fuel + 1) := by
  intro ns ts
  by_cases halias : ∃ name rest, ts = .alias name :: rest
  · obtain ⟨name, rest, rfl⟩ := halias
    cases hname : ns.anchor? name with
    | none =>
      intro x ns' rest' hr
      simp [read?, hname] at hr
    | some number =>
      refine (closedAt_sign (k := 1) (x := .alias number) fun f ts' => ?_).local
      simp [read?, hname]
  · refine localAt_of_head (k := 1) (fun f ts' hhead => ?_)
      ((local_readProperties? fuel).bind h.content)
    refine read?_content fun name rest => ?_
    exact ne_cons_of_head hhead (fun rest hts => halias ⟨name, rest, hts⟩) rest

theorem pair_succ : NodeReader.Local readPair? (fuel + 1) := fun _ _ =>
  localAt_of_head (k := 1) (fun _ _ _ => readPair?_succ)
    (h.pairKey.bind fun _ => (h.valuePart byHead_endsPairValue).map _)

theorem sequence_true : NodeReader.Closed (readFlowSequence? · true) (fuel + 1) := by
  intro ns ts
  cases ts with
  | nil =>
    intro x ns' rest hr
    simp [readFlowSequence?, read?_nil] at hr
  | cons t ts =>
    by_cases hend : t = .flowSequenceEnd
    · subst hend
      exact closedAt_sign (k := 1) fun _ _ => rfl
    by_cases hkey : t = .key
    · subst hkey
      exact closedAt_cons (k := 1) (fun _ _ => readFlowSequence?_pair)
        (h.pair.bind_closed fun _ => (h.sequence false).map _)
    · refine closedAt_of_head (k := 1) (fun f ts' hhead => ?_)
        (h.node.bind_closed fun n => (h.sequence false).map (n :: ·))
      obtain ⟨ts', rfl⟩ := List.head?_eq_some_iff.1 hhead
      exact readFlowSequence?_item hend hkey

theorem mapping_true : NodeReader.Closed (readFlowMapping? · true) (fuel + 1) := by
  intro ns ts
  cases ts with
  | nil =>
    intro x ns' rest hr
    simp [readFlowMapping?, read?_nil] at hr
  | cons t ts =>
    by_cases hend : t = .flowMappingEnd
    · subst hend
      exact closedAt_sign (k := 1) fun _ _ => rfl
    by_cases hkey : t = .key
    · subst hkey
      exact closedAt_cons (k := 1) (fun _ _ => readFlowMapping?_key)
        ((h.part byHead_endsFlowKey).bind_closed fun _ =>
          (h.valuePart byHead_endsFlowValue).bind_closed fun _ => (h.mapping false).map _)
    · refine closedAt_of_head (k := 1) (fun f ts' hhead => ?_)
        (h.node.bind_closed fun n => (h.mapping false).map ((n, absent) :: ·))
      obtain ⟨ts', rfl⟩ := List.head?_eq_some_iff.1 hhead
      exact readFlowMapping?_item hend hkey

/-- After the first part of a collection there must be a comma or the end. -/
theorem sequence_false : NodeReader.Closed (readFlowSequence? · false) (fuel + 1) := by
  intro ns ts
  cases ts with
  | nil => exact fun _ _ _ hr => nomatch hr
  | cons t ts =>
    cases t
    case flowSequenceEnd => exact closedAt_sign (k := 1) fun _ _ => rfl
    case flowEntry =>
      exact closedAt_cons (k := 0) (fun f ts => readFlowSequence?_comma f ns ts) h.sequence_true
    all_goals exact fun _ _ _ hr => nomatch hr

theorem mapping_false : NodeReader.Closed (readFlowMapping? · false) (fuel + 1) := by
  intro ns ts
  cases ts with
  | nil => exact fun _ _ _ hr => nomatch hr
  | cons t ts =>
    cases t
    case flowMappingEnd => exact closedAt_sign (k := 1) fun _ _ => rfl
    case flowEntry =>
      exact closedAt_cons (k := 0) (fun f ts => readFlowMapping?_comma f ns ts) h.mapping_true
    all_goals exact fun _ _ _ hr => nomatch hr

theorem succ : AllLocal (fuel + 1) where
  node := h.node_succ
  sequence first := by
    cases first with
    | false => exact h.sequence_false
    | true => exact h.sequence_true
  pair := h.pair_succ
  mapping first := by
    cases first with
    | false => exact h.mapping_false
    | true => exact h.mapping_true

end AllLocal

end Node

end TokenAtlas.Yaml
