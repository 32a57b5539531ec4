import TokenAtlas.Definition
import TokenAtlas.Proofs.Fields

/-!
# Definitions from contents

A definition that is written as a mapping is read from the values under three names.  Where these
stand does not matter, nor what else stands between them; but under each of them there must be just
one value.

## Key results

- `collect?_keyed`: the name and the third value are found if each stands there once
- `ofContent?_mapping`: what definition a mapping is
- `ofContent?_list`: what definition a list is
-/

namespace TokenAtlas

/-! ## Values under a name -/

section

variable {α β : Type}

/-- The values of the pairs with a name, in their order. -/
def valuesOf (name : String) (pairs : List (String × α)) : List α :=
  (pairs.filter (·.1 == name)).map (·.2)

@[simp] theorem valuesOf_nil (name : String) : valuesOf name ([] : List (String × α)) = [] := rfl

theorem valuesOf_cons (name : String) (p : String × α) (rest : List (String × α)) :
    valuesOf name (p :: rest) =
      if p.1 = name then p.2 :: valuesOf name rest else valuesOf name rest := by
  by_cases h : p.1 = name <;> simp [valuesOf, h]

/-- Pairs with another name do not count. -/
theorem valuesOf_filter_ne {name other : String} (h : name ≠ other) (pairs : List (String × α)) :
    valuesOf name (pairs.filter (!·.1 == other)) = valuesOf name pairs := by
  induction pairs with
  | nil => rfl
  | cons p rest ih =>
    by_cases hp : p.1 = other
    · simp [hp, valuesOf_cons, h.symm, ih]
    · simp [hp, valuesOf_cons, ih]

/-- The order of the pairs only decides the order of the values. -/
theorem valuesOf_perm (name : String) {xs ys : List (String × α)} (h : xs.Perm ys) :
    (valuesOf name xs).Perm (valuesOf name ys) :=
  (h.filter _).map _

theorem valuesOf_eq_nil {name : String} {pairs : List (String × α)} (h : ∀ p ∈ pairs, p.1 ≠ name) :
    valuesOf name pairs = [] := by
  have hfilter : pairs.filter (·.1 == name) = [] :=
    List.filter_eq_nil_iff.2 fun p hp => by simpa using h p hp
  rw [valuesOf, hfilter, List.map_nil]

theorem mem_valuesOf {name : String} {v : α} {pairs : List (String × α)} (h : (name, v) ∈ pairs) :
    v ∈ valuesOf name pairs :=
  List.mem_map.2 ⟨(name, v), by simp [h], rfl⟩

/-- Values may be changed before the ones under a name are chosen, or after. -/
theorem valuesOf_mapM {name : String} {f : α → Option β} {pairs : List (String × α)}
    {changed : List (String × β)}
    (h : pairs.mapM (fun p => (f p.2).map (p.1, ·)) = some changed) :
    (valuesOf name pairs).mapM f = some (valuesOf name changed) := by
  induction pairs generalizing changed with
  | nil =>
    obtain rfl : [] = changed := Option.some.inj h
    rfl
  | cons p rest ih =>
    simp only [List.mapM_cons, Option.bind_eq_bind, Option.bind_eq_some_iff, Option.map_eq_some_iff,
      Option.pure_def, Option.some.injEq] at h
    obtain ⟨q, ⟨v, hv, rfl⟩, rest', hrest, rfl⟩ := h
    rw [valuesOf_cons, valuesOf_cons]
    split
    · simp [hv, ih hrest]
    · exact ih hrest

end

namespace Definition

/-! ## Words -/

/-- The kind of maps that a definition is about. -/
def kind : Definition → MapKind
  | .patterns _ _ => .patterns
  | .characters _ _ => .characters
  | .macros _ _ => .macros

theorem kindOfWord?_eq_some_iff {word : String} {k : MapKind} :
    kindOfWord? word = some k ↔ word = k.name := by
  constructor
  · intro h
    unfold kindOfWord? at h
    split at h
    · obtain rfl := Option.some.inj h
      rfl
    · obtain rfl := Option.some.inj h
      rfl
    · obtain rfl := Option.some.inj h
      rfl
    · cases h
  · rintro rfl
    cases k <;> rfl

theorem lastMember_ne (k : MapKind) : lastMember k ≠ "kind" ∧ lastMember k ≠ "name" := by
  cases k <;> decide

theorem toName?_eq_some_iff {c : Content} {s : String} : c.toName? = some s ↔ c = .text s := by
  cases c <;> simp [Content.toName?]

/-- The word of a kind stands for no other kind. -/
theorem eq_of_kindName {k k' : MapKind} (h : k.name = k'.name) : k = k' :=
  Option.some.inj ((kindOfWord?_eq_some_iff.2 h).symm.trans (kindOfWord?_eq_some_iff.2 rfl)).symm

/-! ## Members -/

/-- The three members are there once, wherever they stand among others with other names. -/
theorem valuesOf_of_perm {α : Type} {k : MapKind} {word name last : α}
    {members further : List (String × α)}
    (h : members.Perm (("kind", word) :: ("name", name) :: (lastMember k, last) :: further))
    (hfurther : ∀ m ∈ further, m.1 ≠ "kind" ∧ m.1 ≠ "name" ∧ m.1 ≠ lastMember k) :
    valuesOf "kind" members = [word] ∧ valuesOf "name" members = [name] ∧
      valuesOf (lastMember k) members = [last] := by
  obtain ⟨hkind, hname⟩ := lastMember_ne k
  refine ⟨?_, ?_, ?_⟩
  · have hnil := valuesOf_eq_nil fun m hm => (hfurther m hm).1
    simpa [valuesOf_cons, hkind, hnil] using valuesOf_perm "kind" h
  · have hnil := valuesOf_eq_nil fun m hm => (hfurther m hm).2.1
    simpa [valuesOf_cons, hname, hnil] using valuesOf_perm "name" h
  · have hnil := valuesOf_eq_nil fun m hm => (hfurther m hm).2.2
    simpa [valuesOf_cons, hkind.symm, hname.symm, hnil] using valuesOf_perm (lastMember k) h

/-- Members whose keys are texts. -/
def keyed (members : List (String × Content)) : List (Content × Content) :=
  members.map fun m => (.text m.1, m.2)

/-- The kind is known if it is named once. -/
theorem kindOf?_keyed {members : List (String × Content)} {k : MapKind} :
    kindOf? (keyed members) = some k ↔ valuesOf "kind" members = [.text k.name] := by
  have hfilter : (keyed members).filter (isKindKey ·.1) = keyed (members.filter (·.1 == "kind")) :=
    List.filter_map
  rw [kindOf?, hfilter, valuesOf]
  cases members.filter (·.1 == "kind") with
  | nil => simp [keyed]
  | cons m rest =>
    cases rest with
    | nil => simp [keyed, Option.bind_eq_some_iff, toName?_eq_some_iff, kindOfWord?_eq_some_iff]
    | cons m' rest => simp [keyed]

/-- The name and the third value are found if, with what was found before, each is there once. -/
theorem collect?_keyed {k : MapKind} {found : Option String} {foundLast : Option Content}
    {members : List (String × Content)} {name : String} {last : Content} :
    collect? k found foundLast (keyed members) = some (some name, some last) ↔
      found.toList.map Content.text ++ valuesOf "name" members = [.text name] ∧
      foundLast.toList ++ valuesOf (lastMember k) members = [last] := by
  -- The induction is on the members; what was found before is the invariant.
  induction members generalizing found foundLast with
  | nil => cases found <;> cases foundLast <;> simp [keyed, collect?]
  | cons m rest ih =>
    obtain ⟨key, c⟩ := m
    have hkeyed : keyed ((key, c) :: rest) = (.text key, c) :: keyed rest := rfl
    rw [hkeyed, collect?, valuesOf_cons, valuesOf_cons]
    by_cases hn : key = "name"
    · subst hn
      have hlast : "name" ≠ lastMember k := (lastMember_ne k).2.symm
      cases found with
      | some s => simp [member?]
      | none =>
        cases c with
        | text s => simp [member?, Content.toName?, ih, hlast]
        | _ => simp [member?, Content.toName?]
    · by_cases hl : key = lastMember k
      · subst hl
        cases foundLast with
        | some c' => simp [member?, hn]
        | none => simp [member?, hn, ih]
      · simp [member?, hn, hl, ih]

/-- A mapping is a definition if each of the three members is there once and fits. -/
theorem ofContent?_mapping {members : List (String × Content)} {d : Definition} :
    ofContent? (.mapping (keyed members)) = some d ↔ ∃ k name last,
      valuesOf "kind" members = [.text k.name] ∧ valuesOf "name" members = [.text name] ∧
      valuesOf (lastMember k) members = [last] ∧ make? k name last = some d := by
  have hfilter : (keyed members).filter (!isKindKey ·.1) =
      keyed (members.filter (!·.1 == "kind")) := List.filter_map
  have hcollect (k : MapKind) (name : String) (last : Content) :
      collect? k none none ((keyed members).filter (!isKindKey ·.1)) =
        some (some name, some last) ↔
      valuesOf "name" members = [.text name] ∧ valuesOf (lastMember k) members = [last] := by
    rw [hfilter, collect?_keyed, valuesOf_filter_ne (by decide),
      valuesOf_filter_ne (lastMember_ne k).1]
    rfl
  simp only [ofContent?, ofMembers?, Option.bind_eq_bind, Option.bind_eq_some_iff, kindOf?_keyed]
  constructor
  · -- A definition is only made where both the name and the third value were found.
    rintro ⟨k, hk, ⟨found, foundLast⟩, hfound, hmake⟩
    cases found with
    | none => cases hmake
    | some name =>
      cases foundLast with
      | none => cases hmake
      | some last =>
        obtain ⟨hname, hlast⟩ := (hcollect k name last).1 hfound
        exact ⟨k, name, last, hk, hname, hlast, hmake⟩
  · rintro ⟨k, name, last, hk, hname, hlast, hmake⟩
    exact ⟨k, hk, (some name, some last), (hcollect k name last).2 ⟨hname, hlast⟩, hmake⟩

/-- A mapping of just the three members. -/
theorem ofContent?_members (k : MapKind) (name : String) (last : Content) :
    ofContent? (.mapping (keyed
      [("kind", .text k.name), ("name", .text name), (lastMember k, last)])) =
      make? k name last := by
  have hother := lastMember_ne k
  refine Option.ext fun d => ?_
  rw [ofContent?_mapping]
  constructor
  · -- The word tells the kind, and the kind tells which member is the third.
    rintro ⟨k', name', last', hkind, hname, hlast, hmake⟩
    simp only [valuesOf_cons, valuesOf_nil, String.reduceEq, hother, if_true, if_false,
      List.cons.injEq, Content.text.injEq, and_true] at hkind hname
    obtain rfl := eq_of_kindName hkind
    subst hname
    have hsame := hother.1.symm
    have hsame' := hother.2.symm
    simp only [valuesOf_cons, valuesOf_nil, hsame, hsame', if_true, if_false, List.cons.injEq,
      and_true] at hlast
    rwa [hlast]
  · intro hmake
    refine ⟨k, name, last, ?_, ?_, ?_, hmake⟩ <;>
    · cases k <;> simp [valuesOf_cons, lastMember]

/-- A list is a definition if it holds the three values in their order and they fit. -/
theorem ofContent?_list {items : List Content} {d : Definition} :
    ofContent? (.list items) = some d ↔ ∃ k name last,
      items = [.text k.name, .text name, last] ∧ make? k name last = some d := by
  constructor
  · intro h
    cases items with
    | nil => cases h
    | cons word items =>
      simp only [ofContent?, Option.bind_eq_bind, Option.bind_eq_some_iff, toName?_eq_some_iff,
        kindOfWord?_eq_some_iff] at h
      obtain ⟨k, ⟨_, rfl, rfl⟩, h⟩ := h
      -- Two values must remain after the word.
      unfold ofItems? at h
      split at h
      · rename_i name last
        simp only [Option.bind_eq_bind, Option.bind_eq_some_iff, toName?_eq_some_iff] at h
        obtain ⟨name, rfl, hmake⟩ := h
        exact ⟨k, name, last, rfl, hmake⟩
      · cases h
  · rintro ⟨k, name, last, rfl, hmake⟩
    have hk : kindOfWord? k.name = some k := kindOfWord?_eq_some_iff.2 rfl
    simpa [ofContent?, ofItems?, Content.toName?, hk] using hmake

end Definition

end TokenAtlas
