/-!
# Named values in order

`Fields α` holds values under names: every name at most once, and the names in increasing order of
their text.  That order compares code points, which is also the order of the UTF-8 bytes.

The order is part of the type, so two field lists that answer every look-up alike are equal
(`Fields.ext_get?`).  The bridge lemma is `get?_insert`: the last value written under a name is the
one that is read.
-/

namespace TokenAtlas

universe u v

/-- Values under names, in strictly increasing order of the names. -/
structure Fields (α : Type u) where
  /-- The names with their values. -/
  toList : List (String × α)
  /-- Every name stands before the greater ones, so none is repeated. -/
  sorted : toList.Pairwise (fun a b => a.1 < b.1)

namespace Fields

variable {α : Type u} {β : Type v}

/-- Writes `value` under `name` into an ordered list, in the place of what stood there before. -/
def insertInto (name : String) (value : α) : List (String × α) → List (String × α)
  | [] => [(name, value)]
  | (other, old) :: rest =>
    if name < other then (name, value) :: (other, old) :: rest
    else if name = other then (name, value) :: rest
    else (other, old) :: insertInto name value rest

/-- The first value that stands under `name`. -/
def find (name : String) : List (String × α) → Option α
  | [] => none
  | (other, value) :: rest => if other = name then some value else find name rest

theorem mem_insertInto {name : String} {value : α} {p : String × α} {xs : List (String × α)}
    (h : p ∈ insertInto name value xs) : p = (name, value) ∨ p ∈ xs := by
  induction xs with
  | nil => simpa [insertInto] using h
  | cons x rest ih =>
    unfold insertInto at h
    split at h
    · simpa using h
    · split at h
      · rcases List.mem_cons.1 h with h | h <;> simp [h]
      · rcases List.mem_cons.1 h with h | h
        · simp [h]
        · rcases ih h with h | h <;> simp [h]

/-- Writing keeps the order of the names. -/
theorem sorted_insertInto (name : String) (value : α) {xs : List (String × α)}
    (h : xs.Pairwise (fun a b => a.1 < b.1)) :
    (insertInto name value xs).Pairwise (fun a b => a.1 < b.1) := by
  induction xs with
  | nil => simp [insertInto]
  | cons x rest ih =>
    obtain ⟨hx, hrest⟩ := List.pairwise_cons.1 h
    unfold insertInto
    split
    · -- The name comes before all others.
      rename_i hlt
      refine List.pairwise_cons.2 ⟨fun p hp => ?_, h⟩
      rcases List.mem_cons.1 hp with rfl | hp
      · exact hlt
      · exact String.lt_trans hlt (hx p hp)
    · split
      · -- The first value is replaced.
        rename_i heq
        subst heq
        exact List.pairwise_cons.2 ⟨fun p hp => hx p hp, hrest⟩
      · -- The name goes farther back, and none comes from there that is not greater.
        rename_i hlt hne
        refine List.pairwise_cons.2 ⟨fun p hp => ?_, ih hrest⟩
        rcases mem_insertInto hp with rfl | hp
        · exact Classical.byContradiction fun hnot =>
            hne (String.le_antisymm (String.not_lt.1 hnot) (String.not_lt.1 hlt))
        · exact hx p hp

theorem find_insertInto (name other : String) (value : α) (xs : List (String × α)) :
    find other (insertInto name value xs) =
      if name = other then some value else find other xs := by
  induction xs with
  | nil => simp [insertInto, find]
  | cons x rest ih =>
    unfold insertInto
    split
    · simp [find]
    · split
      · rename_i heq
        by_cases h : name = other <;> simp_all [find]
      · rename_i hne
        by_cases h : x.1 = other
        · have hno : name ≠ other := fun e => hne (e.trans h.symm)
          simp [find, h, hno]
        · simp [find, h, ih]

/-- No field at all. -/
def empty : Fields α := ⟨[], .nil⟩

instance : Inhabited (Fields α) := ⟨empty⟩

/-- Writes a value under a name, in the place of what stood there before. -/
def insert (fs : Fields α) (name : String) (value : α) : Fields α :=
  ⟨insertInto name value fs.toList, sorted_insertInto name value fs.sorted⟩

/-- The value under a name. -/
def get? (fs : Fields α) (name : String) : Option α := find name fs.toList

/-- Whether there is a value under a name. -/
def contains (fs : Fields α) (name : String) : Bool := (fs.get? name).isSome

/-- The names, in increasing order. -/
def names (fs : Fields α) : List String := fs.toList.map (·.1)

/-- The number of fields. -/
def size (fs : Fields α) : Nat := fs.toList.length

/-- Whether there is no field. -/
def isEmpty (fs : Fields α) : Bool := fs.toList.isEmpty

/-- Writes the pairs one after the other, so the last pair with a name decides its value. -/
def ofList (pairs : List (String × α)) : Fields α :=
  pairs.foldl (fun fs p => fs.insert p.1 p.2) empty

/-! ## Look-ups -/

@[simp] theorem get?_empty (name : String) : (empty : Fields α).get? name = none := rfl

/-- What was written last under a name is what is read there, and other names are left alone. -/
theorem get?_insert (fs : Fields α) (name other : String) (value : α) :
    (fs.insert name value).get? other = if name = other then some value else fs.get? other :=
  find_insertInto name other value fs.toList

@[simp] theorem get?_insert_self (fs : Fields α) (name : String) (value : α) :
    (fs.insert name value).get? name = some value := by
  simp [get?_insert]

theorem find_isSome_iff {name : String} {xs : List (String × α)} :
    (find name xs).isSome ↔ name ∈ xs.map (·.1) := by
  induction xs with
  | nil => simp [find]
  | cons x rest ih =>
    by_cases h : x.1 = name
    · simp [find, h]
    · simp [find, h, ih, Ne.symm h]

theorem contains_iff_mem_names {fs : Fields α} {name : String} :
    fs.contains name ↔ name ∈ fs.names :=
  find_isSome_iff

/-- The names are in strictly increasing order. -/
theorem pairwise_names (fs : Fields α) : fs.names.Pairwise (· < ·) := by
  simpa [names, List.pairwise_map] using fs.sorted

/-- No name is repeated. -/
theorem nodup_names (fs : Fields α) : fs.names.Nodup :=
  fs.pairwise_names.imp fun {a b} (h : a < b) (e : a = b) => String.lt_irrefl b (e ▸ h)

@[simp] theorem length_names (fs : Fields α) : fs.names.length = fs.size := by
  simp [names, size]

theorem isEmpty_iff_size_eq_zero (fs : Fields α) : fs.isEmpty ↔ fs.size = 0 := by
  simp [isEmpty, size]

theorem find_eq_some_of_mem {name : String} {value : α} {xs : List (String × α)}
    (hs : xs.Pairwise (fun a b => a.1 < b.1)) (h : (name, value) ∈ xs) :
    find name xs = some value := by
  induction xs with
  | nil => simp at h
  | cons x rest ih =>
    obtain ⟨hx, hrest⟩ := List.pairwise_cons.1 hs
    rcases List.mem_cons.1 h with rfl | h
    · simp [find]
    · have hlt : x.1 < name := hx (name, value) h
      have hne : x.1 ≠ name := fun e => String.lt_irrefl name (e ▸ hlt)
      simp [find, hne, ih hrest h]

theorem mem_of_find_eq_some {name : String} {value : α} {xs : List (String × α)}
    (h : find name xs = some value) : (name, value) ∈ xs := by
  induction xs with
  | nil => simp [find] at h
  | cons x rest ih =>
    by_cases hx : x.1 = name
    · obtain ⟨a, b⟩ := x
      simp_all [find]
    · simp only [find, hx, if_false] at h
      exact List.mem_cons_of_mem _ (ih h)

/-- A field list holds exactly the pairs that its look-ups answer. -/
theorem mem_toList_iff {fs : Fields α} {name : String} {value : α} :
    (name, value) ∈ fs.toList ↔ fs.get? name = some value :=
  ⟨find_eq_some_of_mem fs.sorted, mem_of_find_eq_some⟩

/-! ## Equality -/

theorem eq_of_sorted_of_mem_iff {xs ys : List (String × α)}
    (hx : xs.Pairwise (fun a b => a.1 < b.1)) (hy : ys.Pairwise (fun a b => a.1 < b.1))
    (h : ∀ p, p ∈ xs ↔ p ∈ ys) : xs = ys := by
  induction xs generalizing ys with
  | nil =>
    cases ys with
    | nil => rfl
    | cons y ys => exact absurd ((h y).2 (by simp)) (by simp)
  | cons x xs ih =>
    cases ys with
    | nil => exact absurd ((h x).1 (by simp)) (by simp)
    | cons y ys =>
      obtain ⟨hx₁, hx₂⟩ := List.pairwise_cons.1 hx
      obtain ⟨hy₁, hy₂⟩ := List.pairwise_cons.1 hy
      -- Either first pair would otherwise come after the other.
      have hxy : x = y := by
        rcases List.mem_cons.1 ((h x).1 (by simp)) with e | hxy
        · exact e
        · rcases List.mem_cons.1 ((h y).2 (by simp)) with e | hyx
          · exact e.symm
          · exact absurd (hy₁ x hxy) (String.lt_asymm (hx₁ y hyx))
      subst hxy
      refine congrArg _ (ih hx₂ hy₂ fun p => ⟨fun hp => ?_, fun hp => ?_⟩)
      · rcases List.mem_cons.1 ((h p).1 (List.mem_cons_of_mem _ hp)) with e | hp'
        · exact absurd (hx₁ p hp) (e ▸ String.lt_irrefl _)
        · exact hp'
      · rcases List.mem_cons.1 ((h p).2 (List.mem_cons_of_mem _ hp)) with e | hp'
        · exact absurd (hy₁ p hp) (e ▸ String.lt_irrefl _)
        · exact hp'

/-- Field lists are determined by their look-ups. -/
theorem ext_get? {fs gs : Fields α} (h : ∀ name, fs.get? name = gs.get? name) : fs = gs := by
  obtain ⟨xs, hx⟩ := fs
  obtain ⟨ys, hy⟩ := gs
  have : xs = ys := eq_of_sorted_of_mem_iff hx hy fun p => by
    obtain ⟨name, value⟩ := p
    have hp : find name xs = find name ys := h name
    exact ⟨fun hm => mem_of_find_eq_some (hp.symm.trans (find_eq_some_of_mem hx hm)),
      fun hm => mem_of_find_eq_some (hp.trans (find_eq_some_of_mem hy hm))⟩
  subst this
  rfl

/-- Equality of the pairs, by the equality test that the values bring. -/
instance [BEq α] : BEq (Fields α) := ⟨fun fs gs => fs.toList == gs.toList⟩

end Fields

end TokenAtlas
