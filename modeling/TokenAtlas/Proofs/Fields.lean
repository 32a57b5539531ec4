import TokenAtlas.Fields

/-!
# Field lists from pairs

Pairs are written one after the other, so of the pairs with one name the last one counts.

## Key results

- `Fields.get?_ofList`: a look-up finds the value of the last pair with its name
- `lastValue?_map`, `lastValue?_mapM`: choosing the last value commutes with changing the values
-/

namespace TokenAtlas

universe u v w

variable {α : Type u} {β : Type v}

/-- The value of the last pair with a name. -/
def lastValue? (name : String) (pairs : List (String × α)) : Option α :=
  (pairs.reverse.find? (·.1 == name)).map (·.2)

@[simp] theorem lastValue?_nil (name : String) : lastValue? name ([] : List (String × α)) = none :=
  rfl

/-- A pair counts if no later one has its name. -/
theorem lastValue?_cons (name : String) (p : String × α) (rest : List (String × α)) :
    lastValue? name (p :: rest) =
      (lastValue? name rest).or (if p.1 = name then some p.2 else none) := by
  simp only [lastValue?, List.reverse_cons, List.find?_append]
  cases List.find? (·.1 == name) rest.reverse with
  | some q => rfl
  | none => by_cases h : p.1 = name <;> simp [h]

/-- A later list of pairs counts before an earlier one. -/
theorem lastValue?_append (name : String) (xs ys : List (String × α)) :
    lastValue? name (xs ++ ys) = (lastValue? name ys).or (lastValue? name xs) := by
  simp only [lastValue?, List.reverse_append, List.find?_append]
  cases List.find? (·.1 == name) ys.reverse <;> rfl

/-- Values may be changed before the last one is chosen, or after. -/
theorem lastValue?_map (name : String) (f : α → β) (pairs : List (String × α)) :
    lastValue? name (pairs.map fun p => (p.1, f p.2)) = (lastValue? name pairs).map f := by
  induction pairs with
  | nil => rfl
  | cons p rest ih =>
    rw [List.map_cons, lastValue?_cons, lastValue?_cons, ih]
    cases lastValue? name rest with
    | some v => rfl
    | none => by_cases h : p.1 = name <;> simp [h]

/-- The last value stands under the name. -/
theorem mem_of_lastValue? {name : String} {v : α} {pairs : List (String × α)}
    (h : lastValue? name pairs = some v) : (name, v) ∈ pairs := by
  obtain ⟨⟨other, w⟩, hfind, rfl⟩ := Option.map_eq_some_iff.1 h
  have hname : other = name := by simpa using List.find?_some hfind
  exact List.mem_reverse.1 (hname ▸ List.mem_of_find?_eq_some hfind)

theorem lastValue?_eq_none_iff {name : String} {pairs : List (String × α)} :
    lastValue? name pairs = none ↔ ∀ p ∈ pairs, p.1 ≠ name := by
  induction pairs with
  | nil => simp
  | cons p rest ih => simp [lastValue?_cons, ih, and_comm]

/-- A list is only changed if all its elements are. -/
theorem exists_of_mapM {f : α → Option β} {xs : List α} {ys : List β} (h : xs.mapM f = some ys)
    {x : α} (hx : x ∈ xs) : ∃ y ∈ ys, f x = some y := by
  induction xs generalizing ys with
  | nil => exact absurd hx (by simp)
  | cons x' rest ih =>
    simp only [List.mapM_cons, Option.bind_eq_bind, Option.bind_eq_some_iff, Option.pure_def,
      Option.some.injEq] at h
    obtain ⟨y, hy, ys', hys', rfl⟩ := h
    rcases List.mem_cons.1 hx with rfl | hx
    · exact ⟨y, by simp, hy⟩
    · obtain ⟨y', hy', hf⟩ := ih hys' hx
      exact ⟨y', by simp [hy'], hf⟩

/-- A list is changed if all its elements are. -/
theorem exists_mapM {f : α → Option β} {xs : List α} (h : ∀ x ∈ xs, ∃ y, f x = some y) :
    ∃ ys, xs.mapM f = some ys := by
  induction xs with
  | nil => exact ⟨[], rfl⟩
  | cons x rest ih =>
    obtain ⟨y, hy⟩ := h x (by simp)
    obtain ⟨ys, hys⟩ := ih fun x' hx' => h x' (by simp [hx'])
    exact ⟨y :: ys, by simp [hy, hys]⟩

/-- A change that cannot fail may follow one that can. -/
theorem mapM_map_of_mapM {γ : Type w} {f : α → Option β} (g : β → γ) {xs : List α} {ys : List β}
    (h : xs.mapM f = some ys) : xs.mapM (fun x => (f x).map g) = some (ys.map g) := by
  induction xs generalizing ys with
  | nil =>
    obtain rfl : [] = ys := Option.some.inj h
    rfl
  | cons x rest ih =>
    simp only [List.mapM_cons, Option.bind_eq_bind, Option.bind_eq_some_iff, Option.pure_def,
      Option.some.injEq] at h
    obtain ⟨y, hy, ys', hys', rfl⟩ := h
    simp [hy, ih hys']

/-- A change that undoes another one gives the list back. -/
theorem mapM_map_of_inverse {f : β → Option α} {g : α → β} (h : ∀ x, f (g x) = some x)
    (xs : List α) : (xs.map g).mapM f = some xs := by
  induction xs with
  | nil => rfl
  | cons x rest ih => simp [h x, ih]

/-- Only a list of one element is changed into one. -/
theorem mapM_eq_singleton_iff {f : α → Option β} {xs : List α} {y : β} :
    xs.mapM f = some [y] ↔ ∃ x, xs = [x] ∧ f x = some y := by
  cases xs with
  | nil => simp
  | cons x rest =>
    cases rest with
    | nil => simp [Option.bind_eq_some_iff]
    | cons x' rest => simp [Option.bind_eq_some_iff]

/-- A list is changed under a condition if it holds of all elements. -/
theorem mapM_ite (f : α → Option β) (p : α → Prop) [DecidablePred p] (xs : List α) :
    xs.mapM (fun x => if p x then f x else none) =
      if ∀ x ∈ xs, p x then xs.mapM f else none := by
  induction xs with
  | nil => simp
  | cons x rest ih =>
    rw [List.mapM_cons, ih]
    simp only [List.forall_mem_cons, List.mapM_cons]
    by_cases hx : p x
    · by_cases hrest : ∀ y ∈ rest, p y
      · simp only [hx, if_pos hrest, true_and, if_true]
      · simp [hx, if_neg hrest]
    · simp [hx]

theorem length_of_mapM {f : α → Option β} {xs : List α} {ys : List β} (h : xs.mapM f = some ys) :
    ys.length = xs.length := by
  induction xs generalizing ys with
  | nil =>
    obtain rfl : [] = ys := Option.some.inj h
    rfl
  | cons x rest ih =>
    simp only [List.mapM_cons, Option.bind_eq_bind, Option.bind_eq_some_iff, Option.pure_def,
      Option.some.injEq] at h
    obtain ⟨y, -, ys', hys', rfl⟩ := h
    rw [List.length_cons, List.length_cons, ih hys']

/-- Two changes that may fail make one. -/
theorem mapM_bind {γ : Type w} {f : α → Option β} {g : β → Option γ} (xs : List α) :
    xs.mapM (fun x => (f x).bind g) = (xs.mapM f).bind (·.mapM g) := by
  induction xs with
  | nil => rfl
  | cons x rest ih =>
    rw [List.mapM_cons, List.mapM_cons, ih]
    cases f x with
    | none => rfl
    | some y =>
      cases rest.mapM f with
      | none => cases h : g y <;> simp [h]
      | some ys => simp

/-- A list is changed element by element. -/
theorem getElem?_of_mapM {f : α → Option β} {xs : List α} {ys : List β}
    (h : xs.mapM f = some ys) (i : Nat) : ys[i]? = xs[i]?.bind f := by
  induction xs generalizing ys i with
  | nil =>
    obtain rfl : [] = ys := Option.some.inj h
    rfl
  | cons x rest ih =>
    simp only [List.mapM_cons, Option.bind_eq_bind, Option.bind_eq_some_iff, Option.pure_def,
      Option.some.injEq] at h
    obtain ⟨y, hy, ys', hys', rfl⟩ := h
    cases i with
    | zero => simp [hy]
    | succ i => simpa using ih hys' i

/-- What a list is changed into comes from its elements. -/
theorem exists_of_mem_mapM {f : α → Option β} {xs : List α} {ys : List β}
    (h : xs.mapM f = some ys) {y : β} (hy : y ∈ ys) : ∃ x ∈ xs, f x = some y := by
  obtain ⟨i, hi⟩ := List.mem_iff_getElem?.1 hy
  rw [getElem?_of_mapM h i] at hi
  obtain ⟨x, hx, hf⟩ := Option.bind_eq_some_iff.1 hi
  exact ⟨x, List.mem_of_getElem? hx, hf⟩

/-- Values may be changed before the last one is chosen also if a change may fail. -/
theorem lastValue?_mapM {name : String} {f : α → Option β} {pairs : List (String × α)}
    {changed : List (String × β)}
    (h : pairs.mapM (fun p => (f p.2).map (p.1, ·)) = some changed) :
    lastValue? name changed = (lastValue? name pairs).bind f := by
  induction pairs generalizing changed with
  | nil =>
    obtain rfl : [] = changed := Option.some.inj h
    rfl
  | cons p rest ih =>
    simp only [List.mapM_cons, Option.bind_eq_bind, Option.bind_eq_some_iff, Option.map_eq_some_iff,
      Option.pure_def, Option.some.injEq] at h
    obtain ⟨q, ⟨v, hv, rfl⟩, rest', hrest, rfl⟩ := h
    rw [lastValue?_cons, lastValue?_cons, ih hrest]
    cases hlast : lastValue? name rest with
    | none => by_cases h : p.1 = name <;> simp [h, hv]
    | some w =>
      -- Every value was changed, so this one was too.
      obtain ⟨q, -, hq⟩ := exists_of_mapM hrest (mem_of_lastValue? hlast)
      obtain ⟨w', hw', -⟩ := Option.map_eq_some_iff.1 hq
      simp only at hw'
      simp [hw']

namespace Fields

private theorem get?_foldl_insert (name : String) (pairs : List (String × α)) (fs : Fields α) :
    (pairs.foldl (fun fs p => fs.insert p.1 p.2) fs).get? name =
      (lastValue? name pairs).or (fs.get? name) := by
  induction pairs generalizing fs with
  | nil => rfl
  | cons p rest ih =>
    rw [List.foldl_cons, ih, lastValue?_cons, get?_insert]
    cases lastValue? name rest with
    | some v => rfl
    | none => by_cases h : p.1 = name <;> simp [h]

/-- A look-up finds the value of the last pair with its name. -/
theorem get?_ofList (name : String) (pairs : List (String × α)) :
    (ofList pairs).get? name = lastValue? name pairs := by
  rw [ofList, get?_foldl_insert, get?_empty, Option.or_none]

/-- No name is repeated, so the last value under a name is the only one. -/
theorem lastValue?_toList (fs : Fields α) (name : String) :
    lastValue? name fs.toList = fs.get? name := by
  cases hlast : lastValue? name fs.toList with
  | some v => exact (mem_toList_iff.1 (mem_of_lastValue? hlast)).symm
  | none =>
    cases hget : fs.get? name with
    | none => rfl
    | some v => exact absurd rfl (lastValue?_eq_none_iff.1 hlast _ (mem_toList_iff.2 hget))

/-- A field list is that of its own pairs. -/
theorem ofList_toList (fs : Fields α) : ofList fs.toList = fs :=
  ext_get? fun name => by rw [get?_ofList, lastValue?_toList]

/-- What a field list of pairs holds is one of them. -/
theorem mem_of_mem_ofList {pairs : List (String × α)} {p : String × α}
    (h : p ∈ (ofList pairs).toList) : p ∈ pairs :=
  mem_of_lastValue? ((get?_ofList p.1 pairs).symm.trans (mem_toList_iff.1 h))

end Fields

end TokenAtlas
